import Relational.NameMap

/-!
# Data directories

A directory holds texts under file names.  A file is replaced as a whole: the
new text is staged under a name of its own, which then becomes the file, so a
reader finds the text before or the text after.  A directory may refuse to take
files, and then it stays as it was.  A directory that is blocked holds no file
and takes none.
-/

namespace Relational

/-- The files of a directory. -/
structure Directory where
  files : NameMap String
  /-- Something else stands in the place of the directory. -/
  blocked : Bool
  /-- The files that cannot be replaced at present. -/
  refuses : String → Bool

namespace Directory

/-- A directory without files that refuses none. -/
def empty : Directory :=
  ⟨NameMap.empty, false, fun _ => false⟩

/-- The text of a file, if it exists. -/
def read? (directory : Directory) (file : String) : Option String :=
  directory.files.get? file

/-- The directory with a file. -/
def put (directory : Directory) (file text : String) : Directory :=
  { directory with files := directory.files.insert file text }

/-- The directory without a file. -/
def remove (directory : Directory) (file : String) : Directory :=
  { directory with files := directory.files.erase file }

/-! ### Names -/

/-- The most bytes that the name of a file has. -/
def longestName : Nat := 255

/-- A file has a name that is no path and that does not denote a directory. -/
def isFileName (name : String) : Bool :=
  name ≠ "" && name ≠ "." && name ≠ ".." && name.utf8ByteSize ≤ longestName &&
    name.toList.all fun c => c ≠ '/' && c ≠ '\x00'

/-- The name of the file that a path leads to within the directory.  A path may
pass through the directory itself on its way. -/
def fileAt? (path : String) : Option String :=
  match path.splitOn "/" with
  | [file] => if isFileName file then some file else none
  | "." :: steps => follow steps
  | _ => none
where
  /-- The file at the end of the steps that are left. -/
  follow : List String → Option String
    | [] => none
    | [file] => if isFileName file then some file else none
    | step :: steps => if step = "" ∨ step = "." then follow steps else none

/-! ### Replacing files -/

/-- The name under which the new text of a file is staged. -/
def stagingName (file : String) : String :=
  file ++ ".tmp"

/-- A file can be replaced if it is not refused and its text can be staged. -/
def accepts (directory : Directory) (file : String) : Bool :=
  !directory.blocked && !directory.refuses file && isFileName (stagingName file)

/-- Replace a file's text, if the directory accepts it.  Nothing stays staged. -/
def replace? (directory : Directory) (file text : String) : Option Directory :=
  if directory.accepts file then some ((directory.remove (stagingName file)).put file text)
  else none

/-- Put a file there by hand, by a path that leads to it. -/
def put? (directory : Directory) (path text : String) : Option Directory :=
  if directory.blocked then none else (fileAt? path).map fun file => directory.put file text

/-! ### Blocking -/

/-- A directory that has lost its files and takes none. -/
def block : Directory :=
  { empty with blocked := true }

/-- The directory after it has been blocked, which is empty. -/
def unblock? (directory : Directory) : Option Directory :=
  if directory.blocked then some empty else none

end Directory

end Relational
