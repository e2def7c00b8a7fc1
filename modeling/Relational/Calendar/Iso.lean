import Relational.Calendar.DateTime
import Relational.Unicode.Property
import Relational.Value.Basic

/-!
# ISO 8601 texts

Moments are stored as texts of one fixed form,
`YYYY-MM-DDThh:mm:ss.ffffff`, whose order is the order of time.  Many more
forms are read: a date alone, a time to the minute or the second, a fraction of
any length, and an offset from universal time.
-/

namespace Relational

namespace DateTime

/-- The decimal digits of a number, padded with zeros to a least width. -/
def padded (width n : Nat) : List Char :=
  let digits := Nat.toDigits 10 n
  List.replicate (width - digits.length) '0' ++ digits

/-- A year: four digits, or outside the years 0 to 9999 a sign and at least
four digits. -/
def yearText (year : Int) : List Char :=
  if 0 ≤ year ∧ year ≤ 9999 then padded 4 year.natAbs
  else (if year < 0 then '-' else '+') :: padded 4 year.natAbs

/-- The canonical text of a moment, cut to microseconds. -/
def isoText (moment : DateTime) : List Char :=
  yearText moment.date.year ++ '-' :: padded 2 moment.date.month ++ '-' :: padded 2 moment.date.day ++
    'T' :: padded 2 moment.hour ++ ':' :: padded 2 moment.minute ++
    ':' :: padded 2 (moment.second + moment.nanosecond / 1000000000) ++
    '.' :: padded 6 (moment.nanosecond % 1000000000 / 1000)

/-- The canonical text of a moment as a string. -/
def iso (moment : DateTime) : String :=
  String.ofList moment.isoText

/-- A reader of the front of a text. -/
abbrev Reading (α : Type) : Type :=
  List Char → Option (α × List Char)

/-- The value of a number of at least one and at most `most` digits. -/
def digits (most : Nat) : Reading Nat :=
  fun text =>
    let run := (text.take most).takeWhile Char.isDigit
    if run.isEmpty then none else some (Decimal.valueOf run, text.drop run.length)

/-- A number of exactly `count` digits. -/
def exactDigits (count : Nat) : Reading Nat :=
  fun text =>
    let run := (text.take count).takeWhile Char.isDigit
    if run.length = count then some (Decimal.valueOf run, text.drop count) else none

/-- A given character. -/
def character (c : Char) : Reading Unit
  | [] => none
  | first :: rest => if first = c then some ((), rest) else none

/-- The nanoseconds that the digits after a point denote; digits beyond the
ninth have no effect. -/
def fractionDigits : Reading Nat :=
  fun text =>
    let run := text.takeWhile Char.isDigit
    if run.isEmpty then none
    else
      let kept := run.take 9
      some (Decimal.valueOf kept * Nat.pow 10 (9 - kept.length), text.drop run.length)

/-- An optional fraction of a second. -/
def fraction : Reading Nat
  | '.' :: rest => fractionDigits rest
  | text => some (0, text)

/-- The offset from universal time in minutes: `Z`, or a sign, two digits of
hours and two digits of minutes with a colon between them. -/
def zone : Reading Int
  | [] => none
  | sign :: rest =>
    if sign = 'Z' ∨ sign = 'z' then some (0, rest)
    else if sign = '+' ∨ sign = '-' ∨ sign = '\u2212' then do
      let (hours, rest) ← exactDigits 2 rest
      let (_, rest) ← character ':' rest
      let (minutes, rest) ← exactDigits 2 rest
      if 23 < hours ∨ 59 < minutes then none
      else
        let offset : Int := hours * 60 + minutes
        some (if sign = '+' then offset else -offset, rest)
    else none

/-- The separators between a date and a time that has an offset. -/
def isSeparator (c : Char) : Bool :=
  c = 'T' || c = 't' || c = ' '

/-- A moment with its offset from universal time, every field at its full
width; the moment is given in universal time. -/
def readZoned? (text : List Char) : Option DateTime := do
  let (year, rest) ← exactDigits 4 text
  let (_, rest) ← character '-' rest
  let (month, rest) ← exactDigits 2 rest
  let (_, rest) ← character '-' rest
  let (day, rest) ← exactDigits 2 rest
  let separator ← rest.head?
  if !isSeparator separator then none
  else
    let (hour, rest) ← exactDigits 2 rest.tail
    let (_, rest) ← character ':' rest
    let (minute, rest) ← exactDigits 2 rest
    let (_, rest) ← character ':' rest
    let (second, rest) ← exactDigits 2 rest
    let (nanosecond, rest) ← fraction rest
    let (offset, rest) ← zone rest
    if rest.isEmpty then
      let date ← Date.ofParts? year month day
      let moment ← ofParts? date hour minute second nanosecond
      moment.subtractOffset? offset
    else none

/-- A text without the white space in front. -/
def skipSpace (text : List Char) : List Char :=
  text.dropWhile Unicode.isSpace

/-- A year: up to four digits, or a sign and any number of digits. -/
def year : Reading Int :=
  fun text =>
    match skipSpace text with
    | '-' :: rest => (digits rest.length rest).map fun (n, after) => (-(n : Int), after)
    | '+' :: rest => (digits rest.length rest).map fun (n, after) => ((n : Int), after)
    | rest => (digits 4 rest).map fun (n, after) => ((n : Int), after)

/-- A field of one or two digits behind optional white space. -/
def shortField : Reading Nat :=
  fun text => digits 2 (skipSpace text)

/-- A date whose fields are separated by hyphens. -/
def dateFields : Reading (Option Date) :=
  fun text => do
    let (year, rest) ← year text
    let (_, rest) ← character '-' rest
    let (month, rest) ← shortField rest
    let (_, rest) ← character '-' rest
    let (day, rest) ← shortField rest
    some (Date.ofParts? year month day, rest)

/-- Hours and minutes with a colon between them. -/
def hourAndMinute : Reading (Nat × Nat) :=
  fun text => do
    let (hour, rest) ← shortField text
    let (_, rest) ← character ':' rest
    let (minute, rest) ← shortField rest
    some ((hour, minute), rest)

/-- A date and a time without offset.  The parts are joined by `separator`, and
the time may go down to seconds and their fraction. -/
def readLocal? (separator : Reading Unit) (toSeconds : Bool) (text : List Char) :
    Option DateTime := do
  let (date, rest) ← dateFields text
  let (_, rest) ← separator rest
  let ((hour, minute), rest) ← hourAndMinute rest
  if toSeconds then
    let (_, rest) ← character ':' rest
    let (second, rest) ← shortField rest
    let (nanosecond, rest) ← fraction rest
    if rest.isEmpty then ofParts? (← date) hour minute second nanosecond else none
  else if rest.isEmpty then ofParts? (← date) hour minute 0 0
  else none

/-- A date alone, which denotes the start of its day. -/
def readDate? (text : List Char) : Option DateTime := do
  let (date, rest) ← dateFields text
  if rest.isEmpty then some (startOfDay (← date)) else none

/-- Any amount of white space between date and time, none included. -/
def anySpace : Reading Unit :=
  fun text => some ((), skipSpace text)

/-- A text without one final `Z`. -/
def withoutZulu (text : List Char) : List Char :=
  if text.getLast? = some 'Z' then text.dropLast else text

/-- The moment that a text denotes.  A text with an offset is read first; of
the others the forms with more fields come first, and a final `Z` has no
effect. -/
def ofIso? (text : String) : Option DateTime :=
  let trimmed := Unicode.trimmed text.toList
  if trimmed.isEmpty then none
  else
    let bare := withoutZulu trimmed
    readZoned? trimmed
      <|> readLocal? (character 'T') true bare
      <|> readLocal? anySpace true bare
      <|> readLocal? (character 'T') false bare
      <|> readLocal? anySpace false bare
      <|> readDate? bare

end DateTime

end Relational
