import Relational.Schema

/-!
# Grids

The shell shows results in grids drawn with box characters.  A column is as wide
as its widest cell, counted in characters.
-/

namespace Relational

namespace Grid

/-- A text with its lines ended. -/
def ofLines (lines : List String) : String :=
  String.join (lines.map fun line => line ++ "\n")

/-- A text with blanks behind it up to a width. -/
def padded (width : Nat) (text : String) : String :=
  text ++ String.ofList (List.replicate (width - text.length) ' ')

/-- A horizontal rule with its three kinds of joints. -/
def rule (left middle right : String) (widths : List Nat) : String :=
  let segments := widths.map fun width => String.ofList (List.replicate (width + 2) '─')
  left ++ middle.intercalate segments ++ right

/-- A line of cells. -/
def line (widths : List Nat) (cells : List String) : String :=
  let filled := (cells.zip widths).map fun (cell, width) => " " ++ padded width cell ++ " "
  "│" ++ "│".intercalate filled ++ "│"

/-- A grid with a heading. -/
def drawn (widths : List Nat) (heading : List String) (rows : List (List String)) :
    List String :=
  [rule "┌" "┬" "┐" widths, line widths heading, rule "├" "┼" "┤" widths] ++
    rows.map (line widths) ++ [rule "└" "┴" "┘" widths]

/-- Widths that have room for the cells of one more row. -/
def widen (widths : List Nat) (cells : List String) : List Nat :=
  widths.mapIdx fun position width => max width ((cells[position]?.map String.length).getD 0)

/-- The widths of the columns of a grid. -/
def widthsOf (heading : List String) (rows : List (List String)) : List Nat :=
  rows.foldl widen (heading.map String.length)

/-- A cell as it is shown: long texts are cut. -/
def cellText : Value → String
  | .text s =>
    if 50 < s.length then String.ofList (s.toList.take 47) ++ "..." else s
  | value => value.display

/-- The rows of a result. -/
def ofRows (columns : List String) (rows : List Row) : String :=
  if rows.isEmpty then ofLines ["No results"]
  else
    let cells := rows.map fun row => row.map cellText
    ofLines (drawn (widthsOf columns cells) columns cells ++
      ["", naturalText rows.length ++ " row(s) returned"])

/-- The declaration of a column as cells. -/
def columnCells (column : Column) : List String :=
  [column.name, column.type.sqlName, if column.primaryKey then "YES" else "",
    match column.references with
    | some target => target.table ++ "(" ++ target.column ++ ")"
    | none => ""]

/-- The columns and indexes of a table. -/
def ofSchema (schema : Schema) : String :=
  ofLines (["Table: " ++ schema.name] ++
    drawn [15, 8, 11, 20] ["Column", "Type", "Primary key", "References"]
      (schema.columns.map columnCells) ++
    schema.indexes.map fun declared =>
      "Index " ++ declared.name ++ " on (" ++ declared.column ++ ")")

end Grid

end Relational
