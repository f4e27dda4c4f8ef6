import ImportImpact.Text.Split

/-!
Tables of two columns in a frame, with a title centred above. The first column is aligned to the
left, the second to the right.
-/

namespace ImportImpact.Console

structure Row where
  label : String
  value : String

def widest (texts : List String) : Nat := (texts.map String.length).foldl max 0

def repeated (count : Nat) (character : Char) : String := "".pushn character count

structure Table where
  title : String
  rows : List Row

namespace Table

def labelWidth (table : Table) : Nat := widest (table.rows.map Row.label)

def valueWidth (table : Table) : Nat := widest (table.rows.map Row.value)

def edge (table : Table) (left middle right : String) : String :=
  left ++ repeated (table.labelWidth + 2) '─' ++ middle ++
    repeated (table.valueWidth + 2) '─' ++ right

def rowText (table : Table) (row : Row) : String :=
  "│ " ++ row.label ++ repeated (table.labelWidth - row.label.length) ' ' ++ " │ " ++
    repeated (table.valueWidth - row.value.length) ' ' ++ row.value ++ " │"

def titleText (table : Table) : String :=
  let whole := table.labelWidth + table.valueWidth + 7
  repeated ((whole - table.title.length) / 2) ' ' ++ table.title

def lines (table : Table) : List String :=
  [table.titleText, table.edge "┌" "┬" "┐"] ++ table.rows.map table.rowText ++
    [table.edge "└" "┴" "┘"]

def text (table : Table) : String := String.join (table.lines.map (· ++ "\n"))

end Table

end ImportImpact.Console
