import ImportImpact.Value.Printer
import ImportImpact.Yaml.Style

/-!
Writing values as YAML documents. Lists and mappings are written by indentation, two columns for
each level; a list under a key begins in the column of the key. Empty ones are written in
brackets.
-/

namespace ImportImpact.Yaml

def floatNames : Decimal.SpecialNames := ⟨".inf", ".nan"⟩

/-- Floats always have a point, so that they read back as floats. -/
def floatText (number : Float) : List Char :=
  let text := (Decimal.floatText floatNames number).toList
  if text.contains '.' then text
  else
    text.takeWhile (· != 'e') ++ (if text.contains 'e' then ['.', '0'] else []) ++
      text.dropWhile (· != 'e')

def writeScalar (frame : Frame) (key : Bool) : Value → List Char
  | .null => "null".toList
  | .bool truth => (if truth then "true" else "false").toList
  | .int number => (toString number).toList
  | .float number => floatText number
  | .str text => writeText frame key text.toList
  | .list _ | .dict _ => []

/-- The length of the tag that belongs to a key's kind; it counts although it is not written. -/
def tagLength : Value → Nat
  | .null | .bool _ => 6
  | .float _ => 7
  | _ => 5

def isSimpleKey (key : Value) : Bool :=
  let text := match key with
    | .str text => text.toList
    | other => writeScalar ⟨0, false, 0⟩ true other
  !text.isEmpty && !text.any isLineEnd && text.length + tagLength key < 128

def step : Nat := 2

def joinLines (column : Nat) (lines : List (List Char)) : List Char :=
  (newLine column).intercalate lines

def simpleEntry (column : Nat) (key : Value) (valueText : Nat → List Char) : List Char :=
  let text := writeScalar ⟨column, false, column⟩ true key
  text ++ ':' :: valueText (column + text.length + 1)

def splitEntry (column : Nat) (key : Value) (valueText : List Char) : List Char :=
  '?' :: ' ' :: writeScalar ⟨column + step, true, column + step⟩ false key ++
    newLine column ++ ':' :: valueText

mutual

def writeAfterSign (column : Nat) : Value → List Char
  | .list items =>
      ' ' :: if items.isEmpty then ['[', ']']
        else joinLines (column + step) (writeItems (column + step) items)
  | .dict entries =>
      ' ' :: if entries.isEmpty then ['\x7b', '\x7d']
        else joinLines (column + step) (writeEntries (column + step) entries)
  | value => ' ' :: writeScalar ⟨column + step, true, column + step⟩ false value

def writeAfterKey (column : Nat) : Value → (after : Nat) → List Char
  | .list items, _ =>
      if items.isEmpty then [' ', '[', ']']
      else newLine column ++ joinLines column (writeItems column items)
  | .dict entries, _ =>
      if entries.isEmpty then [' ', '\x7b', '\x7d']
      else newLine (column + step) ++
        joinLines (column + step) (writeEntries (column + step) entries)
  | value, after => ' ' :: writeScalar ⟨after + 1, true, column + step⟩ false value

def writeItems (column : Nat) : List Value → List (List Char)
  | [] => []
  | item :: rest => ('-' :: writeAfterSign column item) :: writeItems column rest

def writeEntries (column : Nat) : List (Value × Value) → List (List Char)
  | [] => []
  | (key, value) :: rest =>
      (if isSimpleKey key then simpleEntry column key (writeAfterKey column value)
        else splitEntry column key (writeAfterSign column value)) :: writeEntries column rest

end

def writeMapping (entries : List (Value × Value)) : List Char :=
  (if entries.isEmpty then ['\x7b', '\x7d'] else joinLines 0 (writeEntries 0 entries)) ++ ['\n']

end ImportImpact.Yaml
