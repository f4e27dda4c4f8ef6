import ImportImpact.Decimal.FloatText
import ImportImpact.Json.Escape
import ImportImpact.Platform

/-!
Values as indented JSON: two spaces for each level, one item on a line, entries in their order,
nothing but ASCII. Empty lists and mappings take no line of their own. Floats that JSON has no
number for are written by name.
-/

namespace ImportImpact.Json

def floatNames : Decimal.SpecialNames := ⟨"Infinity", "NaN"⟩

def writeText (text : String) : List Char := '"' :: text.toList.flatMap escape ++ ['"']

def newLine (depth : Nat) : List Char := '\n' :: List.replicate (2 * depth) ' '

def writeInt (number : Int) : List Char := (toString number).toList

def writeFloat (number : Float) : List Char := (Decimal.floatText floatNames number).toList

def writeBool (truth : Bool) : List Char := if truth then "true".toList else "false".toList

/-- Keys other than texts are written as texts. Lists and mappings are no keys. -/
def writeKey : Value → List Char
  | .str text => writeText text
  | .int number => '"' :: writeInt number ++ ['"']
  | .bool truth => '"' :: writeBool truth ++ ['"']
  | .float number => '"' :: writeFloat number ++ ['"']
  | _ => "\"null\"".toList

mutual

def write (depth : Nat) : Value → List Char
  | .null => "null".toList
  | .bool truth => writeBool truth
  | .int number => writeInt number
  | .float number => writeFloat number
  | .str text => writeText text
  | .list [] => "[]".toList
  | .list (item :: rest) =>
      '[' :: newLine (depth + 1) ++ write (depth + 1) item ++ writeItems (depth + 1) rest
        ++ newLine depth ++ [']']
  | .dict [] => ['\x7b', '\x7d']
  | .dict ((key, value) :: rest) =>
      '\x7b' :: newLine (depth + 1) ++ writeKey key ++ ':' :: ' ' :: write (depth + 1) value
        ++ writeEntries (depth + 1) rest ++ newLine depth ++ ['\x7d']

def writeItems (depth : Nat) : List Value → List Char
  | [] => []
  | item :: rest => ',' :: newLine depth ++ write depth item ++ writeItems depth rest

def writeEntries (depth : Nat) : List (Value × Value) → List Char
  | [] => []
  | (key, value) :: rest =>
      ',' :: newLine depth ++ writeKey key ++ ':' :: ' ' :: write depth value
        ++ writeEntries depth rest

end

def render (value : Value) : Outcome String := do
  value.demandWritable
  pure (String.ofList (write 0 value))

def renderWithin (room : Room) (value : Value) : Outcome String := do
  value.demandWithin room.fault room.levels
  pure (String.ofList (write 0 value))

end ImportImpact.Json
