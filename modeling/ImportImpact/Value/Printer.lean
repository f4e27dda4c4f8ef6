import ImportImpact.Decimal.FloatText
import ImportImpact.Text.Quoted
import ImportImpact.Value.Basic

/-!
Values as messages show them. A text is quoted where it stands for a value or inside another
value, and written as it is where a value is turned into text.
-/

namespace ImportImpact.Value

def floatNames : Decimal.SpecialNames := ⟨"inf", "nan"⟩

mutual

def shown : Value → String
  | .null => "None"
  | .bool truth => if truth then "True" else "False"
  | .int number => toString number
  | .float number => Decimal.floatText floatNames number
  | .str text => Text.quoted text
  | .list items => "[" ++ ", ".intercalate (shownItems items) ++ "]"
  | .dict entries => "\x7b" ++ ", ".intercalate (shownEntries entries) ++ "\x7d"

def shownItems : List Value → List String
  | [] => []
  | item :: rest => item.shown :: shownItems rest

def shownEntries : List (Value × Value) → List String
  | [] => []
  | (key, value) :: rest => (key.shown ++ ": " ++ value.shown) :: shownEntries rest

end

def text : Value → String
  | .str text => text
  | other => other.shown

end ImportImpact.Value
