import ImportImpact.Text.Blank
import ImportImpact.Text.Digit

/-!
Reading integers: blanks at both ends, one sign, digits of any script, single underscores
between digits. Numbers of more than 4300 digits are refused.
-/

namespace ImportImpact.Decimal

/-- The digits read so far, the last one first, and whether an underscore may follow. -/
def readDigits (read : List Nat) (afterDigit : Bool) : List Char → Option (List Nat)
  | [] => if afterDigit then some read else none
  | character :: rest =>
      if character = '_' then if afterDigit then readDigits read false rest else none
      else match Text.digitValue? character with
        | some digit => readDigits (digit :: read) true rest
        | none => none

def ofDigits (digits : List Nat) : Nat := digits.foldl (fun value digit => 10 * value + digit) 0

def readNatural? (text : List Char) : Option Nat := do
  let digits ← readDigits [] false text
  if digits.length > 4300 then none else some (ofDigits digits.reverse)

def readInteger? (text : String) : Option Int :=
  match Text.trim text.toList with
  | '+' :: rest => (readNatural? rest).map Int.ofNat
  | '-' :: rest => (readNatural? rest).map fun number => -(number : Int)
  | rest => (readNatural? rest).map Int.ofNat

end ImportImpact.Decimal
