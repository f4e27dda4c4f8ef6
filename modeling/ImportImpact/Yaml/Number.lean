import ImportImpact.Decimal.FloatText
import ImportImpact.Text.Split

/-!
Numbers in YAML documents: whole numbers in base two, eight, ten, sixteen and sixty, and numbers
with a point. Underscores among the digits do not count.
-/

namespace ImportImpact.Yaml.Number

def isDigit (character : Char) : Bool := character.isDigit

def isDigitOrLine (character : Char) : Bool := character.isDigit || character = '_'

def isHexadecimal (character : Char) : Bool :=
  character.isDigit || 'a' ≤ character && character ≤ 'f' || 'A' ≤ character && character ≤ 'F'

def unsigned (text : List Char) : Bool × List Char :=
  match text with
  | '-' :: rest => (true, rest)
  | '+' :: rest => (false, rest)
  | _ => (false, text)

def signed (negative : Bool) (magnitude : Nat) : Int :=
  if negative then -(magnitude : Int) else magnitude

def digitValue (character : Char) : Nat :=
  if character.isDigit then character.toNat - 48
  else character.toLower.toNat - 87

def inBase (base : Nat) (digits : List Char) : Nat :=
  digits.foldl (fun value digit => base * value + digitValue digit) 0

def withoutLines (text : List Char) : List Char := text.filter (· != '_')

inductive Unreadable where
  | noDigits (base : Nat)
  | tooManyDigits (count : Nat)
  deriving DecidableEq

abbrev Whole := Except Unreadable Int

/-- In a base that is not ten, the underscores may leave no digit. -/
def Whole.ofDigits (base : Nat) (negative : Bool) (digits : List Char) : Whole :=
  let digits := withoutLines digits
  if digits.isEmpty then .error (.noDigits base)
  else .ok (signed negative (inBase base digits))

def mostDigits : Nat := 4300

def Whole.ofDecimal (negative : Bool) (digits : List Char) : Whole :=
  let digits := withoutLines digits
  if digits.length > mostDigits then .error (.tooManyDigits digits.length)
  else .ok (signed negative (inBase 10 digits))

def isSixtieth (part : List Char) : Bool :=
  match part with
  | [digit] => digit.isDigit
  | [tens, digit] => '0' ≤ tens && tens ≤ '5' && digit.isDigit
  | _ => false

def sixtieths? (text : List Char) : Option (List Char × List (List Char)) :=
  match Text.split ':' text with
  | units :: part :: parts =>
      if (part :: parts).all isSixtieth then some (units, part :: parts) else none
  | _ => none

def Whole.ofSixtieths? (negative : Bool) (text : List Char) : Option Whole := do
  let (units, parts) ← sixtieths? text
  if units.all isDigitOrLine then
    let units := withoutLines units
    let total := parts.foldl (fun total part => 60 * total + inBase 10 part) (inBase 10 units)
    if units.length > mostDigits then some (.error (.tooManyDigits units.length))
    else some (.ok (signed negative total))
  else none

def whole? (text : List Char) : Option Whole :=
  let (negative, body) := unsigned text
  match body with
  | [] => none
  | '0' :: 'b' :: digits =>
      if !digits.isEmpty && digits.all (fun digit => digit = '0' || digit = '1' || digit = '_')
      then some (.ofDigits 2 negative digits) else none
  | '0' :: 'x' :: digits =>
      if !digits.isEmpty && digits.all (fun digit => isHexadecimal digit || digit = '_')
      then some (.ofDigits 16 negative digits) else none
  | '0' :: digits =>
      if digits.all (fun digit => '0' ≤ digit && digit ≤ '7' || digit = '_')
      then some (.ok (signed negative (inBase 8 (withoutLines digits)))) else none
  | first :: rest =>
      if !first.isDigit then none
      else if rest.all isDigitOrLine then some (.ofDecimal negative body)
      else Whole.ofSixtieths? negative body

def splitExponent? (text : List Char) : Option (List Char × Int) :=
  let plain (character : Char) : Bool := character != 'e' && character != 'E'
  match text.dropWhile plain with
  | [] => some (text, 0)
  | _ :: sign :: digits =>
      if (sign = '+' || sign = '-') && !digits.isEmpty && digits.all isDigit then
        some (text.takeWhile plain, signed (sign = '-') (inBase 10 digits))
      else none
  | _ => none

def splitPoint? (text : List Char) : Option (List Char × List Char) :=
  match text.dropWhile (· != '.') with
  | [] => none
  | _ :: fraction => some (text.takeWhile (· != '.'), fraction)

def pointValue (units fraction : List Char) (exponent : Int) : Float :=
  let fraction := withoutLines fraction
  Decimal.readFloat (inBase 10 (withoutLines units ++ fraction)) (exponent - fraction.length)

def signedFloat (negative : Bool) (number : Float) : Float :=
  if negative then -number else number

/-- A number with a point. Without digits before the point it has one after it and no sign. -/
def pointed? (text : List Char) : Option Float := do
  let (negative, body) := unsigned text
  let (digits, exponent) ← splitExponent? body
  let (units, fraction) ← splitPoint? digits
  if !(units ++ fraction).all isDigitOrLine then none
  else if units.isEmpty then
    if fraction.head?.any isDigit && body.length = text.length then
      some (pointValue [] fraction exponent)
    else none
  else if units.head?.any isDigit then
    some (signedFloat negative (pointValue units fraction exponent))
  else none

def pointedSixtieths? (text : List Char) : Option Float := do
  let (negative, body) := unsigned text
  let (whole, fraction) ← splitPoint? body
  let (units, parts) ← sixtieths? whole
  if units.head?.any isDigit && (units ++ fraction).all isDigitOrLine then
    let last := pointValue (parts.getLast?.getD []) fraction 0
    let earlier := ((units :: parts).dropLast.reverse).map fun part => pointValue part [] 0
    let total := earlier.foldl (fun (sum, base) part => (sum + part * base, base * 60.0))
      (last, 60.0)
    some (signedFloat negative total.1)
  else none

def infiniteNames : List String := [".inf", ".Inf", ".INF"]

def undefinedNames : List String := [".nan", ".NaN", ".NAN"]

def special? (text : List Char) : Option Float :=
  let (negative, body) := unsigned text
  if infiniteNames.contains (String.ofList body) then some (signedFloat negative (1.0 / 0.0))
  else if undefinedNames.contains (String.ofList text) then some (0.0 / 0.0)
  else none

def float? (text : List Char) : Option Float :=
  (pointed? text).or ((pointedSixtieths? text).or (special? text))

end ImportImpact.Yaml.Number
