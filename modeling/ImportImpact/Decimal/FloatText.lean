import ImportImpact.Decimal.Shortest

/-!
Floats as text: the shortest decimal that reads back, positional from 0.0001 up to below
10 ^ 16 and with an exponent of at least two digits elsewhere. A decimal point is always
followed by a digit. The names of the infinities and of the undefined number are the caller's.
-/

namespace ImportImpact.Decimal

structure SpecialNames where
  infinite : String
  undefined : String

def stripZeros (number : Scientific) : Nat → Scientific
  | 0 => number
  | fuel + 1 =>
      if number.digits % 10 = 0 && number.digits ≠ 0 then
        stripZeros ⟨number.digits / 10, number.exponent + 1⟩ fuel
      else number

def exponentText (exponent : Int) : String :=
  let digits := toString exponent.natAbs
  (if exponent < 0 then "e-" else "e+") ++ (if digits.length < 2 then "0" ++ digits else digits)

/-- Twenty digits bound every decimal that is written here. -/
def Scientific.text (number : Scientific) : String :=
  let number := stripZeros number 20
  let digits := (toString number.digits).toList
  let point : Int := digits.length + number.exponent
  if point ≤ -4 || 16 < point then
    let tail := digits.drop 1
    String.ofList (digits.take 1 ++ (if tail.isEmpty then [] else '.' :: tail)) ++
      exponentText (point - 1)
  else if point ≤ 0 then
    String.ofList ('0' :: '.' :: List.replicate (-point).toNat '0' ++ digits)
  else if number.exponent ≥ 0 then
    String.ofList (digits ++ List.replicate number.exponent.toNat '0' ++ ['.', '0'])
  else
    String.ofList (digits.take point.toNat ++ '.' :: digits.drop point.toNat)

def floatText (names : SpecialNames) (number : Float) : String :=
  let bits := number.toBits.toNat
  let sign := if bits / 0x8000000000000000 = 1 then "-" else ""
  let magnitude := bits % 0x8000000000000000
  if magnitude > 0x7FF0000000000000 then names.undefined
  else if magnitude = 0x7FF0000000000000 then sign ++ names.infinite
  else if magnitude = 0 then sign ++ "0.0"
  else sign ++ (Binary.ofBits magnitude).shortest.text

/-- The float nearest to `digits * 10 ^ exponent`. Decimals far outside the range of floats are
decided by their magnitude, so that no huge power is computed. -/
def readFloat (digits : Nat) (exponent : Int) : Float :=
  let magnitude : Int := ((toString digits).length : Int) + exponent
  if digits = 0 || magnitude < -400 then 0.0
  else if magnitude > 400 then 1.0 / 0.0
  else Float.ofScientific digits (exponent < 0) exponent.natAbs

end ImportImpact.Decimal
