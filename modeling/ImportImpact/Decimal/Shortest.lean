/-!
The shortest decimal that reads back as a given binary number. The number is
`mantissa * 2 ^ exponent`; a decimal reads back if it lies in the interval of reals that round to
the number, whose ends count iff the mantissa is even. Fewer digits win; among decimals of one
length the nearest wins. Nothing here is proved about `Float` itself.
-/

namespace ImportImpact.Decimal

/-- A positive number `mantissa * 2 ^ exponent`. The flag says that the gap to the number below
is half the gap to the number above. -/
structure Binary where
  mantissa : Nat
  exponent : Int
  narrowBelow : Bool

def Binary.ofBits (bits : Nat) : Binary :=
  let exponentBits := bits / 0x10000000000000 % 0x800
  let fraction := bits % 0x10000000000000
  if exponentBits = 0 then ⟨fraction, -1074, false⟩
  else ⟨fraction + 0x10000000000000, (exponentBits : Int) - 1075, fraction = 0 && exponentBits > 1⟩

structure Scientific where
  digits : Nat
  exponent : Int

/-- Quarter units of the last place, so that the ends of the interval are whole. -/
structure Interval where
  low : Nat
  value : Nat
  high : Nat
  closed : Bool

def Binary.interval (number : Binary) : Interval :=
  { low := 4 * number.mantissa - (if number.narrowBelow then 1 else 2)
    value := 4 * number.mantissa
    high := 4 * number.mantissa + 2
    closed := number.mantissa % 2 = 0 }

def Interval.holds (interval : Interval) (scaledLow scaledHigh candidate : Nat) : Bool :=
  if interval.closed then scaledLow ≤ candidate && candidate ≤ scaledHigh
  else scaledLow < candidate && candidate < scaledHigh

def powers (base : Nat) (exponent : Int) : Nat × Nat :=
  (Nat.pow base exponent.toNat, Nat.pow base (-exponent).toNat)

/-- The points of the grid `10 ^ exponent` on both sides of the number, as far as they read
back, the nearer one first. -/
def Binary.onGrid? (number : Binary) (exponent : Int) : Option Nat :=
  let interval := number.interval
  let (up, down) := powers 2 (number.exponent - 2)
  let (wide, fine) := powers 10 exponent
  let scale := up * fine
  let unit := down * wide
  let below := interval.value * scale / unit
  let lowEnd := interval.low * scale
  let highEnd := interval.high * scale
  let belowFits := interval.holds lowEnd highEnd (below * unit)
  let aboveFits := interval.holds lowEnd highEnd ((below + 1) * unit)
  let toBelow := interval.value * scale - below * unit
  let toAbove := (below + 1) * unit - interval.value * scale
  if belowFits && aboveFits then
    if toBelow < toAbove || toBelow = toAbove && below % 2 = 0 then some below
    else some (below + 1)
  else if belowFits then some below
  else if aboveFits then some (below + 1)
  else none

def Binary.magnitude (number : Binary) : Int :=
  let (up, down) := powers 2 number.exponent
  let guess := ((number.mantissa.log2 : Int) + number.exponent) * 30103 / 100000
  let above (power : Int) : Bool :=
    let (wide, fine) := powers 10 power
    number.mantissa * up * fine < down * wide
  if above (guess - 1) then guess - 1
  else if above guess then guess
  else if above (guess + 1) then guess + 1
  else guess + 2

/-- Tries one digit after the other, up to the seventeen that always suffice. -/
def Binary.shortest (number : Binary) : Scientific :=
  let magnitude := number.magnitude
  let tried := (List.range 17).findSome? fun (place : Nat) =>
    let exponent := magnitude - (place + 1 : Nat)
    (number.onGrid? exponent).map fun digits => Scientific.mk digits exponent
  tried.getD ⟨number.mantissa, 0⟩

end ImportImpact.Decimal
