/-!
UTF-16: pairs of bytes in either order, surrogates in pairs only. With no order given, a
byte-order mark decides and is dropped; without one the low byte comes first.
-/

namespace ImportImpact.Utf16

inductive ByteOrder where
  | lowFirst
  | highFirst
  deriving DecidableEq

def unit (order : ByteOrder) (first second : UInt8) : Nat :=
  match order with
  | .lowFirst => first.toNat + 0x100 * second.toNat
  | .highFirst => 0x100 * first.toNat + second.toNat

def unitsAfter? (order : ByteOrder) (read : List Nat) : List UInt8 → Option (List Nat)
  | [] => some read.reverse
  | [_] => none
  | first :: second :: rest => unitsAfter? order (unit order first second :: read) rest

def isHigh (unit : Nat) : Bool := 0xD800 ≤ unit && unit < 0xDC00

def isLow (unit : Nat) : Bool := 0xDC00 ≤ unit && unit < 0xE000

/-- The characters read so far come last first; `high` is a surrogate that waits for its
second half. -/
def ofUnitsAfter? (read : List Char) (high : Option Nat) : List Nat → Option (List Char)
  | [] => if high.isNone then some read.reverse else none
  | unit :: rest => match high with
    | some first =>
        if isLow unit then
          ofUnitsAfter? (Char.ofNat (0x10000 + (first - 0xD800) * 0x400 + (unit - 0xDC00)) :: read)
            none rest
        else none
    | none =>
        if isLow unit then none
        else if isHigh unit then ofUnitsAfter? read (some unit) rest
        else ofUnitsAfter? (Char.ofNat unit :: read) none rest

def decode? (order : ByteOrder) (bytes : List UInt8) : Option (List Char) :=
  (unitsAfter? order [] bytes).bind (ofUnitsAfter? [] none)

def decodeMarked? (bytes : List UInt8) : Option (List Char) :=
  match bytes with
  | 0xFF :: 0xFE :: rest => decode? .lowFirst rest
  | 0xFE :: 0xFF :: rest => decode? .highFirst rest
  | _ => decode? .lowFirst bytes

end ImportImpact.Utf16
