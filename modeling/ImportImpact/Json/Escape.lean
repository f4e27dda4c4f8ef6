import ImportImpact.Text.Quoted

/-!
Characters inside JSON texts. Writing uses ASCII only: a character outside the plane of four hex
digits is written as a pair of surrogates. Reading joins such pairs.
-/

namespace ImportImpact.Json

def unitEscape (unit : Nat) : List Char := '\\' :: 'u' :: Text.lowerHexDigits 4 unit

def escape (character : Char) : List Char :=
  if character = '"' then ['\\', '"']
  else if character = '\\' then ['\\', '\\']
  else if character = '\n' then ['\\', 'n']
  else if character = '\r' then ['\\', 'r']
  else if character = '\t' then ['\\', 't']
  else if character = '\x08' then ['\\', 'b']
  else if character = '\x0c' then ['\\', 'f']
  else if 0x20 ≤ character.toNat && character.toNat < 0x7F then [character]
  else if character.toNat < 0x10000 then unitEscape character.toNat
  else
    let offset := character.toNat - 0x10000
    unitEscape (0xD800 + offset / 0x400) ++ unitEscape (0xDC00 + offset % 0x400)

def hexValue? (character : Char) : Option Nat :=
  let point := character.toNat
  if 0x30 ≤ point && point ≤ 0x39 then some (point - 0x30)
  else if 0x61 ≤ point && point ≤ 0x66 then some (point - 0x57)
  else if 0x41 ≤ point && point ≤ 0x46 then some (point - 0x37)
  else none

def hexNumber? (digits : List Char) : Option Nat :=
  digits.foldl (fun value digit => do
    let value ← value
    let next ← hexValue? digit
    pure (16 * value + next)) (some 0)

/-- Four hex digits that are not the last characters of the document. -/
def readUnit? (text : List Char) : Option (Nat × List Char) :=
  match text with
  | first :: second :: third :: fourth :: next :: rest =>
      (hexNumber? [first, second, third, fourth]).map fun unit => (unit, next :: rest)
  | _ => none

def isHighUnit (unit : Nat) : Bool := 0xD800 ≤ unit && unit < 0xDC00

def isLowUnit (unit : Nat) : Bool := 0xDC00 ≤ unit && unit < 0xE000

def joinUnits (high low : Nat) : Char :=
  Char.ofNat (0x10000 + (high - 0xD800) * 0x400 + (low - 0xDC00))

def simpleEscape? (character : Char) : Option Char :=
  if character = '"' || character = '\\' || character = '/' then some character
  else if character = 'b' then some '\x08'
  else if character = 'f' then some '\x0c'
  else if character = 'n' then some '\n'
  else if character = 'r' then some '\r'
  else if character = 't' then some '\t'
  else none

end ImportImpact.Json
