import ImportImpact.Fault

/-!
UTF-8. Reading is strict: overlong forms, surrogates, values above U+10FFFF and truncated
characters are refused, and the refusal names the bytes at fault. A byte-order mark is read as
the character it is.
-/

namespace ImportImpact.Utf8

def byte (number : Nat) : UInt8 := UInt8.ofNat number

def encodeCharacter (character : Char) : List UInt8 :=
  let point := character.toNat
  if point < 0x80 then [byte point]
  else if point < 0x800 then [byte (0xC0 + point / 0x40), byte (0x80 + point % 0x40)]
  else if point < 0x10000 then
    [byte (0xE0 + point / 0x1000), byte (0x80 + point / 0x40 % 0x40), byte (0x80 + point % 0x40)]
  else
    [byte (0xF0 + point / 0x40000), byte (0x80 + point / 0x1000 % 0x40),
      byte (0x80 + point / 0x40 % 0x40), byte (0x80 + point % 0x40)]

def encode (text : List Char) : List UInt8 := text.flatMap encodeCharacter

def ofString (text : String) : List UInt8 := encode text.toList

/-- What a first byte announces: the bits it gives, the range of the second byte, and how many
bytes follow the first. -/
structure Lead where
  bits : Nat
  low : Nat
  high : Nat
  following : Nat

def lead? (first : Nat) : Option Lead :=
  if first < 0x80 then some ⟨first, 0x80, 0xBF, 0⟩
  else if first < 0xC2 then none
  else if first < 0xE0 then some ⟨first - 0xC0, 0x80, 0xBF, 1⟩
  else if first < 0xF0 then
    some ⟨first - 0xE0, if first = 0xE0 then 0xA0 else 0x80,
      if first = 0xED then 0x9F else 0xBF, 2⟩
  else if first < 0xF5 then
    some ⟨first - 0xF0, if first = 0xF0 then 0x90 else 0x80,
      if first = 0xF4 then 0x8F else 0xBF, 3⟩
  else none

/-- How the bytes after the first one fail: none left, or the one after `good` of them is out of
range. -/
inductive Broken where
  | truncated
  | outOfRange (good : Nat)

def readFollowing (bits low high good : Nat) : Nat → List UInt8 → Except Broken (Nat × List UInt8)
  | 0, rest => .ok (bits, rest)
  | _ + 1, [] => .error .truncated
  | count + 1, next :: rest =>
      if low ≤ next.toNat && next.toNat ≤ high then
        readFollowing (bits * 0x40 + (next.toNat - 0x80)) 0x80 0xBF (good + 1) count rest
      else .error (.outOfRange good)

theorem read_following_shrinks {bits low high good count : Nat} {input : List UInt8}
    {result : Nat × List UInt8}
    (given : readFollowing bits low high good count input = .ok result) :
    result.2.length ≤ input.length := by
  induction count generalizing bits low high good input with
  | zero => simp_all [readFollowing]; subst given; simp
  | succ count induction =>
      cases input with
      | nil => simp [readFollowing] at given
      | cons next rest =>
          simp only [readFollowing] at given
          split at given
          · have := induction given
            simp only [List.length_cons]; omega
          · simp at given

/-- `offset` bytes have been read; the characters come out last first. -/
def decodeFrom (offset : Nat) (read : List Char) : List UInt8 → Except BadBytes (List Char)
  | [] => .ok read.reverse
  | first :: rest =>
      match lead? first.toNat with
      | none => .error ⟨first.toNat, offset, offset + 1, "invalid start byte"⟩
      | some lead =>
          match _done : readFollowing lead.bits lead.low lead.high 0 lead.following rest with
          | .error .truncated =>
              .error ⟨first.toNat, offset, offset + 1 + rest.length, "unexpected end of data"⟩
          | .error (.outOfRange good) =>
              .error ⟨first.toNat, offset, offset + 1 + good, "invalid continuation byte"⟩
          | .ok (point, after) =>
              decodeFrom (offset + 1 + lead.following) (Char.ofNat point :: read) after
  termination_by input => input.length
  decreasing_by
    have := read_following_shrinks _done
    simp only [List.length_cons] at *
    omega

def decode (bytes : List UInt8) : Except BadBytes (List Char) := decodeFrom 0 [] bytes

end ImportImpact.Utf8
