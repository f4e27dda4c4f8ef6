import ImportImpact.Encoding.Utf8
import Mathlib.Data.Nat.Init

/-!
UTF-8 read strictly. The reader accepts exactly what the writer makes: every text reads back from
its bytes, and bytes that read as a text are the bytes of this text. So what is overlong, cut off, a
surrogate or beyond the last character is the encoding of nothing.
-/

namespace ImportImpact.Utf8

section Bytes

variable {number : Nat}

theorem byte_to_nat (small : number < 0x100) : (byte number).toNat = number := by
  rw [byte, UInt8.toNat_ofNat']
  exact Nat.mod_eq_of_lt small

theorem byte_eq {given : UInt8} (same : number = given.toNat) : byte number = given := by
  rw [byte, same, UInt8.ofNat_toNat]

theorem character_range (character : Char) :
    character.toNat < 0xD800 ∨ 0xDFFF < character.toNat ∧ character.toNat < 0x110000 :=
  character.valid

theorem number_of_character (given : number < 0xD800 ∨ 0xDFFF < number ∧ number < 0x110000) :
    (Char.ofNat number).toNat = number := by
  rw [Char.ofNat, dif_pos given]
  rfl

end Bytes

section Following

variable {bits low high good count number point : Nat} {rest after input : List UInt8}

theorem read_following_written (small : number < 0x40) (above : low ≤ 0x80 + number)
    (below : 0x80 + number ≤ high) :
    readFollowing bits low high good (count + 1) (byte (0x80 + number) :: rest) =
      readFollowing (bits * 0x40 + number) 0x80 0xBF (good + 1) count rest := by
  have same : (byte (0x80 + number)).toNat = 0x80 + number := byte_to_nat (by omega)
  rw [readFollowing, same, if_pos (by simp [above, below]), Nat.add_sub_cancel_left]

theorem exists_following
    (read : readFollowing bits low high good (count + 1) input = .ok (point, after)) :
    ∃ next rest, input = next :: rest ∧ low ≤ next.toNat ∧ next.toNat ≤ high ∧
      readFollowing (bits * 0x40 + (next.toNat - 0x80)) 0x80 0xBF (good + 1) count rest =
        .ok (point, after) := by
  cases input with
  | nil => cases read
  | cons next rest =>
      rw [readFollowing] at read
      split at read
      next inside =>
        obtain ⟨above, below⟩ : low ≤ next.toNat ∧ next.toNat ≤ high := by simpa using inside
        exact ⟨next, rest, rfl, above, below, read⟩
      · cases read

theorem read_following_nothing
    (read : readFollowing bits low high good 0 input = .ok (point, after)) :
    point = bits ∧ after = input := by
  cases read
  exact ⟨rfl, rfl⟩

end Following

section Character

variable {first : UInt8} {rest after : List UInt8} {point : Nat}

/-- The first byte and the bytes after it give a number, and so many bytes are left. -/
def Leads (first : UInt8) (rest : List UInt8) (point : Nat) (after : List UInt8) : Prop :=
  ∃ lead, lead? first.toNat = some lead ∧
    readFollowing lead.bits lead.low lead.high 0 lead.following rest = .ok (point, after)

/-- The bytes of a character lead to its number, whatever follows. -/
theorem leads_of_encoded (character : Char) (after : List UInt8) :
    ∃ first rest, encodeCharacter character ++ after = first :: rest ∧
      Leads first rest character.toNat after := by
  have range := character_range character
  rw [encodeCharacter]
  generalize character.toNat = point at range ⊢
  by_cases one : point < 0x80
  · refine ⟨byte point, after, by rw [if_pos one]; rfl, ⟨point, 0x80, 0xBF, 0⟩, ?_, rfl⟩
    rw [byte_to_nat (by omega), lead?, if_pos one]
  by_cases two : point < 0x800
  · refine ⟨byte (0xC0 + point / 0x40), byte (0x80 + point % 0x40) :: after,
      by rw [if_neg one, if_pos two]; rfl, ⟨_, _, _, 1⟩,
      by rw [byte_to_nat (by omega), lead?, if_neg (by omega), if_neg (by omega),
        if_pos (by omega)], ?_⟩
    dsimp only
    rw [read_following_written (by omega) (by omega) (by omega), readFollowing]
    congr 2
    omega
  by_cases three : point < 0x10000
  · refine ⟨byte (0xE0 + point / 0x1000),
      byte (0x80 + point / 0x40 % 0x40) :: byte (0x80 + point % 0x40) :: after,
      by rw [if_neg one, if_neg two, if_pos three]; rfl, ⟨_, _, _, 2⟩,
      by rw [byte_to_nat (by omega), lead?, if_neg (by omega), if_neg (by omega),
        if_neg (by omega), if_pos (by omega)], ?_⟩
    dsimp only
    rw [read_following_written (by omega) (by split <;> omega) (by split <;> omega),
      read_following_written (by omega) (by omega) (by omega), readFollowing]
    congr 2
    omega
  · refine ⟨byte (0xF0 + point / 0x40000), byte (0x80 + point / 0x1000 % 0x40) ::
        byte (0x80 + point / 0x40 % 0x40) :: byte (0x80 + point % 0x40) :: after,
      by rw [if_neg one, if_neg two, if_neg three]; rfl, ⟨_, _, _, 3⟩,
      by rw [byte_to_nat (by omega), lead?, if_neg (by omega), if_neg (by omega),
        if_neg (by omega), if_neg (by omega), if_pos (by omega)], ?_⟩
    dsimp only
    rw [read_following_written (by omega) (by split <;> omega) (by split <;> omega),
      read_following_written (by omega) (by omega) (by omega),
      read_following_written (by omega) (by omega) (by omega), readFollowing]
    congr 2
    omega

/-- The range of the first byte tells how many follow it, and the range of the second one. -/
theorem lead_cases {first : Nat} {lead : Lead} (given : lead? first = some lead) :
    (first < 0x80 ∧ lead = ⟨first, 0x80, 0xBF, 0⟩) ∨
      (0xC2 ≤ first ∧ first < 0xE0 ∧ lead = ⟨first - 0xC0, 0x80, 0xBF, 1⟩) ∨
      (0xE0 ≤ first ∧ first < 0xF0 ∧ lead = ⟨first - 0xE0, if first = 0xE0 then 0xA0 else 0x80,
        if first = 0xED then 0x9F else 0xBF, 2⟩) ∨
      0xF0 ≤ first ∧ first < 0xF5 ∧ lead = ⟨first - 0xF0, if first = 0xF0 then 0x90 else 0x80,
        if first = 0xF4 then 0x8F else 0xBF, 3⟩ := by
  unfold lead? at given
  split at given
  next one => exact .inl ⟨one, (Option.some.inj given).symm⟩
  next many =>
    split at given
    · cases given
    next valid =>
      split at given
      next two => exact .inr (.inl ⟨Nat.not_lt.1 valid, two, (Option.some.inj given).symm⟩)
      next more =>
        split at given
        next three =>
          exact .inr (.inr (.inl ⟨Nat.not_lt.1 more, three, (Option.some.inj given).symm⟩))
        next most =>
          split at given
          next four =>
            exact .inr (.inr (.inr ⟨Nat.not_lt.1 most, four, (Option.some.inj given).symm⟩))
          · cases given

section Written

variable {second third fourth : UInt8}

def Continues (byte : UInt8) : Prop := 0x80 ≤ byte.toNat ∧ byte.toNat ≤ 0xBF

theorem encode_one (small : first.toNat < 0x80) :
    encodeCharacter (Char.ofNat first.toNat) = [first] := by
  rw [encodeCharacter, number_of_character (by omega), if_pos small, byte_eq rfl]

theorem encode_two (least : 0xC2 ≤ first.toNat) (most : first.toNat < 0xE0)
    (continues : Continues second) :
    encodeCharacter (Char.ofNat ((first.toNat - 0xC0) * 0x40 + (second.toNat - 0x80))) =
      [first, second] := by
  obtain ⟨above, below⟩ := continues
  rw [encodeCharacter, number_of_character (by omega), if_neg (by omega), if_pos (by omega),
    @byte_eq _ first (by omega), @byte_eq _ second (by omega)]

/-- Overlong forms and surrogates are kept out by the second byte. -/
theorem encode_three (least : 0xE0 ≤ first.toNat) (most : first.toNat < 0xF0)
    (continues : Continues second) (low : first.toNat = 0xE0 → 0xA0 ≤ second.toNat)
    (high : first.toNat = 0xED → second.toNat ≤ 0x9F) (continuesToo : Continues third) :
    encodeCharacter (Char.ofNat (((first.toNat - 0xE0) * 0x40 + (second.toNat - 0x80)) * 0x40 +
      (third.toNat - 0x80))) = [first, second, third] := by
  obtain ⟨above, below⟩ := continues
  obtain ⟨aboveToo, belowToo⟩ := continuesToo
  rw [encodeCharacter, number_of_character (by omega), if_neg (by omega), if_neg (by omega),
    if_pos (by omega), @byte_eq _ first (by omega), @byte_eq _ second (by omega),
    @byte_eq _ third (by omega)]

theorem encode_four (least : 0xF0 ≤ first.toNat) (most : first.toNat < 0xF5)
    (continues : Continues second) (low : first.toNat = 0xF0 → 0x90 ≤ second.toNat)
    (high : first.toNat = 0xF4 → second.toNat ≤ 0x8F) (continuesThird : Continues third)
    (continuesFourth : Continues fourth) :
    encodeCharacter (Char.ofNat ((((first.toNat - 0xF0) * 0x40 + (second.toNat - 0x80)) * 0x40 +
      (third.toNat - 0x80)) * 0x40 + (fourth.toNat - 0x80))) = [first, second, third, fourth] := by
  obtain ⟨above, below⟩ := continues
  obtain ⟨aboveThird, belowThird⟩ := continuesThird
  obtain ⟨aboveFourth, belowFourth⟩ := continuesFourth
  rw [encodeCharacter, number_of_character (by omega), if_neg (by omega), if_neg (by omega),
    if_neg (by omega), @byte_eq _ first (by omega), @byte_eq _ second (by omega),
    @byte_eq _ third (by omega), @byte_eq _ fourth (by omega)]

end Written

theorem narrowed {number least most special last : Nat} {second : UInt8}
    (above : (if number = least then special else 0x80) ≤ second.toNat)
    (below : second.toNat ≤ if number = most then last else 0xBF) (special_fits : 0x80 ≤ special)
    (last_fits : last ≤ 0xBF) : Continues second ∧ (number = least → special ≤ second.toNat) ∧
      (number = most → second.toNat ≤ last) := by
  refine ⟨⟨?_, ?_⟩, fun same => by rwa [if_pos same] at above,
    fun same => by rwa [if_pos same] at below⟩
  · split at above <;> omega
  · split at below <;> omega

theorem encoded_of_leads (leads : Leads first rest point after) :
    first :: rest = encodeCharacter (Char.ofNat point) ++ after := by
  obtain ⟨lead, given, read⟩ := leads
  rcases lead_cases given with ⟨small, rfl⟩ | ⟨least, most, rfl⟩ | ⟨least, most, rfl⟩ |
    ⟨least, most, rfl⟩
  · obtain ⟨number, rfl⟩ := read_following_nothing read
    dsimp only at number
    rw [number, encode_one small]
    rfl
  · obtain ⟨second, rest, rfl, above, below, read⟩ := exists_following read
    obtain ⟨number, rfl⟩ := read_following_nothing read
    dsimp only at number above below
    rw [number, encode_two least most ⟨above, below⟩]
    rfl
  · obtain ⟨second, rest, rfl, above, below, read⟩ := exists_following read
    obtain ⟨third, rest, rfl, aboveThird, belowThird, read⟩ := exists_following read
    obtain ⟨number, rfl⟩ := read_following_nothing read
    dsimp only at number above below
    obtain ⟨continues, low, high⟩ := narrowed above below (by omega) (by omega)
    rw [number, encode_three least most continues low high ⟨aboveThird, belowThird⟩]
    rfl
  · obtain ⟨second, rest, rfl, above, below, read⟩ := exists_following read
    obtain ⟨third, rest, rfl, aboveThird, belowThird, read⟩ := exists_following read
    obtain ⟨fourth, rest, rfl, aboveFourth, belowFourth, read⟩ := exists_following read
    obtain ⟨number, rfl⟩ := read_following_nothing read
    dsimp only at number above below
    obtain ⟨continues, low, high⟩ := narrowed above below (by omega) (by omega)
    rw [number, encode_four least most continues low high ⟨aboveThird, belowThird⟩
      ⟨aboveFourth, belowFourth⟩]
    rfl

theorem decode_from_leads (offset : Nat) (read : List Char) (leads : Leads first rest point after) :
    ∃ next, decodeFrom offset read (first :: rest) =
      decodeFrom next (Char.ofNat point :: read) after := by
  obtain ⟨lead, given, done⟩ := leads
  rw [decodeFrom]
  simp only [given]
  split
  next failed => rw [done] at failed; cases failed
  next failed => rw [done] at failed; cases failed
  next point after again =>
    rw [done] at again
    cases again
    exact ⟨_, rfl⟩

theorem leads_of_decoded {offset : Nat} {read text : List Char}
    (decoded : decodeFrom offset read (first :: rest) = .ok text) :
    ∃ point after, Leads first rest point after ∧ after.length ≤ rest.length := by
  rw [decodeFrom] at decoded
  cases given : lead? first.toNat with
  | none => simp [given] at decoded
  | some lead =>
      simp only [given] at decoded
      split at decoded
      · cases decoded
      · cases decoded
      next point after done =>
        exact ⟨point, after, ⟨lead, given, done⟩, read_following_shrinks done⟩

end Character

section Text

variable {text : List Char} {bytes : List UInt8}

theorem decode_from_encoded (offset : Nat) (read text : List Char) :
    decodeFrom offset read (encode text) = .ok (read.reverse ++ text) := by
  induction text generalizing offset read with
  | nil =>
      rw [encode, List.flatMap_nil, decodeFrom, List.append_nil]
  | cons character rest induction =>
      obtain ⟨first, following, shape, leads⟩ := leads_of_encoded character (encode rest)
      obtain ⟨next, onward⟩ := decode_from_leads offset read leads
      have split : encode (character :: rest) = encodeCharacter character ++ encode rest := rfl
      rw [split, shape, onward, Char.ofNat_toNat, induction, List.reverse_cons, List.append_assoc,
        List.singleton_append]

/-- By induction on the bytes that are left. -/
theorem encoded_of_decode_from {offset : Nat} {read : List Char}
    (decoded : decodeFrom offset read bytes = .ok text) :
    ∃ later, text = read.reverse ++ later ∧ encode later = bytes := by
  induction size : bytes.length using Nat.strong_induction_on generalizing offset read bytes with
  | _ length induction =>
      subst size
      cases bytes with
      | nil =>
          rw [decodeFrom] at decoded
          cases decoded
          exact ⟨[], by simp, rfl⟩
      | cons first rest =>
          obtain ⟨point, after, leads, shorter⟩ := leads_of_decoded decoded
          obtain ⟨next, onward⟩ := decode_from_leads offset read leads
          rw [onward] at decoded
          obtain ⟨later, rfl, same⟩ :=
            induction after.length (Nat.lt_succ_of_le shorter) decoded rfl
          refine ⟨Char.ofNat point :: later, by simp, ?_⟩
          rw [encoded_of_leads leads, ← same]
          rfl

/-- Reading bytes as a text undoes writing the text, and nothing else reads. -/
theorem decode_ok_iff : decode bytes = .ok text ↔ encode text = bytes := by
  constructor
  · intro decoded
    obtain ⟨later, rfl, same⟩ := encoded_of_decode_from decoded
    exact same
  · rintro rfl
    exact decode_from_encoded 0 [] text

theorem decode_of_string (text : String) : decode (ofString text) = .ok text.toList :=
  decode_ok_iff.2 rfl

theorem decode_error_iff :
    (∃ bad, decode bytes = .error bad) ↔ ∀ text : String, ofString text ≠ bytes := by
  constructor
  · rintro ⟨bad, failed⟩ text rfl
    rw [decode_of_string] at failed
    cases failed
  · intro none
    cases decoded : decode bytes with
    | error bad => exact ⟨bad, rfl⟩
    | ok text =>
        refine absurd ?_ (none (String.ofList text))
        rw [ofString, String.toList_ofList]
        exact decode_ok_iff.1 decoded

end Text

end ImportImpact.Utf8
