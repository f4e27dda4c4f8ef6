import ImportImpact.Json.Printer
import ImportImpact.Json.Reader
import Mathlib.Data.List.Basic
import Mathlib.Tactic.IntervalCases

/-!
Texts in JSON documents. Every character is written in ASCII and reads back as itself: those beyond
the first plane as two units that belong together, which no other character can be taken for.
-/

namespace ImportImpact.Json

section Hex

variable {number : Nat}

theorem hex_value_digit {digit : Nat} (small : digit < 16) :
    hexValue? (Nat.digitChar digit) = some digit := by
  interval_cases digit <;> rfl

theorem hex_number_concat (digits : List Char) (digit : Char) :
    hexNumber? (digits ++ [digit]) =
      (hexNumber? digits).bind fun value =>
        (hexValue? digit).map fun next => 16 * value + next := by
  rw [hexNumber?, List.foldl_append]
  change ((hexNumber? digits).bind fun value => (hexValue? digit).bind fun next => some _) = _
  simp only [Option.map_eq_bind, Function.comp_def]

theorem hex_number_digits (number : Nat) : hexNumber? (Nat.toDigits 16 number) = some number := by
  induction number using Nat.strong_induction_on with
  | _ number induction =>
      rw [Nat.toDigits_eq_if (by omega)]
      split
      next small =>
        have one := hex_number_concat [] (Nat.digitChar number)
        rw [List.nil_append, hex_value_digit small] at one
        rw [one]
        simp [hexNumber?]
      next large =>
        rw [hex_number_concat, induction _ (by omega), hex_value_digit (by omega)]
        simp only [Option.bind_some, Option.map_some, Option.some.injEq]
        omega

theorem hex_number_zeros (count : Nat) (digits : List Char) :
    hexNumber? (List.replicate count '0' ++ digits) = hexNumber? digits := by
  induction count with
  | zero => rfl
  | succ count induction => exact induction

theorem lower_hex_digits_length (small : number < 0x10000) :
    (Text.lowerHexDigits 4 number).length = 4 := by
  have short := (Nat.length_toDigits_le_iff (b := 16) (k := 4) (by omega) (by omega)).2 small
  simp only [Text.lowerHexDigits, List.length_append, List.length_replicate]
  omega

theorem read_unit_written (small : number < 0x10000) {after : List Char} (filled : after ≠ []) :
    readUnit? (Text.lowerHexDigits 4 number ++ after) = some (number, after) := by
  have value : hexNumber? (Text.lowerHexDigits 4 number) = some number :=
    (hex_number_zeros _ _).trans (hex_number_digits number)
  obtain ⟨next, rest, rfl⟩ := List.exists_cons_of_ne_nil filled
  obtain ⟨first, second, third, fourth, shape⟩ :=
    List.length_eq_four.1 (lower_hex_digits_length small)
  rw [shape] at value ⊢
  simp [readUnit?, value]

end Hex

/-- How a character is written: with a letter of its own, as it is, or as one unit or two. -/
inductive Escaped (character : Char) : Prop
  | simple {escaped : Char} (written : escape character = ['\\', escaped])
      (means : simpleEscape? escaped = some character) (other : escaped ≠ 'u')
  | plain (written : escape character = [character]) (quoteless : character ≠ '"')
      (slashless : character ≠ '\\') (visible : 0x20 ≤ character.toNat ∧ character.toNat < 0x7F)
  | unit (written : escape character = unitEscape character.toNat)
      (small : character.toNat < 0x10000)
  | pair (written : escape character =
        unitEscape (0xD800 + (character.toNat - 0x10000) / 0x400) ++
          unitEscape (0xDC00 + (character.toNat - 0x10000) % 0x400))
      (large : 0x10000 ≤ character.toNat)

theorem escape_cases (character : Char) : Escaped character := by
  by_cases quote : character = '"'
  · subst quote
    exact .simple rfl rfl (by decide)
  by_cases slash : character = '\\'
  · subst slash
    exact .simple rfl rfl (by decide)
  by_cases feed : character = '\n'
  · subst feed
    exact .simple rfl rfl (by decide)
  by_cases carriage : character = '\r'
  · subst carriage
    exact .simple rfl rfl (by decide)
  by_cases tab : character = '\t'
  · subst tab
    exact .simple rfl rfl (by decide)
  by_cases back : character = '\x08'
  · subst back
    exact .simple rfl rfl (by decide)
  by_cases page : character = '\x0c'
  · subst page
    exact .simple rfl rfl (by decide)
  have others : escape character =
      if 0x20 ≤ character.toNat && character.toNat < 0x7F then [character]
      else if character.toNat < 0x10000 then unitEscape character.toNat
      else unitEscape (0xD800 + (character.toNat - 0x10000) / 0x400) ++
        unitEscape (0xDC00 + (character.toNat - 0x10000) % 0x400) := by
    rw [escape, if_neg quote, if_neg slash, if_neg feed, if_neg carriage, if_neg tab, if_neg back,
      if_neg page]
  by_cases visible : (0x20 ≤ character.toNat && character.toNat < 0x7F) = true
  · rw [if_pos visible] at others
    exact .plain others quote slash (by simpa using visible)
  · rw [if_neg visible] at others
    by_cases small : character.toNat < 0x10000
    · rw [if_pos small] at others
      exact .unit others small
    · rw [if_neg small] at others
      exact .pair others (Nat.not_lt.1 small)

section Character

variable {quote read after : List Char} {bound unit : Nat}

/-- Two characters that start the escape of a unit, and its digits, are one step. -/
theorem read_unit_escape (small : unit < 0x10000) (noHigh : isHighUnit unit = false)
    (noLow : isLowUnit unit = false) (filled : after ≠ []) :
    readText quote read (bound + 1) (unitEscape unit ++ after) =
      readText quote (Char.ofNat unit :: read) bound after := by
  rw [unitEscape, List.cons_append, List.cons_append, readText]
  simp only [read_unit_written small filled, noHigh, noLow, Bool.false_eq_true, if_false]

theorem read_pair_escape {high low : Nat} (above : isHighUnit high = true)
    (below : isLowUnit low = true) (filled : after ≠ []) :
    readText quote read (bound + 1) (unitEscape high ++ unitEscape low ++ after) =
      readText quote (joinUnits high low :: read) bound after := by
  have small : high < 0x10000 ∧ low < 0x10000 := by
    simp only [isHighUnit, isLowUnit, Bool.and_eq_true, decide_eq_true_eq] at above below
    omega
  have second : readUnit? (Text.lowerHexDigits 4 low ++ after) = some (low, after) :=
    read_unit_written small.2 filled
  have first : readUnit? (Text.lowerHexDigits 4 high ++ (unitEscape low ++ after)) =
      some (high, unitEscape low ++ after) := read_unit_written small.1 (by simp [unitEscape])
  rw [List.append_assoc, unitEscape, List.cons_append, List.cons_append, readText]
  simp only [first, above, if_true]
  simp only [unitEscape, List.cons_append, second, below, if_true]

theorem read_simple_escape {escaped character : Char}
    (simple : simpleEscape? escaped = some character) (other : escaped ≠ 'u') :
    readText quote read (bound + 1) ('\\' :: escaped :: after) =
      readText quote (character :: read) bound after := by
  rw [readText]
  · simp only [simple]
  · exact other

theorem read_plain_character {character : Char} (quoteless : character ≠ '"')
    (slashless : character ≠ '\\') (visible : 0x20 ≤ character.toNat) :
    readText quote read (bound + 1) (character :: after) =
      readText quote (character :: read) bound after := by
  rw [readText]
  · exact if_neg (Nat.not_lt.2 visible)
  · exact quoteless
  · exact slashless

theorem units_of_large {character : Char} (large : 0x10000 ≤ character.toNat) :
    isHighUnit (0xD800 + (character.toNat - 0x10000) / 0x400) = true ∧
      isLowUnit (0xDC00 + (character.toNat - 0x10000) % 0x400) = true ∧
      joinUnits (0xD800 + (character.toNat - 0x10000) / 0x400)
        (0xDC00 + (character.toNat - 0x10000) % 0x400) = character := by
  have bounded : character.toNat < 0x110000 := by
    rcases character.valid with small | ⟨-, large⟩
    · exact Nat.lt_trans small (by decide)
    · exact large
  refine ⟨?_, ?_, ?_⟩
  · simp only [isHighUnit, Bool.and_eq_true, decide_eq_true_eq]
    omega
  · simp only [isLowUnit, Bool.and_eq_true, decide_eq_true_eq]
    omega
  · have point : 0x10000 + (0xD800 + (character.toNat - 0x10000) / 0x400 - 0xD800) * 0x400 +
        (0xDC00 + (character.toNat - 0x10000) % 0x400 - 0xDC00) = character.toNat := by
      omega
    rw [joinUnits, point, Char.ofNat_toNat]

theorem units_apart (character : Char) :
    isHighUnit character.toNat = false ∧ isLowUnit character.toNat = false := by
  have valid := character.valid
  simp only [isHighUnit, isLowUnit, Bool.and_eq_false_iff, decide_eq_false_iff_not]
  simp only [UInt32.isValidChar, Nat.isValidChar] at valid
  change _ ∨ _ at valid
  simp only [Char.toNat]
  omega

theorem read_escaped (character : Char) (filled : after ≠ []) :
    readText quote read (bound + 1) (escape character ++ after) =
      readText quote (character :: read) bound after := by
  cases escape_cases character with
  | simple written means other =>
      rw [written]
      exact read_simple_escape means other
  | plain written quoteless slashless visible =>
      rw [written]
      exact read_plain_character quoteless slashless visible.1
  | unit written small =>
      obtain ⟨noHigh, noLow⟩ := units_apart character
      rw [written, read_unit_escape small noHigh noLow filled, Char.ofNat_toNat]
  | pair written large =>
      obtain ⟨above, below, same⟩ := units_of_large large
      rw [written, read_pair_escape above below filled, same]

end Character

section Text

theorem escape_filled (character : Char) : escape character ≠ [] := by
  have unit (number : Nat) : unitEscape number ≠ [] := List.cons_ne_nil _ _
  cases escape_cases character with
  | simple written => exact written ▸ List.cons_ne_nil _ _
  | plain written => exact written ▸ List.cons_ne_nil _ _
  | unit written => exact written ▸ unit _
  | pair written => exact written ▸ List.append_ne_nil_of_left_ne_nil (unit _) _

theorem length_le_escaped (characters : List Char) :
    characters.length ≤ (characters.flatMap escape).length := by
  induction characters with
  | nil => exact Nat.le_refl 0
  | cons character rest induction =>
      have here := List.length_pos_iff.2 (escape_filled character)
      rw [List.flatMap_cons, List.length_append, List.length_cons]
      omega

theorem read_text_escaped (quote : List Char) (characters read after : List Char) {bound : Nat}
    (enough : characters.length < bound) :
    readText quote read bound (characters.flatMap escape ++ '"' :: after) =
      .ok (String.ofList (read.reverse ++ characters), after) := by
  obtain ⟨bound, rfl⟩ := Nat.exists_eq_add_of_lt enough
  induction characters generalizing read with
  | nil =>
      rw [List.flatMap_nil, List.nil_append, readText, List.append_nil]
  | cons character rest induction =>
      have count : (character :: rest).length + bound + 1 = rest.length + bound + 1 + 1 := by
        rw [List.length_cons]
        omega
      rw [count, List.flatMap_cons, List.append_assoc, read_escaped character (by simp),
        induction (character :: read) (by omega)]
      simp

theorem read_text_written (text : String) (quote after : List Char) {bound : Nat}
    (enough : (writeText text).length ≤ bound + 1) :
    readText quote [] bound ((text.toList.flatMap escape ++ ['"']) ++ after) =
      .ok (text, after) := by
  have short := length_le_escaped text.toList
  simp only [writeText, List.length_cons, List.length_append, List.length_nil] at enough
  rw [List.append_assoc, List.singleton_append,
    read_text_escaped quote text.toList [] after (by omega)]
  simp

end Text

section Printed

def Printed (character : Char) : Prop :=
  character = '\n' ∨ 0x20 ≤ character.toNat ∧ character.toNat < 0x7F

instance : DecidablePred Printed := fun _ => inferInstanceAs (Decidable (_ ∨ _))

def Ascii (character : Char) : Prop := character.toNat < 0x80

theorem Printed.ascii {character : Char} (printed : Printed character) : Ascii character := by
  rcases printed with rfl | ⟨-, small⟩
  · exact (by decide : '\n'.toNat < 0x80)
  · exact Nat.lt_trans small (by decide)

theorem Printed.no_return {character : Char} (printed : Printed character) :
    character ≠ '\r' := by
  rintro rfl
  exact absurd printed (by decide)

theorem printed_of_all {characters : List Char}
    (small : (characters.all fun character => decide (Printed character)) = true) :
    ∀ character ∈ characters, Printed character := fun character member =>
  of_decide_eq_true (List.all_eq_true.1 small character member)

theorem hex_digit_of_mem {width number : Nat} {digit : Char}
    (member : digit ∈ Text.lowerHexDigits width number) :
    ∃ value < 16, digit = Nat.digitChar value := by
  have digits : ∀ digit ∈ Nat.toDigits 16 number, ∃ value < 16, digit = Nat.digitChar value := by
    clear member
    induction number using Nat.strong_induction_on with
    | _ number induction =>
        rw [Nat.toDigits_eq_if (by omega)]
        split
        next small => exact List.forall_mem_singleton.2 ⟨number, small, rfl⟩
        next large =>
          exact List.forall_mem_append.2 ⟨induction _ (by omega),
            List.forall_mem_singleton.2 ⟨_, Nat.mod_lt _ (by omega), rfl⟩⟩
  rcases List.mem_append.1 member with zero | later
  · exact ⟨0, by omega, List.eq_of_mem_replicate zero⟩
  · exact digits digit later

theorem lower_hex_digits_printed (width number : Nat) :
    ∀ digit ∈ Text.lowerHexDigits width number, Printed digit := by
  intro digit member
  obtain ⟨value, small, rfl⟩ := hex_digit_of_mem member
  interval_cases value <;> decide

theorem unit_escape_printed (unit : Nat) : ∀ character ∈ unitEscape unit, Printed character := by
  unfold unitEscape
  exact List.forall_mem_cons.2 ⟨by decide, List.forall_mem_cons.2
    ⟨by decide, lower_hex_digits_printed 4 unit⟩⟩

theorem simple_escape_printed {escaped character : Char}
    (means : simpleEscape? escaped = some character) : Printed escaped := by
  have letters : ∀ letter ∈ ['"', '\\', '/', 'b', 'f', 'n', 'r', 't'], Printed letter :=
    printed_of_all (by decide)
  refine letters escaped ?_
  by_contra other
  simp only [List.mem_cons, List.not_mem_nil, or_false, not_or] at other
  simp [simpleEscape?, other] at means

theorem escape_printed (character : Char) : ∀ written ∈ escape character, Printed written := by
  cases escape_cases character with
  | simple written means =>
      rw [written]
      exact List.forall_mem_cons.2
        ⟨by decide, List.forall_mem_singleton.2 (simple_escape_printed means)⟩
  | plain written quoteless slashless visible =>
      rw [written]
      exact List.forall_mem_singleton.2 (Or.inr visible)
  | unit written =>
      rw [written]
      exact unit_escape_printed _
  | pair written =>
      rw [written]
      exact List.forall_mem_append.2 ⟨unit_escape_printed _, unit_escape_printed _⟩

theorem write_text_printed (text : String) : ∀ written ∈ writeText text, Printed written := by
  refine List.forall_mem_cons.2 ⟨by decide, List.forall_mem_append.2 ⟨?_, ?_⟩⟩
  · intro written member
    obtain ⟨character, -, inside⟩ := List.mem_flatMap.1 member
    exact escape_printed character written inside
  · exact List.forall_mem_singleton.2 (by decide)

end Printed

end ImportImpact.Json
