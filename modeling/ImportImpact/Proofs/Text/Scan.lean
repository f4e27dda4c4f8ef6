import ImportImpact.Text.Scan
import Mathlib.Data.List.TakeWhile

/-!
Reading a run of characters of one class. It takes the whole run when what follows is of another
class, and what it leaves always is.
-/

namespace ImportImpact.Text

def Ends (inside : Char → Bool) (text : List Char) : Prop :=
  ∀ character, text.head? = some character → inside character = false

/-- Blanks, at least one of them. -/
structure SomeBlanks (gap : List Char) : Prop where
  filled : gap ≠ []
  blank : ∀ character ∈ gap, isBlank character = true

namespace SomeBlanks

variable {gap : List Char}

theorem exists_cons (blanks : SomeBlanks gap) :
    ∃ character others, isBlank character = true ∧ gap = character :: others := by
  obtain ⟨character, others, rfl⟩ := List.exists_cons_of_ne_nil blanks.filled
  exact ⟨character, others, blanks.blank character List.mem_cons_self, rfl⟩

theorem reverse (blanks : SomeBlanks gap) : SomeBlanks gap.reverse :=
  ⟨by simpa using blanks.filled,
    fun character member => blanks.blank character (List.mem_reverse.1 member)⟩

end SomeBlanks

variable {inside : Char → Bool} {run rest text : List Char}

theorem ends_cons_iff {character : Char} : Ends inside (character :: rest) ↔
    inside character = false := by
  simp [Ends]

theorem ends_append {word : List Char} (first : word.head?.map inside = some false)
    (rest : List Char) : Ends inside (word ++ rest) := by
  cases word with
  | nil => simp at first
  | cons character others => exact ends_cons_iff.2 (by simpa using first)

theorem take_while_run (all : ∀ character ∈ run, inside character = true)
    (ends : Ends inside rest) : (run ++ rest).takeWhile inside = run := by
  rw [List.takeWhile_append_of_pos all]
  cases rest with
  | nil => simp
  | cons character others => simp [ends character rfl]

theorem drop_while_run (all : ∀ character ∈ run, inside character = true)
    (ends : Ends inside rest) : (run ++ rest).dropWhile inside = rest := by
  rw [List.dropWhile_append_of_pos all]
  cases rest with
  | nil => rfl
  | cons character others => simp [ends character rfl]

theorem ends_drop_while (inside : Char → Bool) (text : List Char) :
    Ends inside (text.dropWhile inside) := by
  intro character first
  have := List.head?_dropWhile_not inside text
  simpa [first] using this

theorem exists_run (inside : Char → Bool) (text : List Char) :
    ∃ run rest, text = run ++ rest ∧ (∀ character ∈ run, inside character = true) ∧
      Ends inside rest :=
  ⟨text.takeWhile inside, text.dropWhile inside, List.takeWhile_append_dropWhile.symm,
    fun _ member => List.mem_takeWhile_imp member, ends_drop_while inside text⟩

theorem after_word (word rest : List Char) : after? word (word ++ rest) = some rest :=
  after_eq_some_iff.2 rfl

theorem after_eq_none {word : List Char} (filled : word ≠ [])
    (different : word.head? ≠ text.head?) : after? word text = none := by
  refine Option.eq_none_iff_forall_ne_some.2 fun rest given => different ?_
  obtain ⟨character, others, rfl⟩ := List.exists_cons_of_ne_nil filled
  rw [after_eq_some_iff.1 given]
  rfl

theorem after_mark (mark : Char) (rest : List Char) : after? [mark] (mark :: rest) = some rest :=
  after_word [mark] rest

theorem after_mark_none {mark : Char} (other : ∀ rest, text ≠ mark :: rest) :
    after? [mark] text = none :=
  Option.eq_none_iff_forall_ne_some.2 fun rest given => other rest (after_eq_some_iff.1 given)

theorem skip_blanks_run (blank : ∀ character ∈ run, isBlank character = true)
    (ends : Ends isBlank rest) : skipBlanks (run ++ rest) = rest :=
  drop_while_run blank ends

theorem after_blanks_run (gap : SomeBlanks run) (ends : Ends isBlank rest) :
    afterBlanks? (run ++ rest) = some rest := by
  obtain ⟨filled, blank⟩ := gap
  cases run with
  | nil => exact absurd rfl filled
  | cons character others =>
      have later : ∀ other ∈ others, isBlank other = true := fun other member =>
        blank other (List.mem_cons_of_mem character member)
      rw [List.cons_append, afterBlanks?, if_pos (blank character List.mem_cons_self),
        skip_blanks_run later ends]

theorem exists_blanks (given : afterBlanks? text = some rest) :
    ∃ gap, SomeBlanks gap ∧ text = gap ++ rest ∧ Ends isBlank rest := by
  cases text with
  | nil => simp [afterBlanks?] at given
  | cons character others =>
      simp only [afterBlanks?] at given
      split at given
      next first =>
        simp only [Option.some.injEq] at given
        subst given
        obtain ⟨run, rest, rfl, blank, ends⟩ := exists_run isBlank others
        rw [skip_blanks_run blank ends]
        refine ⟨character :: run, ⟨by simp, ?_⟩, rfl, ends⟩
        intro other member
        rcases List.mem_cons.1 member with rfl | later
        · exact first
        · exact blank other later
      · simp at given

theorem after_blanks_none (ends : Ends isBlank text) : afterBlanks? text = none := by
  cases text with
  | nil => rfl
  | cons character rest => simp [afterBlanks?, ends character rfl]

theorem blank_codes_not_word : ∀ range ∈ blankRanges,
    ∀ step ∈ List.range (range.2 + 1 - range.1), isWord (Char.ofNat (range.1 + step)) = false := by
  decide +kernel

theorem not_word_of_blank {character : Char} (blank : isBlank character = true) :
    isWord character = false := by
  obtain ⟨range, member, low, high⟩ := (in_ranges_iff _ _).1 blank
  have := blank_codes_not_word range member (character.toNat - range.1)
    (List.mem_range.2 (by omega))
  rwa [Nat.add_sub_cancel' low, Char.ofNat_toNat] at this

end ImportImpact.Text
