import ImportImpact.Text.Split
import Mathlib.Data.List.Basic
import Mathlib.Data.List.TakeWhile

/-!
Cutting a joined text gives its pieces back, as long as the separator stands in none of them.
-/

namespace ImportImpact.Text

theorem join_cons_of_ne_nil (separator : Char) (piece : List Char) {pieces : List (List Char)}
    (some : pieces ≠ []) :
    join separator (piece :: pieces) = piece ++ separator :: join separator pieces := by
  cases pieces with
  | nil => exact absurd rfl some
  | cons next rest => rfl

theorem join_concat (separator : Char) {pieces : List (List Char)} (some : pieces ≠ [])
    (last : List Char) :
    join separator (pieces ++ [last]) = join separator pieces ++ separator :: last := by
  induction pieces with
  | nil => exact absurd rfl some
  | cons piece rest induction =>
      rw [List.cons_append, join_cons_of_ne_nil _ _ (by simp)]
      by_cases none : rest = []
      · simp [none, join]
      · rw [induction none, join_cons_of_ne_nil _ _ none, List.append_assoc, List.cons_append]

theorem split_of_absent {separator : Char} {text : List Char} (absent : separator ∉ text) :
    split separator text = [text] := by
  induction text with
  | nil => rfl
  | cons character rest induction =>
      obtain ⟨different, absentRest⟩ := not_or.1 (mt List.mem_cons.2 absent)
      simp [split, Ne.symm different, induction absentRest]

theorem split_at (separator : Char) (before after : List Char) :
    split separator (before ++ separator :: after) =
      split separator before ++ split separator after := by
  induction before with
  | nil => simp [split]
  | cons character rest induction =>
      obtain ⟨piece, pieces, shape⟩ := List.exists_cons_of_ne_nil (split_ne_nil separator rest)
      by_cases here : character = separator
      · simp [split, here, induction]
      · simp [split, here, induction, shape]

theorem split_append {separator : Char} {piece : List Char} (absent : separator ∉ piece)
    (rest : List Char) :
    split separator (piece ++ separator :: rest) = piece :: split separator rest := by
  rw [split_at, split_of_absent absent, List.singleton_append]

theorem absent_of_split_last {separator : Char} {text : List Char}
    (none : splitLast? separator text = none) : separator ∉ text := by
  unfold splitLast? at none
  dsimp only at none
  split at none
  next nothing =>
    rw [List.dropWhile_eq_nil_iff] at nothing
    intro member
    simpa using nothing separator (List.mem_reverse.2 member)
  · cases none

/-- The last separator is the one behind which there is none. -/
theorem split_last_iff {separator : Char} {text before after : List Char} :
    splitLast? separator text = some (before, after) ↔
      text = before ++ separator :: after ∧ separator ∉ after := by
  constructor
  · exact split_last_append
  · rintro ⟨rfl, absent⟩
    have turned : (before ++ separator :: after).reverse =
        after.reverse ++ separator :: before.reverse := by simp
    have passed : ∀ character ∈ after.reverse, (character != separator) = true := by
      intro character member
      rw [bne_iff_ne]
      rintro rfl
      exact absent (List.mem_reverse.1 member)
    simp [splitLast?, turned, List.takeWhile_append_of_pos passed,
      List.dropWhile_append_of_pos passed]

theorem split_join {separator : Char} {pieces : List (List Char)} (some : pieces ≠ [])
    (absent : ∀ piece ∈ pieces, separator ∉ piece) :
    split separator (join separator pieces) = pieces := by
  induction pieces with
  | nil => exact absurd rfl some
  | cons piece rest induction =>
      have here := absent piece (by simp)
      cases rest with
      | nil => exact split_of_absent here
      | cons next rest =>
          have later := induction (by simp) fun other member => absent other (by simp [member])
          rw [join_cons_of_ne_nil _ _ (by simp), split_append here, later]

theorem join_eq_intercalate (separator : Char) (pieces : List (List Char)) :
    join separator pieces = [separator].intercalate pieces := by
  induction pieces with
  | nil => rfl
  | cons piece rest induction =>
      cases rest with
      | nil => simp [join]
      | cons next rest =>
          rw [join_cons_of_ne_nil _ _ (by simp), induction, List.intercalate_cons_cons]
          simp

theorem mem_join {separator character : Char} {pieces : List (List Char)}
    (member : character ∈ join separator pieces) :
    character = separator ∨ ∃ piece ∈ pieces, character ∈ piece := by
  induction pieces with
  | nil => simp [join] at member
  | cons piece rest induction =>
      cases rest with
      | nil => exact Or.inr ⟨piece, by simp, member⟩
      | cons next rest =>
          rw [join_cons_of_ne_nil _ _ (by simp), List.mem_append, List.mem_cons] at member
          rcases member with here | separating | later
          · exact Or.inr ⟨piece, by simp, here⟩
          · exact Or.inl separating
          · rcases induction later with separating | ⟨other, member, inside⟩
            · exact Or.inl separating
            · exact Or.inr ⟨other, by simp [member], inside⟩

theorem mem_join_of_mem {separator character : Char} {pieces : List (List Char)}
    {piece : List Char} (member : piece ∈ pieces) (inside : character ∈ piece) :
    character ∈ join separator pieces := by
  induction pieces with
  | nil => simp at member
  | cons first rest induction =>
      by_cases last : rest = []
      · subst last
        exact List.mem_singleton.1 member ▸ inside
      · rw [join_cons_of_ne_nil _ _ last, List.mem_append, List.mem_cons]
        rcases List.mem_cons.1 member with here | later
        · exact Or.inl (here ▸ inside)
        · exact Or.inr (Or.inr (induction later))

theorem mem_of_mem_split {separator character : Char} {text piece : List Char}
    (member : piece ∈ split separator text) (inside : character ∈ piece) : character ∈ text := by
  rw [← join_split separator text]
  exact mem_join_of_mem member inside

end ImportImpact.Text
