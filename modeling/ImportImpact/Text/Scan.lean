import ImportImpact.Text.Blank
import ImportImpact.Text.Word

/-!
Steps of reading from the front of a text. Each step gives what is left, which is never longer
than what it was given.
-/

namespace ImportImpact.Text

def after? (word text : List Char) : Option (List Char) :=
  if word.isPrefixOf text then some (text.drop word.length) else none

theorem after_eq_some_iff {word text rest : List Char} :
    after? word text = some rest ↔ text = word ++ rest := by
  simp only [after?]
  split
  next isPrefix =>
    obtain ⟨tail, rfl⟩ := List.isPrefixOf_iff_prefix.1 isPrefix
    simp [eq_comm]
  next noPrefix =>
    simp only [reduceCtorEq, false_iff]
    rintro rfl
    exact noPrefix (List.isPrefixOf_iff_prefix.2 ⟨rest, rfl⟩)

theorem after_length {word text rest : List Char} (given : after? word text = some rest) :
    rest.length + word.length = text.length := by
  rw [after_eq_some_iff.1 given]; simp [Nat.add_comm]

def skipBlanks (text : List Char) : List Char := text.dropWhile isBlank

theorem drop_while_length_le (p : Char → Bool) (text : List Char) :
    (text.dropWhile p).length ≤ text.length :=
  (List.dropWhile_sublist p).length_le

def afterBlanks? (text : List Char) : Option (List Char) :=
  match text with
  | character :: rest => if isBlank character then some (skipBlanks rest) else none
  | [] => none

theorem after_blanks_length {text rest : List Char} (given : afterBlanks? text = some rest) :
    rest.length < text.length := by
  cases text with
  | nil => simp [afterBlanks?] at given
  | cons character tail =>
      simp only [afterBlanks?] at given
      split at given
      · simp only [Option.some.injEq] at given
        subst given
        exact Nat.lt_succ_of_le (drop_while_length_le _ _)
      · simp at given

end ImportImpact.Text
