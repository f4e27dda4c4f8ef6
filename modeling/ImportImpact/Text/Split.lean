/-!
Cutting a text at a character and joining pieces again. Cutting keeps empty pieces, so joining
gives the text back.
-/

namespace ImportImpact.Text

def split (separator : Char) : List Char → List (List Char)
  | [] => [[]]
  | character :: rest =>
      if character = separator then [] :: split separator rest
      else match split separator rest with
        | [] => [[character]]
        | piece :: pieces => (character :: piece) :: pieces

def join (separator : Char) : List (List Char) → List Char
  | [] => []
  | [piece] => piece
  | piece :: pieces => piece ++ separator :: join separator pieces

theorem split_ne_nil (separator : Char) (text : List Char) : split separator text ≠ [] := by
  cases text with
  | nil => simp [split]
  | cons character rest => grind [split]

theorem join_cons_cons (separator character : Char) (piece : List Char)
    (pieces : List (List Char)) :
    join separator ((character :: piece) :: pieces) =
      character :: join separator (piece :: pieces) := by
  cases pieces <;> simp [join]

theorem join_split (separator : Char) (text : List Char) :
    join separator (split separator text) = text := by
  induction text with
  | nil => rfl
  | cons character rest induction =>
      obtain ⟨piece, pieces, shape⟩ := List.exists_cons_of_ne_nil (split_ne_nil separator rest)
      rw [shape] at induction
      by_cases here : character = separator
      · simp [split, here, shape, join, induction]
      · simp [split, here, shape, join_cons_cons, induction]

theorem separator_not_mem_split (separator : Char) (text : List Char) :
    ∀ piece ∈ split separator text, separator ∉ piece := by
  induction text with
  | nil => simp [split]
  | cons character rest induction =>
      obtain ⟨piece, pieces, shape⟩ := List.exists_cons_of_ne_nil (split_ne_nil separator rest)
      rw [shape] at induction
      by_cases here : character = separator
      · simp_all [split]
      · simp_all [split, Ne.symm here]

def splitLast? (separator : Char) (text : List Char) : Option (List Char × List Char) :=
  let tail := (text.reverse.takeWhile (· != separator)).reverse
  match (text.reverse.dropWhile (· != separator)) with
  | [] => none
  | _ :: before => some (before.reverse, tail)

theorem split_last_append {separator : Char} {text before after : List Char}
    (given : splitLast? separator text = some (before, after)) :
    text = before ++ separator :: after ∧ separator ∉ after := by
  have whole := List.takeWhile_append_dropWhile (p := (· != separator)) (l := text.reverse)
  simp only [splitLast?] at given
  split at given
  · simp at given
  next found rest shape =>
    simp only [Option.some.injEq, Prod.mk.injEq] at given
    obtain ⟨rfl, rfl⟩ := given
    have head : found = separator := by
      have := List.head?_dropWhile_not (· != separator) text.reverse
      simpa [shape] using this
    subst head
    rw [shape] at whole
    have turned := congrArg List.reverse whole
    refine ⟨by simpa using turned.symm, fun member => ?_⟩
    have := List.all_eq_true.1 (List.all_takeWhile (p := (· != found)) (l := text.reverse))
    simpa using this found (List.mem_reverse.1 member)

end ImportImpact.Text
