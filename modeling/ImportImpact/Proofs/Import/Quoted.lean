import ImportImpact.Proofs.Import.Grammar

/-!
Reading a quoted specifier. The specifier is a run of characters that no specifier ends with, so it
is read to the first quote or line end, and it counts only if that is a quote. A call or a location
is read on to the closing parenthesis.
-/

namespace ImportImpact

open Text Surface

theorem last_of_append {passed written : List Char} {closing : Char}
    (last : written.getLast? = some closing) :
    (passed ++ written).getLast? = some closing := by
  rw [List.getLast?_append, last]
  rfl

theorem last_of_cons {character closing : Char} {written : List Char}
    (last : written.getLast? = some closing) :
    (character :: written).getLast? = some closing := by
  change ([character] ++ written).getLast? = some closing
  exact last_of_append last

namespace Occurrence

theorem is_quote_iff {character : Char} : isQuote character = true ↔ Quote character := by
  simp [isQuote, Quote]

theorem not_ends_quoted_iff {character : Char} :
    (!endsQuoted character) = true ↔ ¬Quote character ∧ character ≠ '\n' := by
  rw [endsQuoted, Bool.not_eq_true', Bool.or_eq_false_iff, ← Bool.not_eq_true, is_quote_iff]
  simp

theorem quoted_sound {text : List Char} {occurrence : Occurrence}
    (given : quoted? text = some occurrence) : ∃ written, text = written ++ occurrence.rest ∧
      written.getLast? = some occurrence.closing ∧ Quoted written occurrence.specifier := by
  cases text with
  | nil => simp [quoted?] at given
  | cons opening inner =>
      obtain ⟨run, rest, rfl, plain, ends⟩ := exists_run (!endsQuoted ·) inner
      simp only [quoted?, take_while_run plain ends, drop_while_run plain ends] at given
      split at given
      next opens =>
        split at given
        next character others closing after =>
          split at given
          next closes =>
            simp only [Option.some.injEq] at given
            subst given
            refine ⟨opening :: (character :: others ++ [closing]), by simp,
              List.getLast?_concat (l := opening :: character :: others), ?_⟩
            apply Quoted.between (is_quote_iff.1 opens) (by simp) _ (is_quote_iff.1 closes)
            intro inside member
            exact not_ends_quoted_iff.1 (plain inside member)
          · simp at given
        · simp at given
      · simp at given

theorem quoted_complete {written specifier : List Char} (source : Quoted written specifier) :
    ∃ closing, written.getLast? = some closing ∧
      ∀ rest, quoted? (written ++ rest) = some ⟨specifier, closing, rest⟩ := by
  cases source with
  | @between opening closing specifier opens filled plain closes =>
      refine ⟨closing, List.getLast?_concat (l := opening :: specifier), fun rest => ?_⟩
      have inside : ∀ character ∈ specifier, (!endsQuoted character) = true :=
        fun character member => not_ends_quoted_iff.2 (plain character member)
      have ends : Ends (!endsQuoted ·) (closing :: rest) := by
        rw [ends_cons_iff, Bool.not_eq_false', endsQuoted, is_quote_iff.2 closes]
        rfl
      obtain ⟨first, others, rfl⟩ := List.exists_cons_of_ne_nil filled
      have shape : opening :: (first :: others ++ [closing]) ++ rest =
          opening :: ((first :: others) ++ closing :: rest) := by simp
      rw [shape, quoted?]
      simp only [is_quote_iff.2 opens, if_true, take_while_run inside ends,
        drop_while_run inside ends, is_quote_iff.2 closes]

theorem parenthesised_sound {occurrence closed : Occurrence}
    (given : occurrence.parenthesised? = some closed) :
    ∃ space, (∀ character ∈ space, isBlank character = true) ∧
      occurrence.rest = space ++ (')' :: closed.rest) ∧ closed.closing = ')' ∧
        closed.specifier = occurrence.specifier := by
  obtain ⟨space, others, shape, blank, ends⟩ := exists_run isBlank occurrence.rest
  simp only [parenthesised?, shape, skip_blanks_run blank ends] at given
  split at given
  · cases given
    exact ⟨space, blank, shape, rfl, rfl⟩
  · simp at given

theorem parenthesised_complete {specifier space rest : List Char} {closing : Char}
    (blank : ∀ character ∈ space, isBlank character = true) :
    parenthesised? ⟨specifier, closing, space ++ (')' :: rest)⟩ = some ⟨specifier, ')', rest⟩ := by
  have ends : Ends isBlank (')' :: rest) := ends_cons_iff.2 (by decide)
  simp only [parenthesised?, skip_blanks_run blank ends]

end Occurrence

namespace Surface.Quoted

variable {written specifier : List Char}

theorem head (source : Quoted written specifier) :
    ∃ quote rest, Quote quote ∧ written = quote :: rest := by
  cases source with
  | between opens _ _ _ => exact ⟨_, _, opens, rfl⟩

theorem last_quote (source : Quoted written specifier) {character : Char}
    (last : written.getLast? = some character) : Quote character := by
  cases source with
  | @between opening closing specifier _ _ _ closes =>
      rw [← List.cons_append, List.getLast?_concat, Option.some.injEq] at last
      exact last ▸ closes

theorem one_line (source : Quoted written specifier) : '\n' ∉ written := by
  cases source with
  | @between opening closing specifier opens filled plain closes =>
      simp only [List.mem_cons, List.mem_append, List.not_mem_nil, or_false, not_or]
      refine ⟨?_, fun member => (plain '\n' member).2 rfl, ?_⟩
      · rintro rfl
        exact absurd opens (by simp [Quote])
      · rintro rfl
        exact absurd closes (by simp [Quote])

theorem ends (source : Quoted written specifier) {inside : Char → Bool}
    (single : inside '\'' = false) (double : inside '"' = false) (rest : List Char) :
    Ends inside (written ++ rest) := by
  obtain ⟨quote, others, either, rfl⟩ := source.head
  rw [List.cons_append, ends_cons_iff]
  rcases either with rfl | rfl
  · exact single
  · exact double

end Surface.Quoted

end ImportImpact
