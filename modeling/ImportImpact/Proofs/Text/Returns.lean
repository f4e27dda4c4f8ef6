import ImportImpact.Proofs.Text.Scan

/-!
Carriage returns before the line ends of a text. A class that does not tell a carriage return from a
line feed takes the same run with them as without, and a word of one line is found at the same
places, so every step of reading goes on from the place that it went on from before.
-/

namespace ImportImpact.Text

/-- The text with a carriage return before each of its line feeds. -/
def withReturns (text : List Char) : List Char :=
  text.flatMap fun character => if character = '\n' then ['\r', '\n'] else [character]

variable {text front back rest : List Char} {character : Char}

@[simp] theorem with_returns_nil : withReturns [] = [] := rfl

@[simp] theorem with_returns_line_end (rest : List Char) :
    withReturns ('\n' :: rest) = '\r' :: '\n' :: withReturns rest := rfl

theorem with_returns_cons (plain : character ≠ '\n') (rest : List Char) :
    withReturns (character :: rest) = character :: withReturns rest := by
  simp [withReturns, plain]

theorem with_returns_append (front back : List Char) :
    withReturns (front ++ back) = withReturns front ++ withReturns back :=
  List.flatMap_append

theorem with_returns_of_one_line (line : '\n' ∉ text) : withReturns text = text := by
  induction text with
  | nil => rfl
  | cons character rest induction =>
      obtain ⟨first, later⟩ := List.ne_and_not_mem_of_not_mem_cons line
      rw [with_returns_cons first.symm, induction later]

theorem with_returns_eq_nil_iff : withReturns text = [] ↔ text = [] := by
  cases text with
  | nil => simp
  | cons character rest =>
      by_cases line : character = '\n'
      · simp [line]
      · simp [with_returns_cons line]

theorem last_with_returns (text : List Char) : (withReturns text).getLast? = text.getLast? := by
  rcases List.eq_nil_or_concat text with rfl | ⟨front, last, rfl⟩
  · rfl
  · rw [List.concat_eq_append, with_returns_append, List.getLast?_concat]
    by_cases line : last = '\n'
    · simp [line]
    · simp [with_returns_cons line]

/-- A cut that does not come between a return and its line feed is a cut of the text. -/
theorem exists_cut_of_with_returns (cut : withReturns text = front ++ back)
    (whole : ∀ passed, front = passed ++ ['\r'] → back.head? ≠ some '\n') :
    ∃ above below, text = above ++ below ∧ withReturns above = front ∧
      withReturns below = back := by
  induction text generalizing front with
  | nil =>
      obtain ⟨rfl, rfl⟩ := List.append_eq_nil_iff.1 cut.symm
      exact ⟨[], [], rfl, rfl, rfl⟩
  | cons character rest induction =>
      cases front with
      | nil => exact ⟨[], character :: rest, rfl, rfl, cut⟩
      | cons first others =>
          by_cases line : character = '\n'
          · simp only [line, with_returns_line_end, List.cons_append, List.cons.injEq] at cut
            obtain ⟨rfl, cut⟩ := cut
            cases others with
            | nil => exact absurd (by rw [← List.nil_append back, ← cut]; rfl) (whole [] rfl)
            | cons second others =>
                simp only [List.cons_append, List.cons.injEq] at cut
                obtain ⟨rfl, cut⟩ := cut
                have later : ∀ passed, others = passed ++ ['\r'] → back.head? ≠ some '\n' :=
                  fun passed shape => whole ('\r' :: '\n' :: passed) (by rw [shape]; rfl)
                obtain ⟨above, below, rfl, rfl, rfl⟩ := induction cut later
                exact ⟨'\n' :: above, below, by rw [line]; rfl, rfl, rfl⟩
          · simp only [with_returns_cons line, List.cons_append, List.cons.injEq] at cut
            obtain ⟨rfl, cut⟩ := cut
            have later : ∀ passed, others = passed ++ ['\r'] → back.head? ≠ some '\n' :=
              fun passed shape => whole (character :: passed) (by rw [shape]; rfl)
            obtain ⟨above, below, rfl, rfl, rfl⟩ := induction cut later
            exact ⟨character :: above, below, rfl, with_returns_cons line above, rfl⟩

theorem with_returns_eq_append_iff (line : '\n' ∉ front) (last : front.getLast? ≠ some '\r') :
    withReturns text = front ++ back ↔ ∃ rest, text = front ++ rest ∧ withReturns rest = back := by
  constructor
  · intro cut
    have whole : ∀ passed, front = passed ++ ['\r'] → back.head? ≠ some '\n' :=
      fun passed shape => absurd (by rw [shape, List.getLast?_concat]) last
    obtain ⟨above, below, rfl, same, rfl⟩ := exists_cut_of_with_returns cut whole
    have level : '\n' ∉ above := by
      intro member
      obtain ⟨before, after, rfl⟩ := List.append_of_mem member
      apply line
      rw [← same, with_returns_append, with_returns_line_end]
      simp
    rw [with_returns_of_one_line level] at same
    exact ⟨below, by rw [same], rfl⟩
  · rintro ⟨rest, rfl, rfl⟩
    rw [with_returns_append, with_returns_of_one_line line]

section Classes

variable (inside : Char → Bool) (alike : inside '\r' = inside '\n')

include alike

theorem first_with_returns (text : List Char) :
    (withReturns text).head?.any inside = text.head?.any inside := by
  cases text with
  | nil => rfl
  | cons character rest =>
      by_cases line : character = '\n'
      · simp [line, alike]
      · simp [with_returns_cons line]

theorem all_with_returns_iff (text : List Char) :
    (∀ character ∈ withReturns text, inside character = true) ↔
      ∀ character ∈ text, inside character = true := by
  induction text with
  | nil => simp
  | cons character rest induction =>
      by_cases line : character = '\n'
      · simp [line, alike, induction]
      · simp [with_returns_cons line, induction]

theorem ends_with_returns (ends : Ends inside text) : Ends inside (withReturns text) := by
  have first := first_with_returns inside alike text
  intro character head
  rw [head, Option.any_some] at first
  rw [first, Option.any_eq_false]
  intro other given
  simp [ends other given]

theorem run_with_returns (text : List Char) :
    (withReturns text).takeWhile inside = withReturns (text.takeWhile inside) ∧
      (withReturns text).dropWhile inside = withReturns (text.dropWhile inside) := by
  obtain ⟨run, rest, rfl, all, ends⟩ := exists_run inside text
  have allToo := (all_with_returns_iff inside alike run).2 all
  have endsToo := ends_with_returns inside alike ends
  rw [with_returns_append, take_while_run all ends, take_while_run allToo endsToo,
    drop_while_run all ends, drop_while_run allToo endsToo]
  exact ⟨rfl, rfl⟩

theorem take_while_with_returns (text : List Char) :
    (withReturns text).takeWhile inside = withReturns (text.takeWhile inside) :=
  (run_with_returns inside alike text).1

theorem drop_while_with_returns (text : List Char) :
    (withReturns text).dropWhile inside = withReturns (text.dropWhile inside) :=
  (run_with_returns inside alike text).2

end Classes

theorem take_line_with_returns (inside : Char → Bool) (feed : inside '\n' = false)
    (alike : inside '\r' = inside '\n') (text : List Char) :
    (withReturns text).takeWhile inside = text.takeWhile inside := by
  rw [take_while_with_returns inside alike]
  apply with_returns_of_one_line
  intro member
  have := List.mem_takeWhile_imp member
  simp [feed] at this

theorem some_blanks_with_returns_iff : SomeBlanks (withReturns text) ↔ SomeBlanks text := by
  have blank := all_with_returns_iff isBlank (by decide) text
  constructor
  · intro blanks
    exact ⟨fun empty => blanks.filled (with_returns_eq_nil_iff.2 empty), blank.1 blanks.blank⟩
  · intro blanks
    exact ⟨fun empty => blanks.filled (with_returns_eq_nil_iff.1 empty), blank.2 blanks.blank⟩

theorem after_with_returns {word : List Char} (line : '\n' ∉ word)
    (last : word.getLast? ≠ some '\r') (text : List Char) :
    after? word (withReturns text) = (after? word text).map withReturns := by
  ext rest
  simp only [after_eq_some_iff, Option.map_eq_some_iff, with_returns_eq_append_iff line last]

theorem skip_blanks_with_returns (text : List Char) :
    skipBlanks (withReturns text) = withReturns (skipBlanks text) :=
  drop_while_with_returns isBlank (by decide) text

theorem after_blanks_eq (text : List Char) :
    afterBlanks? text = if text.head?.any isBlank then some (skipBlanks text) else none := by
  cases text with
  | nil => rfl
  | cons character rest =>
      cases blank : isBlank character with
      | true => simp [afterBlanks?, skipBlanks, blank]
      | false => simp [afterBlanks?, blank]

theorem after_blanks_with_returns (text : List Char) :
    afterBlanks? (withReturns text) = (afterBlanks? text).map withReturns := by
  have first := first_with_returns isBlank (by decide) text
  rw [after_blanks_eq, after_blanks_eq, first, skip_blanks_with_returns]
  split
  · rfl
  · rfl

end ImportImpact.Text
