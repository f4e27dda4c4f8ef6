import ImportImpact.Proofs.Text.Scan
import ImportImpact.Yaml.Place

/-!
Places in a text that was cut into lines. A part of a line is passed over character by character,
and from the end of a line the next place is the one that the lines below have. So what follows a
part of a document can be told from the text that follows, without its lines.
-/

namespace ImportImpact.Yaml

def Level (text : List Char) : Prop := ∀ character ∈ text, isLineEnd character = false

def Place.of (column : Nat) (text : List Char) : Place :=
  ⟨column, (cutLines text).1, (cutLines text).2⟩

section Cut

variable {front : List Char}

theorem cut_lines_level (level : Level front) (rest : List Char) :
    cutLines (front ++ rest) = (front ++ (cutLines rest).1, (cutLines rest).2) := by
  induction front with
  | nil => rfl
  | cons character more induction =>
      obtain ⟨here, later⟩ := List.forall_mem_cons.1 level
      rw [List.cons_append, cutLines, induction later]
      simp only [here, Bool.false_eq_true, if_false, List.cons_append]

theorem cut_lines_end (rest : List Char) : cutLines ('\n' :: rest) =
    ([], ⟨'\n', (cutLines rest).1⟩ :: (cutLines rest).2) := rfl

theorem cut_lines_line (level : Level front) (rest : List Char) :
    cutLines (front ++ '\n' :: rest) = (front, ⟨'\n', (cutLines rest).1⟩ :: (cutLines rest).2) := by
  rw [cut_lines_level level, cut_lines_end, List.append_nil]

end Cut

namespace Place

section Of

variable {front : List Char} {column : Nat} {rest : List Char}

theorem skip_of (level : Level front) (column : Nat) (rest : List Char) :
    (of column (front ++ rest)).skip front.length = of (column + front.length) rest := by
  simp only [of, skip, cut_lines_level level, List.drop_left]

theorem of_cons {character : Char} (level : isLineEnd character = false) (column : Nat)
    (rest : List Char) : of column (character :: rest) =
      ⟨column, character :: (cutLines rest).1, (cutLines rest).2⟩ := by
  have cut := cut_lines_level (List.forall_mem_singleton.2 level) rest
  rw [List.singleton_append, List.singleton_append] at cut
  rw [of, cut]

theorem skip_one {character : Char} (level : isLineEnd character = false) (column : Nat)
    (rest : List Char) : (of column (character :: rest)).skip 1 = of (column + 1) rest :=
  skip_of (List.forall_mem_singleton.2 level) column rest

theorem next_line_end (column : Nat) (rest : List Char) :
    (of column ('\n' :: rest)).next = (of 0 rest).next := rfl

theorem next_space (column : Nat) (rest : List Char) :
    (of column (' ' :: rest)).next = (of (column + 1) rest).next := by
  have shorter := Text.drop_while_length_le isSpace (cutLines rest).1
  have line : cutLines (' ' :: rest) = (' ' :: (cutLines rest).1, (cutLines rest).2) := rfl
  have visible : (' ' :: (cutLines rest).1).dropWhile isSpace =
      (cutLines rest).1.dropWhile isSpace := rfl
  have moved : column + ((cutLines rest).1.length + 1 -
        ((cutLines rest).1.dropWhile isSpace).length) =
      column + 1 + ((cutLines rest).1.length - ((cutLines rest).1.dropWhile isSpace).length) := by
    omega
  simp only [of, next, line]
  rw [nextFrom.eq_def, nextFrom.eq_def, visible, List.length_cons]
  dsimp only
  rw [moved]

theorem next_spaces (count column : Nat) (rest : List Char) :
    (of column (List.replicate count ' ' ++ rest)).next = (of (column + count) rest).next := by
  induction count generalizing column with
  | zero => rfl
  | succ count induction =>
      rw [List.replicate_succ, List.cons_append, next_space, induction]
      congr 2
      omega

end Of

section Next

/-- Something stands at the front of the text that is neither space nor comment nor line end. -/
def Begins (text : List Char) : Prop :=
  ∃ first ∈ text.head?, first ≠ ' ' ∧ first ≠ '#' ∧ isLineEnd first = false

theorem next_from_visible {first : Char} (solid : first ≠ ' ') (plain : first ≠ '#')
    (column : Nat) (rest : List Char) (later : List Line) :
    nextFrom column (first :: rest) later = ⟨column, first :: rest, later⟩ := by
  have visible : (first :: rest).dropWhile isSpace = first :: rest :=
    List.dropWhile_cons_of_neg (by simpa [isSpace] using solid)
  rw [nextFrom.eq_def, visible]
  simp [plain]

theorem next_begins {text : List Char} (begins : Begins text) (column : Nat) :
    (of column text).next = of column text := by
  obtain ⟨first, head, solid, plain, level⟩ := begins
  cases text with
  | nil => cases head
  | cons character rest =>
      obtain rfl : character = first := Option.some.inj head
      rw [of_cons level]
      exact next_from_visible solid plain _ _ _

theorem not_ended {text : List Char} (begins : Begins text) {column : Nat}
    (positive : 0 < column) : (of column text).ended = false := by
  obtain ⟨first, head, -, -, level⟩ := begins
  cases text with
  | nil => cases head
  | cons character rest =>
      obtain rfl : character = first := Option.some.inj head
      rw [of_cons level]
      simp [ended, Nat.ne_of_gt positive]

theorem visible_settled {rest : List Char}
    (shown : ¬((rest.dropWhile isSpace).isEmpty ||
      decide ((rest.dropWhile isSpace).head? = some '#')) = true)
    (column : Nat) (later : List Line) :
    (Place.mk column (rest.dropWhile isSpace) later).next =
      ⟨column, rest.dropWhile isSpace, later⟩ := by
  cases visible : rest.dropWhile isSpace with
  | nil => simp [visible] at shown
  | cons first more =>
      have solid : first ≠ ' ' := by
        have none := List.head?_dropWhile_not isSpace rest
        simpa [visible, isSpace] using none
      have plain : first ≠ '#' := by simpa [visible] using shown
      exact next_from_visible solid plain column more later

theorem next_next (place : Place) : place.next.next = place.next := by
  obtain ⟨column, rest, later⟩ := place
  change (nextFrom column rest later).next = nextFrom column rest later
  induction later generalizing column rest with
  | nil =>
      rw [nextFrom.eq_def]
      dsimp only
      split
      · rfl
      next shown => exact visible_settled shown _ _
  | cons line later induction =>
      rw [nextFrom.eq_def]
      dsimp only
      split
      · exact induction 0 line.text
      next shown => exact visible_settled shown _ _

end Next

end Place

end ImportImpact.Yaml
