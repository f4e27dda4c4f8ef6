import ImportImpact.Import.Form
import Mathlib.Data.List.Sort

/-!
Occurrences of a surface form in a text. A surface says how a form is written, whatever reads it;
the occurrences to report are the leftmost ones that do not overlap, and a text has one list of
them. A form that reads its surface at every place finds exactly this list.
-/

namespace ImportImpact

/-- How a form is written: after which character, with which text, for which specifier. -/
def Surface : Type := (before : Option Char) → (written specifier : List Char) → Prop

/-- A stretch of a text, by the characters before its start and before its end. -/
structure Stretch where
  start : Nat
  stop : Nat
  specifier : List Char

namespace Surface

def Stands (surface : Surface) (text : List Char) (stretch : Stretch) : Prop :=
  ∃ before written after, text = before ++ (written ++ after) ∧ stretch.start = before.length ∧
    stretch.stop = before.length + written.length ∧
    surface before.getLast? written stretch.specifier

/-- Places where the form stands, from left to right and apart from each other, such that every
other such place is overlapped by one of them that starts earlier. -/
structure Leftmost (surface : Surface) (text : List Char) (found : List Stretch) : Prop where
  stands : ∀ stretch ∈ found, surface.Stands text stretch
  apart : found.Pairwise fun earlier later => earlier.stop ≤ later.start
  none_missed : ∀ stretch, surface.Stands text stretch → stretch ∈ found ∨
    ∃ earlier ∈ found, earlier.start < stretch.start ∧ stretch.start < earlier.stop

def Filled (surface : Surface) : Prop :=
  ∀ {before : Option Char} {specifier : List Char}, ¬surface before [] specifier

variable {surface : Surface} {text : List Char}

theorem start_lt_stop (filled : surface.Filled) {stretch : Stretch}
    (stands : surface.Stands text stretch) : stretch.start < stretch.stop := by
  obtain ⟨before, written, after, -, start, stop, here⟩ := stands
  have some : written ≠ [] := by
    intro empty
    subst empty
    exact filled here
  have := List.length_pos_of_ne_nil some
  omega

theorem Leftmost.ordered (filled : surface.Filled) {found : List Stretch}
    (leftmost : surface.Leftmost text found) :
    found.Pairwise fun earlier later => earlier.start < later.start := by
  apply leftmost.apart.imp_of_mem
  intro earlier later member _ apart
  have := start_lt_stop filled (leftmost.stands earlier member)
  omega

theorem Leftmost.no_overlap (filled : surface.Filled) {found : List Stretch}
    (leftmost : surface.Leftmost text found) {first second : Stretch} (here : first ∈ found)
    (there : second ∈ found) (less : first.start < second.start) :
    first.stop ≤ second.start := by
  obtain ⟨stands, apart, -⟩ := leftmost
  induction found with
  | nil => simp at here
  | cons head rest induction =>
      obtain ⟨after, apartRest⟩ := List.pairwise_cons.1 apart
      have filledHead := start_lt_stop filled (stands head List.mem_cons_self)
      rcases List.mem_cons.1 here with rfl | hereRest
      · rcases List.mem_cons.1 there with rfl | thereRest
        · omega
        · exact after second thereRest
      · rcases List.mem_cons.1 there with rfl | thereRest
        · have := after first hereRest
          have := start_lt_stop filled (stands first here)
          omega
        · exact induction hereRest thereRest
            (fun other member => stands other (List.mem_cons_of_mem head member)) apartRest

/-- By induction on the place: an occurrence that one list has is overlapped in no other, because
what starts before it is in both. -/
theorem Leftmost.mem_iff (filled : surface.Filled) {found other : List Stretch}
    (left : surface.Leftmost text found) (right : surface.Leftmost text other)
    (stretch : Stretch) : stretch ∈ found ↔ stretch ∈ other := by
  have pass : ∀ {these those : List Stretch}, surface.Leftmost text these →
      surface.Leftmost text those → ∀ place ∈ these,
        (∀ earlier : Stretch, earlier.start < place.start → (earlier ∈ these ↔ earlier ∈ those)) →
          place ∈ those := by
    intro these those first second place member same
    rcases second.none_missed place (first.stands place member) with there | overlapped
    · exact there
    · obtain ⟨earlier, inside, less, overlap⟩ := overlapped
      have := first.no_overlap filled ((same earlier less).2 inside) member less
      omega
  induction size : stretch.start using Nat.strong_induction_on generalizing stretch with
  | _ start induction =>
      have same : ∀ earlier : Stretch, earlier.start < stretch.start →
          (earlier ∈ found ↔ earlier ∈ other) := fun earlier less =>
        induction earlier.start (size ▸ less) earlier rfl
      constructor
      · intro member
        exact pass left right stretch member same
      · intro member
        exact pass right left stretch member fun earlier less => (same earlier less).symm

theorem Leftmost.unique (filled : surface.Filled) {found other : List Stretch}
    (left : surface.Leftmost text found) (right : surface.Leftmost text other) :
    found = other := by
  have order : Std.Irrefl fun first second : Stretch => first.start < second.start :=
    ⟨fun stretch => Nat.lt_irrefl stretch.start⟩
  apply List.Pairwise.eq_of_mem_iff (left.ordered filled) (right.ordered filled)
  exact left.mem_iff filled right

/-- The leftmost occurrences among those that start at a place or after it. -/
structure LeftmostFrom (surface : Surface) (text : List Char) (place : Nat)
    (found : List Stretch) : Prop where
  stands : ∀ stretch ∈ found, surface.Stands text stretch
  after : ∀ stretch ∈ found, place ≤ stretch.start
  apart : found.Pairwise fun earlier later => earlier.stop ≤ later.start
  none_missed : ∀ stretch, surface.Stands text stretch → place ≤ stretch.start →
    stretch ∈ found ∨
      ∃ earlier ∈ found, earlier.start < stretch.start ∧ stretch.start < earlier.stop

theorem leftmost_from_start {found : List Stretch}
    (given : surface.LeftmostFrom text 0 found) : surface.Leftmost text found :=
  ⟨given.stands, given.apart, fun stretch stands =>
    given.none_missed stretch stands (Nat.zero_le _)⟩

theorem leftmost_from_end (filled : surface.Filled) :
    surface.LeftmostFrom text text.length [] := by
  refine ⟨by simp, by simp, List.Pairwise.nil, ?_⟩
  intro stretch stands beyond
  have some := start_lt_stop filled stands
  obtain ⟨before, written, after, rfl, start, stop, -⟩ := stands
  simp only [List.length_append] at beyond
  omega

theorem leftmost_from_free {place : Nat} {found : List Stretch}
    (free : ∀ stretch, surface.Stands text stretch → stretch.start ≠ place)
    (given : surface.LeftmostFrom text (place + 1) found) :
    surface.LeftmostFrom text place found := by
  refine ⟨given.stands, fun stretch member => ?_, given.apart, fun stretch stands beyond => ?_⟩
  · exact Nat.le_of_succ_le (given.after stretch member)
  · have := free stretch stands
    exact given.none_missed stretch stands (by omega)

theorem leftmost_from_taken (filled : surface.Filled) {first : Stretch} {found : List Stretch}
    (stands : surface.Stands text first)
    (only : ∀ stretch, surface.Stands text stretch → stretch.start = first.start →
      stretch = first)
    (given : surface.LeftmostFrom text first.stop found) :
    surface.LeftmostFrom text first.start (first :: found) := by
  have nonempty := start_lt_stop filled stands
  refine ⟨?_, ?_, List.pairwise_cons.2 ⟨given.after, given.apart⟩, ?_⟩
  · intro stretch member
    rcases List.mem_cons.1 member with rfl | later
    · exact stands
    · exact given.stands stretch later
  · intro stretch member
    rcases List.mem_cons.1 member with rfl | later
    · exact Nat.le_refl _
    · have := given.after stretch later
      omega
  · intro stretch here beyond
    rcases Nat.lt_or_ge stretch.start first.stop with inside | outside
    · by_cases same : stretch.start = first.start
      · exact Or.inl (only stretch here same ▸ List.mem_cons_self)
      · exact Or.inr ⟨first, List.mem_cons_self, by omega, inside⟩
    · rcases given.none_missed stretch here outside with there | ⟨earlier, member, overlap⟩
      · exact Or.inl (List.mem_cons_of_mem first there)
      · exact Or.inr ⟨earlier, List.mem_cons_of_mem first member, overlap⟩

end Surface

namespace Form

variable {form : Form} {before : Option Char}

theorem specifiers_from_free {character : Char} {rest : List Char}
    (read : form.read before (character :: rest) = none) :
    form.specifiersFrom before (character :: rest) =
      form.specifiersFrom (some character) rest := by
  rw [specifiersFrom]
  split
  next given => simp [read] at given
  next => rfl

theorem specifiers_from_read {text : List Char} {occurrence : Occurrence}
    (read : form.read before text = some occurrence) : form.specifiersFrom before text =
      occurrence.specifier :: form.specifiersFrom (some occurrence.closing) occurrence.rest := by
  cases text with
  | nil => exact absurd (form.shorter read) (Nat.not_lt_zero _)
  | cons character rest =>
      rw [specifiersFrom]
      split
      next given =>
        rw [read, Option.some.injEq] at given
        rw [given]
      next given => simp [read] at given

end Form

/-- The form reads an occurrence wherever its surface stands, and nothing else. -/
structure Form.Reads (form : Form) (surface : Surface) : Prop where
  sound : ∀ {before : Option Char} {text : List Char} {occurrence : Occurrence},
    form.read before text = some occurrence → ∃ written, text = written ++ occurrence.rest ∧
      written.getLast? = some occurrence.closing ∧ surface before written occurrence.specifier
  complete : ∀ {before : Option Char} {written specifier : List Char} (rest : List Char),
    surface before written specifier → ∃ closing, written.getLast? = some closing ∧
      form.read before (written ++ rest) = some ⟨specifier, closing, rest⟩

namespace Form.Reads

variable {form : Form} {surface : Surface}

theorem filled (reads : form.Reads surface) : surface.Filled := by
  intro before specifier here
  obtain ⟨closing, last, -⟩ := reads.complete [] here
  simp at last

theorem read_of_stands (reads : form.Reads surface) {passed text : List Char} {stretch : Stretch}
    (stands : surface.Stands (passed ++ text) stretch) (here : stretch.start = passed.length) :
    ∃ occurrence, form.read passed.getLast? text = some occurrence ∧
      stretch.stop + occurrence.rest.length = passed.length + text.length ∧
      stretch.specifier = occurrence.specifier := by
  obtain ⟨before, written, after, shape, start, stop, found⟩ := stands
  obtain ⟨rfl, rfl⟩ := List.append_inj shape (by omega)
  obtain ⟨closing, -, read⟩ := reads.complete after found
  refine ⟨_, read, ?_, rfl⟩
  rw [stop, List.length_append, Nat.add_assoc]

/-- What is read at a place stands there, and no other stretch begins there. -/
theorem stands_of_read (reads : form.Reads surface) {passed text written : List Char}
    {occurrence : Occurrence} (read : form.read passed.getLast? text = some occurrence)
    (shape : text = written ++ occurrence.rest)
    (here : surface passed.getLast? written occurrence.specifier) :
    surface.Stands (passed ++ text)
        ⟨passed.length, passed.length + written.length, occurrence.specifier⟩ ∧
      ∀ other, surface.Stands (passed ++ text) other → other.start = passed.length →
        other = ⟨passed.length, passed.length + written.length, occurrence.specifier⟩ := by
  refine ⟨⟨passed, written, occurrence.rest, by rw [shape], rfl, rfl, here⟩, ?_⟩
  rintro ⟨start, stop, specifier⟩ stands begins
  obtain ⟨again, given, ends, same⟩ := reads.read_of_stands stands begins
  rw [read] at given
  cases given
  rw [shape, List.length_append] at ends
  simp only [Stretch.mk.injEq]
  simp only at begins ends same
  exact ⟨begins, by omega, same⟩

/-- The search from a place on finds the leftmost occurrences from there on; what has been passed
tells which character stands before. -/
theorem specifiers_from_leftmost (reads : form.Reads surface) (passed text : List Char) :
    ∃ found, surface.LeftmostFrom (passed ++ text) passed.length found ∧
      form.specifiersFrom passed.getLast? text = found.map Stretch.specifier := by
  induction size : text.length using Nat.strong_induction_on generalizing passed text with
  | _ length induction =>
      subst size
      cases text with
      | nil =>
          refine ⟨[], ?_, by rw [Form.specifiersFrom]; rfl⟩
          rw [List.append_nil]
          exact Surface.leftmost_from_end reads.filled
      | cons character rest =>
          cases read : form.read passed.getLast? (character :: rest) with
          | none =>
              obtain ⟨found, leftmost, same⟩ :=
                induction rest.length (by simp) (passed ++ [character]) rest rfl
              rw [List.append_assoc, List.length_append] at leftmost
              refine ⟨found, Surface.leftmost_from_free ?_ leftmost, ?_⟩
              · intro stretch stands here
                obtain ⟨occurrence, given, -⟩ := reads.read_of_stands stands here
                simp [read] at given
              · rw [specifiers_from_free read, ← same, List.getLast?_concat]
          | some occurrence =>
              obtain ⟨written, shape, last, here⟩ := reads.sound read
              obtain ⟨found, leftmost, same⟩ := induction occurrence.rest.length
                (form.shorter read) (passed ++ written) occurrence.rest rfl
              rw [List.append_assoc, ← shape, List.length_append] at leftmost
              obtain ⟨stands, alone⟩ := reads.stands_of_read read shape here
              have taken := Surface.leftmost_from_taken reads.filled stands alone leftmost
              refine ⟨_ :: found, taken, ?_⟩
              have closing : (passed ++ written).getLast? = some occurrence.closing := by
                rw [List.getLast?_append, last]
                rfl
              rw [closing] at same
              rw [specifiers_from_read read, same]
              rfl

theorem specifiers_leftmost (reads : form.Reads surface) (text : List Char) :
    ∃ found, surface.Leftmost text found ∧
      form.specifiers text = found.map Stretch.specifier := by
  obtain ⟨found, leftmost, same⟩ := reads.specifiers_from_leftmost [] text
  exact ⟨found, Surface.leftmost_from_start leftmost, same⟩

end Form.Reads

end ImportImpact
