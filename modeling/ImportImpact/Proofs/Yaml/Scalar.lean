import ImportImpact.Proofs.Yaml.Place
import ImportImpact.Yaml.Flow
import ImportImpact.Yaml.Style
import Mathlib.Data.Bool.AllAny

/-!
Texts of one line, read back. Without quotes a text ends where its line does, if the next line
begins before the columns that belong to it; a colon ends a key only before a blank. In single
quotes all visible characters stand for themselves, and quotes are doubled.
-/

namespace ImportImpact.Yaml

def Solid (character : Char) : Prop := isVisible character = true ∧ character ≠ ' '

instance : DecidablePred Solid := fun _ => inferInstanceAs (Decidable (_ ∧ _))

section Characters

variable {character : Char}

theorem visible_iff : isVisible character = true ↔
    0x20 ≤ character.toNat ∧ character.toNat ≤ 0x7E := by
  simp only [isVisible, Bool.and_eq_true, decide_eq_true_eq]
  exact Iff.rfl

theorem no_line_end_of_visible (visible : isVisible character = true) :
    isLineEnd character = false := by
  obtain ⟨low, high⟩ := visible_iff.1 visible
  simp only [isLineEnd, Bool.or_eq_false_iff, decide_eq_false_iff_not]
  refine ⟨⟨⟨?_, ?_⟩, ?_⟩, ?_⟩ <;> rintro rfl <;> revert low high <;> decide

theorem no_blank_of_solid (solid : Solid character) : Text.isTabOrSpace character = false := by
  obtain ⟨visible, filled⟩ := solid
  simp only [Text.isTabOrSpace, Bool.or_eq_false_iff, decide_eq_false_iff_not]
  refine ⟨filled, ?_⟩
  rintro rfl
  exact absurd visible (by decide)

theorem level_of_visible {text : List Char}
    (visible : ∀ character ∈ text, isVisible character = true) : Level text :=
  fun character member => no_line_end_of_visible (visible character member)

theorem level_of_solid {text : List Char} (solid : ∀ character ∈ text, Solid character) :
    Level text :=
  level_of_visible fun character member => (solid character member).1

end Characters

section Outdented

/-- The document is over, or its next line begins before the column. -/
inductive Outdented (least : Nat) : (rest : List Char) → Prop
  | ended : Outdented least []
  | line {indent : Nat} {text : List Char} (outside : indent < least)
      (begins : Place.Begins text) : Outdented least (List.replicate indent ' ' ++ text)

variable {least : Nat} {rest : List Char}

theorem Outdented.weaken (outdented : Outdented least rest) {more : Nat} (fewer : least ≤ more) :
    Outdented more rest := by
  cases outdented with
  | ended => exact .ended
  | line outside begins => exact .line (Nat.lt_of_lt_of_le outside fewer) begins

theorem spaces_level (count : Nat) : Level (List.replicate count ' ') := fun character member => by
  rw [List.eq_of_mem_replicate member]
  decide

theorem next_line (indent : Nat) {text : List Char} (begins : Place.Begins text) :
    (Place.of 0 (List.replicate indent ' ' ++ text)).next = Place.of indent text := by
  rw [Place.next_spaces, Nat.zero_add, Place.next_begins begins]

/-- A plain text does not go on where the next line is outdented. -/
theorem plain_on_lines_outdented (outdented : Outdented least rest) : ∃ after : Place,
    plainOnLines false least [] (⟨'\n', (cutLines rest).1⟩ :: (cutLines rest).2) = ([], after) ∧
      after.next = (Place.of 0 rest).next := by
  cases outdented with
  | ended => exact ⟨⟨0, [], []⟩, rfl, rfl⟩
  | @line indent text outside begins =>
      have settled := Place.next_begins begins indent
      obtain ⟨first, head, solid, -, level⟩ := begins
      obtain ⟨more, rfl⟩ : ∃ more, text = first :: more := by
        cases text with
        | nil => cases head
        | cons other more => exact ⟨more, by rw [Option.some.inj head]⟩
      have one := cut_lines_level (List.forall_mem_singleton.2 level) more
      rw [List.singleton_append, List.singleton_append] at one
      have visible : (List.replicate indent ' ' ++ first :: (cutLines more).1).dropWhile
          Place.isSpace = first :: (cutLines more).1 := by
        refine Text.drop_while_run (fun blank member => ?_) (fun character shown => ?_)
        · rw [List.eq_of_mem_replicate member]
          rfl
        · rw [← Option.some.inj shown]
          exact decide_eq_false solid
      have column : (List.replicate indent ' ' ++ first :: (cutLines more).1).length -
          (first :: (cutLines more).1).length = indent := by
        simp
      have next : (Place.mk indent (first :: (cutLines more).1) (cutLines more).2).next =
          (Place.of 0 (List.replicate indent ' ' ++ first :: more)).next := by
        rw [Place.next_spaces, Nat.zero_add, Place.of, one]
      rw [cut_lines_level (spaces_level indent), one, plainOnLines]
      simp only [visible, column]
      split
      · refine ⟨_, rfl, ?_⟩
        rw [Place.of, cut_lines_level (spaces_level indent), one]
      · simp only [List.isEmpty_cons, Bool.false_eq_true, if_false, outside, Bool.not_false,
          Bool.true_and, decide_true, Bool.or_true, if_true]
        exact ⟨_, rfl, next⟩

end Outdented

def ReadUpTo {Part : Type} (read : Option (Part × Place)) (part : Part) (rest : List Char) : Prop :=
  ∃ after, read = some (part, after) ∧ after.next = (Place.of 0 rest).next

/-- A text that reads as itself without quotes. -/
structure Bare (word : List Char) : Prop where
  solid : ∀ character ∈ word, Solid character
  begins : beginsPlain false word = true
  ends : word.getLast? ≠ some ':'

section Plain

variable {word rest : List Char}

theorem plain_on_line_word (solid : ∀ character ∈ word, Solid character)
    (ends : word.getLast? ≠ some ':') (stops : plainOnLine false [] rest = ([], rest)) :
    plainOnLine false [] (word ++ rest) = (word, rest) := by
  induction word with
  | nil => exact stops
  | cons character more induction =>
      obtain ⟨here, later⟩ := List.forall_mem_cons.1 solid
      have blank := no_blank_of_solid here
      simp only [Text.isTabOrSpace, Bool.or_eq_false_iff, decide_eq_false_iff_not] at blank
      obtain ⟨noSpace, noTab⟩ := blank
      have goesOn : (decide (character = ':') && endsKey false (more ++ rest)) = false := by
        cases more with
        | nil =>
            have other : character ≠ ':' := fun same => ends (by rw [same]; rfl)
            simp [other]
        | cons next others =>
            have inside := no_blank_of_solid (later next List.mem_cons_self)
            simp [endsKey, apart, inside]
      have read := induction later fun last => by
        cases more with
        | nil => cases last
        | cons next others => exact ends (by rw [List.getLast?_cons_cons, last])
      rw [List.cons_append, plainOnLine, if_neg noSpace]
      simp only [List.isEmpty_nil, Bool.not_true, Bool.and_false, noTab, decide_false, goesOn,
        Bool.false_and, Bool.or_false, Bool.false_eq_true, if_false, read, List.nil_append]

theorem Bare.first (bare : Bare word) : ∃ first more, word = first :: more ∧
    first ∉ ['[', ']', '\x7b', '\x7d', '#', '|', '>', '\'', '"'] := by
  cases word with
  | nil => cases bare.begins
  | cons first more =>
      refine ⟨first, more, rfl, fun sign => ?_⟩
      have begins := bare.begins
      simp only [List.mem_cons, List.not_mem_nil, or_false] at sign
      rcases sign with rfl | rfl | rfl | rfl | rfl | rfl | rfl | rfl | rfl <;>
        simp [beginsPlain, indicators] at begins

theorem read_scalar_plain {flow : Bool} {least : Nat} {place : Place} {first : Char}
    {more : List Char} (shape : place.rest = first :: more) (noSingle : first ≠ '\'')
    (noDouble : first ≠ '"') : readScalar? flow least place =
      if beginsPlain flow place.rest then
        some (⟨true, (readPlain flow least place).1⟩, (readPlain flow least place).2)
      else none := by
  unfold readScalar?
  split
  next same => exact absurd (List.cons.inj (shape.symm.trans same)).1 noSingle
  next same => exact absurd (List.cons.inj (shape.symm.trans same)).1 noDouble
  · rfl

/-- A bare text fills its line, and what the lines below add comes after it. -/
theorem read_scalar_bare (bare : Bare word) (least column : Nat) (later : List Line) :
    readScalar? false least ⟨column, word, later⟩ =
      some (⟨true, word ++ (plainOnLines false least [] later).1⟩,
        (plainOnLines false least [] later).2) := by
  obtain ⟨first, more, rfl, sign⟩ := bare.first
  have line : plainOnLine false [] (first :: more ++ []) = (first :: more, []) :=
    plain_on_line_word bare.solid bare.ends rfl
  rw [List.append_nil] at line
  rw [read_scalar_plain rfl (by rintro rfl; simp at sign) (by rintro rfl; simp at sign),
    if_pos bare.begins]
  simp only [readPlain, line, List.isEmpty_nil, if_true]

end Plain

section Quoted

def doubled (text : List Char) : List Char :=
  text.flatMap fun character => if character = '\'' then ['\'', '\''] else [character]

theorem quoted_on_line_doubled {text : List Char}
    (visible : ∀ character ∈ text, isVisible character = true) (blanks : List Char) :
    quotedOnLine false blanks 0 (doubled text ++ ['\'']) =
      some (blanks.reverse ++ text, .closed []) := by
  induction text generalizing blanks with
  | nil => simp [doubled, quotedOnLine, Text.isTabOrSpace]
  | cons character rest induction =>
      obtain ⟨here, later⟩ := List.forall_mem_cons.1 visible
      have split : doubled (character :: rest) =
          (if character = '\'' then ['\'', '\''] else [character]) ++ doubled rest := rfl
      by_cases quote : character = '\''
      · subst quote
        have passed : quotedOnLine false [] 1 ('\'' :: (doubled rest ++ ['\''])) =
            some (rest, .closed []) := by
          rw [quotedOnLine]
          exact induction later []
        rw [split, if_pos rfl, List.cons_append, List.cons_append, quotedOnLine]
        simp [Text.isTabOrSpace, passed]
      · have noTab : character ≠ '\t' := by
          rintro rfl
          exact absurd here (by decide)
        rw [split, if_neg quote, List.singleton_append, List.cons_append, quotedOnLine]
        by_cases space : character = ' '
        · subst space
          simp [Text.isTabOrSpace, induction later]
        · simp [Text.isTabOrSpace, space, noTab, quote, induction later]

theorem read_scalar_doubled {text : List Char}
    (visible : ∀ character ∈ text, isVisible character = true) (least column : Nat)
    (later : List Line) :
    readScalar? false least ⟨column, '\'' :: (doubled text ++ ['\'']), later⟩ =
      some (⟨false, text⟩, ⟨column + 1 + (doubled text ++ ['\'']).length, [], later⟩) := by
  have line := quoted_on_line_doubled visible []
  rw [List.reverse_nil, List.nil_append] at line
  simp only [readScalar?, readQuoted?, Place.skip, List.drop_one, List.tail_cons, line, bind,
    Option.bind, pure, Option.map_some, Place.before, List.length_nil, Nat.sub_zero]

theorem doubled_visible {text : List Char}
    (visible : ∀ character ∈ text, isVisible character = true) :
    ∀ character ∈ doubled text, isVisible character = true := by
  intro character member
  obtain ⟨given, inside, written⟩ := List.mem_flatMap.1 member
  split at written
  next quote =>
    have quotes : ∀ sign ∈ ['\'', '\''], isVisible sign = true := List.all_eq_true.1 (by decide)
    exact quotes character written
  · rw [List.mem_singleton.1 written]
    exact visible given inside

end Quoted

/-- How a scalar stands on one line: without quotes or between single ones. -/
inductive OneLine : (written : List Char) → (scalar : Scalar) → Prop
  | bare {word : List Char} (bare : Bare word) : OneLine word ⟨true, word⟩
  | quoted {text : List Char} (visible : ∀ character ∈ text, isVisible character = true) :
      OneLine ('\'' :: (doubled text ++ ['\''])) ⟨false, text⟩

namespace OneLine

variable {written : List Char} {scalar : Scalar}

theorem visible (line : OneLine written scalar) :
    ∀ character ∈ written, isVisible character = true := by
  cases line with
  | bare bare => exact fun character member => (bare.solid character member).1
  | quoted visible =>
      refine List.forall_mem_cons.2 ⟨by decide, List.forall_mem_append.2
        ⟨doubled_visible visible, List.forall_mem_singleton.2 (by decide)⟩⟩

theorem first (line : OneLine written scalar) : ∃ first more, written = first :: more ∧
    first ≠ ' ' ∧ first ∉ ['[', ']', '\x7b', '\x7d', '#', '|', '>'] ∧
      (first = '-' → apart more = false) := by
  cases line with
  | bare bare =>
      obtain ⟨first, more, rfl, sign⟩ := bare.first
      refine ⟨first, more, rfl, (bare.solid first List.mem_cons_self).2, fun member => ?_, ?_⟩
      · exact sign (List.mem_append.2 (Or.inl member) : first ∈ _ ++ ['\'', '"'])
      · rintro rfl
        simpa [beginsPlain, indicators] using bare.begins
  | quoted => exact ⟨_, _, rfl, by decide, by decide, fun dash => absurd dash (by decide)⟩

theorem begins (line : OneLine written scalar) (rest : List Char) :
    Place.Begins (written ++ rest) := by
  obtain ⟨first, more, rfl, solid, sign, -⟩ := line.first
  have level := no_line_end_of_visible (line.visible first List.mem_cons_self)
  exact ⟨first, rfl, solid, by rintro rfl; simp at sign, level⟩

theorem place (line : OneLine written scalar) (column : Nat) (rest : List Char) :
    Place.of column (written ++ '\n' :: rest) =
      ⟨column, written, ⟨'\n', (cutLines rest).1⟩ :: (cutLines rest).2⟩ := by
  rw [Place.of, cut_lines_line (level_of_visible line.visible)]

theorem read (line : OneLine written scalar) {least : Nat} {rest : List Char}
    (outdented : Outdented least rest) (column : Nat) :
    ReadUpTo (readScalar? false least (Place.of column (written ++ '\n' :: rest))) scalar rest := by
  rw [line.place]
  cases line with
  | bare bare =>
      obtain ⟨after, nothing, next⟩ := plain_on_lines_outdented outdented
      refine ⟨after, ?_, next⟩
      rw [read_scalar_bare bare, nothing, List.append_nil]
  | quoted visible => exact ⟨_, read_scalar_doubled visible least column _, rfl⟩

theorem no_key (line : OneLine written scalar) (column : Nat) (later : List Line) :
    readKey? false ⟨column, written, later⟩ = none := by
  have read : ∃ after : Place, readScalar? false 0 ⟨column, written, []⟩ = some (scalar, after) ∧
      after.rest = [] := by
    cases line with
    | bare bare =>
        refine ⟨⟨0, [], []⟩, (read_scalar_bare bare 0 column []).trans ?_, rfl⟩
        rw [plainOnLines, List.append_nil]
    | quoted visible => exact ⟨_, read_scalar_doubled visible 0 column [], rfl⟩
  obtain ⟨after, scalar, filled⟩ := read
  simp only [readKey?, scalar, bind, Option.bind, Place.skip, filled, List.drop_nil, ite_self]

end OneLine

section Key

variable {key : List Char}

theorem Bare.begins_before (bare : Bare key) (rest : List Char) :
    beginsPlain false (key ++ rest) = true := by
  obtain ⟨first, more, rfl, -⟩ := bare.first
  cases more with
  | cons next others => exact bare.begins
  | nil =>
      have begins := bare.begins
      simp only [beginsPlain, apart, List.head?_nil, Option.all_none, Bool.not_true,
        Bool.false_and, Bool.or_false] at begins
      simp only [List.singleton_append, beginsPlain, begins, Bool.true_or]

theorem read_key_bare (bare : Bare key) (short : key.length ≤ longestKey) {rest : List Char}
    (free : apart (cutLines rest).1 = true) (column : Nat) :
    readKey? false (Place.of column (key ++ ':' :: rest)) =
      some (⟨true, key⟩, Place.of (column + key.length + 1) rest) := by
  have cut : cutLines (key ++ ':' :: rest) =
      (key ++ ':' :: (cutLines rest).1, (cutLines rest).2) := by
    have colon : cutLines (':' :: rest) = (':' :: (cutLines rest).1, (cutLines rest).2) := rfl
    rw [cut_lines_level (level_of_solid bare.solid), colon]
  have stops : plainOnLine false [] (':' :: (cutLines rest).1) =
      ([], ':' :: (cutLines rest).1) := by
    rw [plainOnLine]
    simp [endsKey, free]
  have line := plain_on_line_word bare.solid bare.ends stops
  have scalar : readScalar? false 0 ⟨column, key ++ ':' :: (cutLines rest).1, []⟩ =
      some (⟨true, key⟩, ⟨column + key.length, ':' :: (cutLines rest).1, []⟩) := by
    obtain ⟨first, more, rfl, sign⟩ := bare.first
    rw [read_scalar_plain rfl (by rintro rfl; simp at sign) (by rintro rfl; simp at sign),
      if_pos (bare.begins_before _)]
    simp only [readPlain, line, List.isEmpty_cons, Bool.false_eq_true, if_false, Place.before,
      List.length_append, Nat.add_sub_cancel]
  have spaces : (':' :: (cutLines rest).1).takeWhile Place.isSpace = [] := rfl
  have near : (Place.mk column (key ++ ':' :: (cutLines rest).1) (cutLines rest).2).distance
      ⟨column + key.length, ':' :: (cutLines rest).1, []⟩ ≤ longestKey := by
    simpa [Place.distance] using short
  simp only [Place.of, cut, readKey?, scalar, bind, Option.bind, Place.skip, spaces,
    List.length_nil, List.drop_zero, Nat.add_zero, near, if_true, Bool.false_or, free,
    List.drop_one, List.tail_cons]

end Key

end ImportImpact.Yaml
