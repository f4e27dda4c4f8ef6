import ImportImpact.Proofs.Json.Scalar
import ImportImpact.Proofs.Yaml.Scalar
import ImportImpact.Yaml.Printer

/-!
Scalars as they are written, and what they mean when they are read. A text stands without quotes
only if it then means itself; otherwise it stands between single quotes, as long as all of its
characters are visible. A line is broken only at a space, and only where it is too long.
-/

namespace ImportImpact.Yaml

section Folded

variable {frame : Frame} {double : Bool} {text gap : List Char}

theorem no_gap_of_solid {character : Char} (solid : Solid character) : isGap character = false := by
  obtain ⟨visible, filled⟩ := solid
  simp only [isGap, Bool.or_eq_false_iff, decide_eq_false_iff_not]
  refine ⟨filled, ?_⟩
  rintro rfl
  exact absurd visible (by decide)

theorem open_gap_spaces (spaces : ∀ character ∈ gap, character = ' ') {column : Nat}
    (fits : gap = [] ∨ column ≤ widest) (inside : Bool) :
    foldedFrom.openGap frame inside column gap = (gap, column + gap.length) := by
  have level : gap.head? ≠ some '\n' := fun head =>
    absurd (spaces '\n' (List.mem_of_mem_head? head)) (by decide)
  have short : ¬(decide (gap.length = 1) && decide (widest < column) && frame.broken &&
      inside) = true := by
    rcases fits with rfl | fits
    · simp
    · simp [Nat.not_lt.2 fits]
  rw [foldedFrom.openGap, if_neg level, if_neg short]

def standing (double : Bool) (character : Char) : List Char :=
  if double && character = '\'' then ['\'', '\''] else [character]

theorem folded_character {character : Char} (solid : isGap character = false)
    (spaces : ∀ character ∈ gap, character = ' ') {column : Nat}
    (fits : gap = [] ∨ column ≤ widest) (inside : Bool) (rest : List Char) :
    foldedFrom frame double column inside gap (character :: rest) =
      gap ++ standing double character ++ foldedFrom frame double
        (column + gap.length + (standing double character).length) true [] rest := by
  rw [foldedFrom, if_neg (by simp [solid])]
  simp only [open_gap_spaces spaces fits, solid, Bool.false_eq_true, if_false]
  rfl

theorem standing_single (text : List Char) : text.flatMap (standing false) = text :=
  List.flatMap_singleton' text

theorem standing_double (text : List Char) : text.flatMap (standing true) = doubled text := by
  unfold doubled
  congr 1
  funext character
  simp [standing]

theorem folded_solid (solid : ∀ character ∈ text, Solid character) (column : Nat) (inside : Bool) :
    foldedFrom frame double column inside [] text = text.flatMap (standing double) := by
  induction text generalizing column inside with
  | nil => rfl
  | cons character rest induction =>
      obtain ⟨here, later⟩ := List.forall_mem_cons.1 solid
      rw [folded_character (no_gap_of_solid here) (by simp) (Or.inl rfl), induction later,
        List.flatMap_cons]
      rfl

theorem folded_short (visible : ∀ character ∈ text, isVisible character = true)
    (spaces : ∀ character ∈ gap, character = ' ') {column : Nat}
    (fits : column + gap.length + (text.flatMap (standing double)).length ≤ widest)
    (inside : Bool) : foldedFrom frame double column inside gap text =
      gap ++ text.flatMap (standing double) := by
  induction text generalizing column inside gap with
  | nil =>
      have level : gap.head? ≠ some '\n' := fun head =>
        absurd (spaces '\n' (List.mem_of_mem_head? head)) (by decide)
      rw [foldedFrom, foldedFrom.closeGap, if_neg level, List.flatMap_nil, List.append_nil]
  | cons character rest induction =>
      obtain ⟨here, later⟩ := List.forall_mem_cons.1 visible
      rw [List.flatMap_cons, List.length_append] at fits
      by_cases space : character = ' '
      · subst space
        have more : ∀ character ∈ ' ' :: gap, character = ' ' :=
          List.forall_mem_cons.2 ⟨rfl, spaces⟩
        have goesOn : (isGap ' ' && (gap.isEmpty || decide (gap.head? = some ' '))) = true := by
          cases gap with
          | nil => rfl
          | cons first others => simp [isGap, spaces first List.mem_cons_self]
        have moved : ' ' :: gap = gap ++ [' '] := by
          rw [List.eq_replicate_of_mem spaces, ← List.replicate_succ, List.replicate_succ']
        have one : standing double ' ' = [' '] := by cases double <;> rfl
        rw [one, List.length_singleton] at fits
        rw [foldedFrom, if_pos goesOn,
          induction later more (by simp only [List.length_cons]; omega), moved, List.flatMap_cons,
          one, List.append_assoc]
      · rw [folded_character (no_gap_of_solid ⟨here, space⟩) spaces (Or.inr (by omega)),
          induction later (by simp) (by simp only [List.length_nil]; omega), List.flatMap_cons]
        simp

end Folded

section Plain

variable {text : List Char}

theorem no_colon_last {afterGap : Bool} (free : holdsSign afterGap text = false) :
    text.getLast? ≠ some ':' := by
  induction text generalizing afterGap with
  | nil => simp
  | cons character rest induction =>
      rw [holdsSign, Bool.or_eq_false_iff, Bool.or_eq_false_iff] at free
      obtain ⟨⟨colon, -⟩, later⟩ := free
      cases rest with
      | nil =>
          intro last
          obtain rfl : character = ':' := by simpa using last
          exact absurd colon (by decide)
      | cons next others =>
          rw [List.getLast?_cons_cons]
          exact induction later

theorem bare_of_plain (solid : ∀ character ∈ text, Solid character)
    (plain : plainText text = true) : Bare text ∧ (Meaning.ofText text).isText = true := by
  simp only [plainText, Bool.and_eq_true, Bool.not_eq_true'] at plain
  obtain ⟨⟨⟨-, sign⟩, held⟩, means⟩ := plain
  refine ⟨⟨solid, ?_, no_colon_last held⟩, means⟩
  cases text with
  | nil => exact absurd means (by decide)
  | cons first rest =>
      obtain ⟨here, later⟩ := List.forall_mem_cons.1 solid
      simp only [beginsWithSign, Bool.or_eq_false_iff] at sign
      obtain ⟨leading, gap⟩ := sign
      by_cases indicator : first = '-' ∨ first = '?' ∨ first = ':'
      · have filled : gapFirst rest = false := by
          rcases indicator with rfl | rfl | rfl <;> simpa using gap
        have joined : apart rest = false := by
          cases rest with
          | nil => cases filled
          | cons next others => simp [apart, no_blank_of_solid (later next List.mem_cons_self)]
        rcases indicator with rfl | rfl | rfl <;> simp [beginsPlain, joined]
      · have noTab : first ≠ '\t' := by
          rintro rfl
          exact absurd here (by decide)
        have other : indicators.contains first = false := by
          simp [leadingSigns] at leading
          simp only [not_or] at indicator
          simp [indicators, leading, indicator, here.2, noTab]
        simp only [beginsPlain, other, Bool.not_false, Bool.true_or]

end Plain

def StandsAs (frame : Frame) (value : Value) : Prop :=
  ∃ scalar, OneLine (writeScalar frame false value) scalar ∧ scalar.value = .ok value

/-- All characters are visible, and spaces stand only in a text that is quoted and fits on its
line. -/
def Legible (frame : Frame) (text : List Char) : Prop :=
  (∀ character ∈ text, isVisible character = true) ∧
    (' ' ∉ text ∨ plainText text = false ∧
      frame.column + 1 + (doubled text).length ≤ widest)

section Stands

variable {frame : Frame}

theorem single_of_visible {text : List Char}
    (visible : ∀ character ∈ text, isVisible character = true) (key : Bool) :
    singleText key text = true := by
  have level : '\n' ∉ text := fun member => absurd (visible '\n' member) (by decide)
  have whole : brokenSpace text = false := by
    clear visible
    induction text with
    | nil => rfl
    | cons character rest induction =>
        obtain ⟨here, later⟩ := not_or.1 (mt List.mem_cons.2 level)
        have next : rest.head? ≠ some '\n' := fun head => later (List.mem_of_mem_head? head)
        rw [brokenSpace, induction later]
        simp [next, Ne.symm here]
  have shown : (text.all fun character => isVisible character || decide (character = '\n')) =
      true := List.all_eq_true.2 fun character member => by simp [visible character member]
  have one : text.contains '\n' = false := by simpa using level
  simp only [singleText, shown, whole, one, Bool.and_false, Bool.not_false, Bool.and_true]

theorem value_of_text {text : List Char} (means : (Meaning.ofText text).isText = true) :
    Scalar.value ⟨true, text⟩ = .ok (.str (String.ofList text)) := by
  rw [Scalar.value]
  cases meaning : Meaning.ofText text with
  | text => rfl
  | _ =>
      rw [meaning] at means
      cases means

theorem text_stands {text : String} (legible : Legible frame text.toList) :
    StandsAs frame (.str text) := by
  obtain ⟨visible, unbroken⟩ := legible
  by_cases plain : plainText text.toList = true
  · have solid : ∀ character ∈ text.toList, Solid character := by
      rcases unbroken with free | ⟨quoted, -⟩
      · exact fun character member => ⟨visible character member, fun space => free (space ▸ member)⟩
      · exact absurd plain (by simp [quoted])
    obtain ⟨bare, means⟩ := bare_of_plain solid plain
    have written : writeScalar frame false (.str text) = text.toList := by
      rw [writeScalar, writeText, styleFor, if_pos plain]
      exact (folded_solid solid frame.column false).trans (standing_single _)
    refine ⟨⟨true, text.toList⟩, by rw [written]; exact .bare bare, ?_⟩
    rw [value_of_text means, String.ofList_toList]
  · have written : writeScalar frame false (.str text) =
        '\'' :: (doubled text.toList ++ ['\'']) := by
      have folded : foldedFrom frame true (frame.column + 1) false [] text.toList =
          doubled text.toList := by
        rw [← standing_double]
        rcases unbroken with free | ⟨-, fits⟩
        · exact folded_solid (fun character member =>
            ⟨visible character member, fun space => free (space ▸ member)⟩) _ false
        · refine folded_short visible (by simp) ?_ false
          rw [standing_double]
          exact fits
      rw [writeScalar, writeText, styleFor, if_neg plain, if_pos (single_of_visible visible false)]
      dsimp only
      rw [folded, List.cons_append]
    refine ⟨⟨false, text.toList⟩, by rw [written]; exact .quoted visible, ?_⟩
    rw [Scalar.value, Scalar.string, String.ofList_toList]
    rfl

theorem word_stands (word : List Char) {value : Value} (bare : Bare word)
    (means : Scalar.value ⟨true, word⟩ = .ok value)
    (written : writeScalar frame false value = word) : StandsAs frame value := by
  refine ⟨⟨true, word⟩, ?_, means⟩
  rw [written]
  exact .bare bare

theorem null_stands (frame : Frame) : StandsAs frame .null :=
  word_stands "null".toList ⟨List.all_iff_forall_prop.1 (by decide), by decide, by decide⟩ rfl rfl

theorem bool_stands (truth : Bool) (frame : Frame) : StandsAs frame (.bool truth) := by
  cases truth with
  | false =>
      exact word_stands "false".toList
        ⟨List.all_iff_forall_prop.1 (by decide), by decide, by decide⟩ rfl rfl
  | true =>
      exact word_stands "true".toList
        ⟨List.all_iff_forall_prop.1 (by decide), by decide, by decide⟩ rfl rfl

end Stands

section Number

open Json

variable {number : Int}

theorem in_base_of_digits {digits : List Char} (all : ∀ digit ∈ digits, digit.isDigit = true) :
    Number.inBase 10 digits = naturalOf digits := by
  refine List.foldl_ext _ _ _ fun value digit member => ?_
  rw [Number.digitValue, if_pos (all digit member)]

theorem whole_meaning {text : List Char} {first : Char} (head : text.head? = some first)
    (numeric : first = '-' ∨ first.isDigit = true) {whole : Number.Whole}
    (read : Number.whole? text = some whole) : Meaning.ofText text = .whole whole := by
  have names : ∀ list ∈ [Meaning.nullNames, Meaning.trueNames, Meaning.falseNames, Meaning.signs],
      ∀ name ∈ list,
        (name.toList.head?.any fun letter => letter = '-' || letter.isDigit) = false := by decide
  have other : ∀ list ∈ [Meaning.nullNames, Meaning.trueNames, Meaning.falseNames, Meaning.signs],
      ¬list.contains (String.ofList text) = true := by
    intro list known member
    have free := names list known _ (List.contains_iff_mem.1 member)
    rw [String.toList_ofList, head] at free
    rcases numeric with rfl | digit
    · cases free
    · simp [digit] at free
  rw [Meaning.ofText, if_neg (other _ (by simp)), if_neg (other _ (by simp)),
    if_neg (other _ (by simp)), if_neg (other _ (by simp)), read]

theorem without_lines_of_digits {digits : List Char}
    (all : ∀ digit ∈ digits, digit.isDigit = true) : Number.withoutLines digits = digits := by
  refine List.filter_eq_self.2 fun digit member => ?_
  have given := all digit member
  simp only [bne_iff_ne, ne_eq]
  rintro rfl
  cases given

theorem whole_of_digits {text : List Char} {negative : Bool} {size : Nat}
    (body : Number.unsigned text = (negative, Nat.toDigits 10 size))
    (short : (Nat.toDigits 10 size).length ≤ Number.mostDigits) :
    Number.whole? text = some (.ok (Number.signed negative size)) := by
  by_cases zero : size = 0
  · subst zero
    rw [Number.whole?, body]
    rfl
  · have digits := digits_are_digits size
    have first := no_zero_first zero
    have value : Number.Whole.ofDecimal negative (Nat.toDigits 10 size) =
        .ok (Number.signed negative size) := by
      rw [Number.Whole.ofDecimal, without_lines_of_digits digits, in_base_of_digits digits,
        natural_of_digits]
      exact if_neg (Nat.not_lt.2 short)
    obtain ⟨digit, others, shape⟩ :=
      List.exists_cons_of_ne_nil (Nat.toDigits_ne_nil (n := size) (b := 10))
    rw [shape] at body digits first value
    obtain ⟨here, later⟩ := List.forall_mem_cons.1 digits
    have different : digit ≠ '0' := fun same => first (congrArg some same)
    have inside : others.all Number.isDigitOrLine = true :=
      List.all_eq_true.2 fun other member => by
        have given : other.isDigit = true := later other member
        simp [Number.isDigitOrLine, given]
    rw [Number.whole?, body]
    have given : digit.isDigit = true := here
    simp [different, given, inside, value]

theorem int_text (number : Int) : ∃ sign, (toString number).toList =
    sign ++ Nat.toDigits 10 number.natAbs ∧ (sign = [] ∨ sign = ['-']) ∧
      Number.unsigned (toString number).toList =
        (decide (number < 0), Nat.toDigits 10 number.natAbs) := by
  have written : (toString number).toList = _ := write_int_eq number
  rw [written]
  by_cases negative : number < 0
  · rw [if_pos negative, decide_eq_true negative]
    exact ⟨['-'], rfl, Or.inr rfl, rfl⟩
  · rw [if_neg negative, decide_eq_false negative]
    refine ⟨[], rfl, Or.inl rfl, ?_⟩
    have digits := digits_are_digits number.natAbs
    cases shape : Nat.toDigits 10 number.natAbs with
    | nil => rfl
    | cons digit others =>
        have given : digit.isDigit = true := digits digit (by simp [shape])
        rw [List.nil_append, Number.unsigned]
        · intro others same
          rw [(List.cons.inj same).1] at given
          cases given
        · intro others same
          rw [(List.cons.inj same).1] at given
          cases given

theorem solid_of_digit {digit : Char} (given : digit.isDigit = true) : Solid digit := by
  obtain ⟨low, high⟩ := Char.isDigit_iff_toNat.1 given
  refine ⟨visible_iff.2 ⟨Nat.le_trans (by decide) low, Nat.le_trans high (by decide)⟩, ?_⟩
  rintro rfl
  cases given

theorem bare_of_digits {sign digits : List Char} (signs : sign = [] ∨ sign = ['-'])
    (filled : digits ≠ []) (all : ∀ digit ∈ digits, digit.isDigit = true) :
    Bare (sign ++ digits) := by
  obtain ⟨digit, others, rfl⟩ := List.exists_cons_of_ne_nil filled
  have here := all digit List.mem_cons_self
  have last : (digit :: others).getLast? ≠ some ':' := fun colon =>
    absurd (all ':' (List.mem_of_getLast? colon)) (by decide)
  have solid : ∀ character ∈ digit :: others, Solid character :=
    fun character member => solid_of_digit (all character member)
  rcases signs with rfl | rfl
  · refine ⟨solid, ?_, last⟩
    have plain : indicators.contains digit = false := by
      have none : ∀ indicator ∈ indicators, ¬indicator.isDigit = true :=
        List.any_eq_false.1 (by decide)
      rw [← Bool.not_eq_true, List.contains_iff_mem]
      exact fun member => none digit member here
    rw [List.nil_append, beginsPlain, plain]
    rfl
  · refine ⟨List.forall_mem_cons.2 ⟨by decide, solid⟩, ?_, last⟩
    simp [beginsPlain, apart, no_blank_of_solid (solid digit List.mem_cons_self)]

theorem int_stands (short : Value.hasShortText number = true) (frame : Frame) :
    StandsAs frame (.int number) := by
  obtain ⟨sign, written, signs, unsigned⟩ := int_text number
  have few : (Nat.toDigits 10 number.natAbs).length ≤ Number.mostDigits := of_decide_eq_true short
  have read := whole_of_digits unsigned few
  have value : Number.signed (decide (number < 0)) number.natAbs = number := by
    simp only [Number.signed, decide_eq_true_eq]
    split <;> omega
  rw [value] at read
  have all : ∀ digit ∈ Nat.toDigits 10 number.natAbs, digit.isDigit = true :=
    digits_are_digits number.natAbs
  have bare := bare_of_digits signs Nat.toDigits_ne_nil all
  refine word_stands (toString number).toList (written ▸ bare) ?_ rfl
  have begins : ∃ first, (toString number).toList.head? = some first ∧
      (first = '-' ∨ first.isDigit = true) := by
    rw [written]
    rcases signs with rfl | rfl
    · cases shape : Nat.toDigits 10 number.natAbs with
      | nil => exact absurd shape Nat.toDigits_ne_nil
      | cons digit others => exact ⟨digit, rfl, Or.inr (all digit (by simp [shape]))⟩
    · exact ⟨'-', rfl, Or.inl rfl⟩
  obtain ⟨first, head, numeric⟩ := begins
  rw [Scalar.value, whole_meaning head numeric read]
  rfl

end Number

end ImportImpact.Yaml
