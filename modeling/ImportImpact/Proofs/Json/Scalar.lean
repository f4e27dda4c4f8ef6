import ImportImpact.Json.Printer
import ImportImpact.Json.Reader
import ImportImpact.Proofs.Text.Scan
import Mathlib.Data.List.Basic

/-!
Words and whole numbers in JSON documents. A number is written without a zero in front, so reading
it takes all of its digits and stops at whatever follows a value.
-/

namespace ImportImpact.Json

def Follows (rest : List Char) : Prop :=
  ∀ character ∈ rest.head?, character = ',' ∨ character = '\n'

section Digits

variable {rest : List Char}

theorem digits_are_digits (number : Nat) :
    ∀ digit ∈ Nat.toDigits 10 number, isDigit digit = true :=
  fun _ member => Nat.isDigit_of_mem_toDigits (by omega) (by omega) member

theorem no_zero_first {number : Nat} (positive : number ≠ 0) :
    (Nat.toDigits 10 number).head? ≠ some '0' := by
  induction number using Nat.strong_induction_on with
  | _ number induction =>
      rw [Nat.toDigits_eq_if (by omega)]
      split
      next small =>
        intro zero
        exact positive (Nat.digitChar_eq_zero.1 (Option.some.inj zero))
      next large =>
        rw [List.head?_append_of_ne_nil _ Nat.toDigits_ne_nil]
        exact induction _ (by omega) (by omega)

theorem natural_of_digits (number : Nat) : naturalOf (Nat.toDigits 10 number) = number := by
  have same := Nat.ofDigitChars_ten_toDigits (n := number)
  rw [Nat.ofDigitChars_eq_foldl] at same
  exact same

theorem Follows.no_digit (follows : Follows rest) : Text.Ends isDigit rest := by
  intro character head
  rcases follows character head with rfl | rfl
  · rfl
  · rfl

theorem whole_digits_written (number : Nat) (follows : Follows rest) :
    wholeDigits? (Nat.toDigits 10 number ++ rest) = some (Nat.toDigits 10 number, rest) := by
  by_cases zero : number = 0
  · rw [zero]
    rfl
  · obtain ⟨digit, others, shape⟩ :=
      List.exists_cons_of_ne_nil (Nat.toDigits_ne_nil (n := number) (b := 10))
    have all := digits_are_digits number
    have first := no_zero_first zero
    rw [shape] at all first ⊢
    obtain ⟨here, later⟩ := List.forall_mem_cons.1 all
    have different : digit ≠ '0' := fun same => first (congrArg some same)
    rw [List.cons_append, wholeDigits?]
    · rw [if_pos here, Text.take_while_run later follows.no_digit,
        Text.drop_while_run later follows.no_digit]
    · exact different

end Digits

section Number

variable {rest : List Char} {number : Int}

theorem write_int_eq (number : Int) : writeInt number =
    (if number < 0 then ['-'] else []) ++ Nat.toDigits 10 number.natAbs := by
  cases number with
  | ofNat size =>
      have large : ¬Int.ofNat size < 0 := Int.not_lt.2 (Int.natCast_nonneg size)
      rw [if_neg large]
      change (toString size).toList = _
      rw [Nat.toString_eq_ofList_toDigits, String.toList_ofList]
      rfl
  | negSucc size =>
      rw [if_pos (Int.negSucc_lt_zero size)]
      change ("-" ++ toString (size + 1)).toList = _
      rw [String.toList_append, Nat.toString_eq_ofList_toDigits]
      exact congrArg (['-'] ++ ·) String.toList_ofList

theorem follows_no_exponent (follows : Follows rest) :
    fractionDigits rest = ([], rest) ∧ exponentDigits? rest = none := by
  cases rest with
  | nil => exact ⟨rfl, rfl⟩
  | cons character others =>
      rcases follows character rfl with rfl | rfl
      · exact ⟨rfl, rfl⟩
      · exact ⟨rfl, rfl⟩

theorem read_magnitude_written (start : List Char) (negative : Bool) {size : Nat}
    (short : (Nat.toDigits 10 size).length ≤ 4300) (follows : Follows rest) :
    readMagnitude start negative (Nat.toDigits 10 size ++ rest) =
      .ok (.int (if negative then -size else size), rest) := by
  obtain ⟨noFraction, noExponent⟩ := follows_no_exponent follows
  simp only [readMagnitude, whole_digits_written size follows, noFraction, noExponent,
    List.isEmpty_nil, if_true, if_neg (Nat.not_lt.2 short), natural_of_digits]

/-- No word begins with a digit or with a sign before one. -/
theorem no_word {digit : Char} (given : isDigit digit = true) (others : List Char) :
    readNamed? (digit :: others) = none ∧ readNamed? ('-' :: digit :: others) = none := by
  have different : ∀ letter, isDigit letter = false → letter ≠ digit := by
    rintro letter letterNot rfl
    rw [given] at letterNot
    cases letterNot
  have n := different 'n' rfl
  have t := different 't' rfl
  have f := different 'f' rfl
  have capitalN := different 'N' rfl
  have capitalI := different 'I' rfl
  have sign := different '-' rfl
  constructor
  · simp [readNamed?, namedValues, word?, n, t, f, capitalN, capitalI, sign]
  · simp [readNamed?, namedValues, word?, capitalI]

theorem read_scalar_int (short : Value.hasShortText number = true) (follows : Follows rest) :
    readScalar (writeInt number ++ rest) = .ok (.int number, rest) := by
  have few : (Nat.toDigits 10 number.natAbs).length ≤ 4300 :=
    of_decide_eq_true short
  obtain ⟨digit, others, shape⟩ :=
    List.exists_cons_of_ne_nil (Nat.toDigits_ne_nil (n := number.natAbs) (b := 10))
  have given : isDigit digit = true :=
    digits_are_digits number.natAbs digit (by rw [shape]; exact List.mem_cons_self)
  have positive := read_magnitude_written (Nat.toDigits 10 number.natAbs ++ rest) false few follows
  have negative := read_magnitude_written ('-' :: (Nat.toDigits 10 number.natAbs ++ rest)) true few
    follows
  obtain ⟨noWord, noSigned⟩ := no_word given (others ++ rest)
  rw [write_int_eq]
  by_cases below : number < 0
  · have value : -(number.natAbs : Int) = number := by omega
    rw [if_pos below, List.singleton_append, List.cons_append]
    rw [shape, List.cons_append] at negative ⊢
    simp only [readScalar, noSigned, negative, if_true, value]
  · have value : (number.natAbs : Int) = number := by omega
    rw [if_neg below, List.nil_append]
    rw [shape, List.cons_append] at positive ⊢
    simp only [readScalar, noWord]
    split
    next rest same =>
      cases (List.cons.inj same).1
      cases given
    · simp only [positive, Bool.false_eq_true, if_false, value]

theorem write_int_head (number : Int) : ∃ first others, writeInt number = first :: others ∧
    (first = '-' ∨ isDigit first = true) := by
  rw [write_int_eq]
  split
  · exact ⟨_, _, rfl, Or.inl rfl⟩
  · obtain ⟨digit, others, shape⟩ :=
      List.exists_cons_of_ne_nil (Nat.toDigits_ne_nil (n := number.natAbs) (b := 10))
    refine ⟨digit, others, shape, Or.inr ?_⟩
    exact digits_are_digits number.natAbs digit (by rw [shape]; exact List.mem_cons_self)

end Number

section Word

theorem read_scalar_null (rest : List Char) :
    readScalar ("null".toList ++ rest) = .ok (.null, rest) := rfl

theorem read_scalar_bool (truth : Bool) (rest : List Char) :
    readScalar (writeBool truth ++ rest) = .ok (.bool truth, rest) := by
  cases truth <;> rfl

end Word

end ImportImpact.Json
