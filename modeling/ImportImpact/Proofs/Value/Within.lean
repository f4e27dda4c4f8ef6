import ImportImpact.Fault
import Mathlib.Data.Nat.Digits.Lemmas

/-!
What can be written. A value is gone through without a fault just where no whole number in it is too
long and lists and mappings are not too deep inside one another, and the fault tells which of the
two came first.
-/

namespace ImportImpact.Value

theorem short_text_iff {number : Int} :
    hasShortText number = true ↔ number.natAbs < 10 ^ mostDigits := by
  rw [hasShortText, decide_eq_true_iff]
  exact Nat.length_toDigits_le_iff (by omega) (by decide)

theorem short_text_of_le {small large : Nat} (less : small ≤ large)
    (short : hasShortText large = true) : hasShortText small = true :=
  short_text_iff.2 (Nat.lt_of_le_of_lt less (short_text_iff.1 short))

theorem long_text_iff {number : Int} :
    hasShortText number = false ↔ 10 ^ mostDigits ≤ number.natAbs := by
  rw [← Bool.not_eq_true, short_text_iff, Nat.not_lt]

theorem items_writable_iff {items : List Value} :
    areItemsWritable items = true ↔ ∀ item ∈ items, item.isWritable = true := by
  induction items with
  | nil => simp [areItemsWritable]
  | cons item rest induction => simp [areItemsWritable, induction]

theorem entries_writable_iff {entries : List (Value × Value)} :
    areEntriesWritable entries = true ↔
      ∀ entry ∈ entries, entry.1.isWritable = true ∧ entry.2.isWritable = true := by
  induction entries with
  | nil => simp [areEntriesWritable]
  | cons entry rest induction =>
      rw [areEntriesWritable, List.forall_mem_cons, ← induction]
      simp

theorem items_nesting_le_iff {items : List Value} {levels : Nat} :
    itemsNesting items ≤ levels ↔ ∀ item ∈ items, item.nesting ≤ levels := by
  induction items with
  | nil => simp [itemsNesting]
  | cons item rest induction =>
      rw [itemsNesting, List.forall_mem_cons, ← induction, Nat.max_le]

theorem entries_nesting_le_iff {entries : List (Value × Value)} {levels : Nat} :
    entriesNesting entries ≤ levels ↔
      ∀ entry ∈ entries, entry.1.nesting ≤ levels ∧ entry.2.nesting ≤ levels := by
  induction entries with
  | nil => simp [entriesNesting]
  | cons entry rest induction =>
      rw [entriesNesting, List.forall_mem_cons, ← induction, Nat.max_le, Nat.max_le]

section Demand

theorem demand_writable_iff {value : Value} :
    value.demandWritable = .ok () ↔ value.isWritable = true := by
  unfold demandWritable
  split <;> simp_all

theorem demand_writable_error {value : Value} (long : value.isWritable = false) :
    value.demandWritable = .error .numberTooLong := by
  rw [demandWritable, long]
  rfl

/-- What a demand on something with these properties comes to. -/
inductive Demanded (refusal : Fault) (levels : Nat) (writable : Bool) (nesting : Nat) :
    Outcome Unit → Prop
  | met (short : writable = true) (fits : nesting ≤ levels) :
      Demanded refusal levels writable nesting (.ok ())
  | tooLong (long : writable = false) :
      Demanded refusal levels writable nesting (.error .numberTooLong)
  | tooDeep (deep : levels < nesting) : Demanded refusal levels writable nesting (.error refusal)

variable {refusal : Fault} {levels : Nat}

theorem Demanded.both {writable writableToo : Bool} {nesting nestingToo : Nat}
    {first second : Outcome Unit} (here : Demanded refusal levels writable nesting first)
    (later : Demanded refusal levels writableToo nestingToo second) :
    Demanded refusal levels (writable && writableToo) (max nesting nestingToo)
      (first >>= fun _ => second) := by
  cases here with
  | met short fits =>
      cases later with
      | met shortToo fitsToo =>
          exact .met (by simp [short, shortToo]) (Nat.max_le.2 ⟨fits, fitsToo⟩)
      | tooLong long => exact .tooLong (by simp [long])
      | tooDeep deep => exact .tooDeep (Nat.lt_of_lt_of_le deep (Nat.le_max_right _ _))
  | tooLong long => exact .tooLong (by simp [long])
  | tooDeep deep => exact .tooDeep (Nat.lt_of_lt_of_le deep (Nat.le_max_left _ _))

theorem Demanded.deeper {writable : Bool} {nesting : Nat} {outcome : Outcome Unit}
    (demanded : Demanded refusal levels writable nesting outcome) :
    Demanded refusal (levels + 1) writable (nesting + 1) outcome := by
  cases demanded with
  | met short fits => exact .met short (Nat.succ_le_succ fits)
  | tooLong long => exact .tooLong long
  | tooDeep deep => exact .tooDeep (Nat.succ_lt_succ deep)

variable (refusal)

mutual

theorem demanded_within (levels : Nat) (value : Value) :
    Demanded refusal levels value.isWritable value.nesting (value.demandWithin refusal levels) := by
  cases value with
  | int number =>
      rw [demandWithin, isWritable]
      cases short : hasShortText number with
      | true => exact .met rfl (Nat.zero_le _)
      | false => exact .tooLong rfl
  | list items =>
      cases levels with
      | zero => exact .tooDeep (Nat.succ_pos _)
      | succ levels => exact (demanded_items levels items).deeper
  | dict entries =>
      cases levels with
      | zero => exact .tooDeep (Nat.succ_pos _)
      | succ levels => exact (demanded_entries levels entries).deeper
  | _ => exact .met rfl (Nat.zero_le _)

theorem demanded_items (levels : Nat) (items : List Value) :
    Demanded refusal levels (areItemsWritable items) (itemsNesting items)
      (demandItemsWithin refusal levels items) := by
  cases items with
  | nil => exact .met rfl (Nat.zero_le _)
  | cons item rest => exact (demanded_within levels item).both (demanded_items levels rest)

theorem demanded_entries (levels : Nat) (entries : List (Value × Value)) :
    Demanded refusal levels (areEntriesWritable entries) (entriesNesting entries)
      (demandEntriesWithin refusal levels entries) := by
  cases entries with
  | nil => exact .met rfl (Nat.zero_le _)
  | cons entry rest =>
      obtain ⟨key, value⟩ := entry
      have entry := (demanded_within levels key).both (demanded_within levels value)
      have whole := entry.both (demanded_entries levels rest)
      rw [bind_assoc] at whole
      exact whole

end

theorem demand_within_iff {levels : Nat} {value : Value} :
    value.demandWithin refusal levels = .ok () ↔
      value.isWritable = true ∧ value.nesting ≤ levels := by
  have demanded := demanded_within refusal levels value
  constructor
  · intro done
    rw [done] at demanded
    cases demanded with
    | met short fits => exact ⟨short, fits⟩
  · rintro ⟨short, fits⟩
    generalize value.demandWithin refusal levels = outcome at demanded
    cases demanded with
    | met => rfl
    | tooLong long => simp [long] at short
    | tooDeep deep => exact absurd fits (Nat.not_le.2 deep)

theorem demand_long {levels : Nat} {value : Value} (long : value.isWritable = false)
    (fits : value.nesting ≤ levels) :
    value.demandWithin refusal levels = .error .numberTooLong := by
  have demanded := demanded_within refusal levels value
  generalize value.demandWithin refusal levels = outcome at demanded
  cases demanded with
  | met short => simp [long] at short
  | tooLong => rfl
  | tooDeep deep => exact absurd fits (Nat.not_le.2 deep)

theorem demand_deep {levels : Nat} {value : Value} (short : value.isWritable = true)
    (deep : levels < value.nesting) : value.demandWithin refusal levels = .error refusal := by
  have demanded := demanded_within refusal levels value
  generalize value.demandWithin refusal levels = outcome at demanded
  cases demanded with
  | met _ fits => exact absurd fits (Nat.not_le.2 deep)
  | tooLong long => simp [short] at long
  | tooDeep => rfl

end Demand

end ImportImpact.Value
