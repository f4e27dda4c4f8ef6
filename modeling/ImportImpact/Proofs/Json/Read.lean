import ImportImpact.Json.Reader
import ImportImpact.Proofs.Value.Keyed
import ImportImpact.Proofs.Value.Within
import Mathlib.Data.List.TakeWhile

/-!
What reading JSON can come to. A value that is read has no mapping with a key twice, because of
entries with one key the last one counts, and no number that is too long to be written; and where
reading stops because of the text, the reason it gives has no bracket in it.
-/

namespace ImportImpact.Json

/-- What is read is of this kind, or reading stopped for a reason without brackets. -/
def Gives {Read : Type} (kind : Read → Prop) : Except Stop Read → Prop
  | .ok read => kind read
  | .error (.unexpected reason _) => '[' ∉ reason.toList
  | .error _ => True

section Gives

variable {Read Further : Type} {kind : Read → Prop} {other : Further → Prop}

theorem Gives.bind {first : Except Stop Read} {next : Read → Except Stop Further}
    (given : Gives kind first) (onward : ∀ read, kind read → Gives other (next read)) :
    Gives other (first >>= next) := by
  cases first with
  | ok read => exact onward read given
  | error stopped =>
      cases stopped with
      | unexpected reason left => exact given
      | _ => trivial

theorem gives_stop {reason : String} (plain : '[' ∉ reason.toList) (left : List Char) :
    Gives kind (stop reason left) := plain

end Gives

/-- A value as it can be read: without keys that are there twice, and without long numbers. -/
structure Tidy (value : Value) : Prop where
  keyed : value.Keyed
  short : value.isWritable = true

theorem tidy_list {items : List Value} (each : ∀ item ∈ items, Tidy item) : Tidy (.list items) :=
  ⟨.list fun item member => (each item member).keyed,
    Value.items_writable_iff.2 fun item member => (each item member).short⟩

theorem tidy_of_entries {entries : List (Value × Value)}
    (each : ∀ entry ∈ entries, entry.1.isWritable = true ∧ Tidy entry.2) :
    Tidy (Value.ofEntries entries) := by
  refine ⟨Value.keyed_of_entries fun entry member => (each entry member).2.keyed,
    Value.entries_writable_iff.2 fun entry member => ?_⟩
  obtain ⟨key, value⟩ := Value.mem_update member
  rw [List.map_nil, List.append_nil] at key value
  obtain ⟨named, inside, sameKey⟩ := List.mem_map.1 key
  obtain ⟨held, insideToo, sameValue⟩ := List.mem_map.1 value
  exact ⟨sameKey ▸ (each named inside).1, sameValue ▸ (each held insideToo).2.short⟩

def TidyFirst (read : Value × List Char) : Prop := Tidy read.1

theorem read_text_gives (quote read : List Char) (bound : Nat) (text : List Char) :
    Gives (fun _ => True) (readText quote read bound text) := by
  fun_induction readText quote read bound text <;> first
    | assumption
    | exact gives_stop (by decide) _
    | trivial

theorem natural_lt {digits : List Char} (given : ∀ digit ∈ digits, isDigit digit = true) :
    naturalOf digits < 10 ^ digits.length := by
  induction digits using List.reverseRecOn with
  | nil => exact Nat.one_pos
  | append_singleton digits digit induction =>
      rw [List.forall_mem_append, List.forall_mem_singleton] at given
      have before := induction given.1
      have last : digit.toNat ≤ 57 := (Char.isDigit_iff_toNat.1 given.2).2
      rw [naturalOf, List.foldl_append, List.length_append, List.length_singleton, Nat.pow_succ]
      change 10 * naturalOf digits + (digit.toNat - 48) < _
      omega

theorem digits_of_whole {text digits rest : List Char}
    (whole : wholeDigits? text = some (digits, rest)) :
    ∀ digit ∈ digits, isDigit digit = true := by
  unfold wholeDigits? at whole
  split at whole
  · cases whole
    simp [isDigit]
  next first others _ =>
    split at whole
    next here =>
      cases whole
      exact List.forall_mem_cons.2 ⟨here, fun digit member => List.mem_takeWhile_imp member⟩
    · cases whole
  · cases whole

theorem read_magnitude_gives (start : List Char) (negative : Bool) (text : List Char) :
    Gives TidyFirst (readMagnitude start negative text) := by
  unfold readMagnitude
  split
  · exact gives_stop (by decide) _
  next whole _ found =>
    dsimp only
    split
    · exact ⟨.float _, rfl⟩
    · split
      · split
        · trivial
        next few =>
          have small : naturalOf whole < 10 ^ Value.mostDigits :=
            Nat.lt_of_lt_of_le (natural_lt (digits_of_whole found))
              (Nat.pow_le_pow_right (by omega) (Nat.not_lt.1 few))
          refine ⟨.int _, Value.short_text_iff.2 ?_⟩
          split <;> omega
      · exact ⟨.float _, rfl⟩

theorem named_tidy : ∀ named ∈ namedValues, Tidy named.2 := by
  simp only [namedValues, List.forall_mem_cons, List.not_mem_nil, false_implies, implies_true,
    and_true]
  exact ⟨⟨.null, rfl⟩, ⟨.bool _, rfl⟩, ⟨.bool _, rfl⟩, ⟨.float _, rfl⟩, ⟨.float _, rfl⟩,
    ⟨.float _, rfl⟩⟩

theorem read_scalar_gives (text : List Char) : Gives TidyFirst (readScalar text) := by
  unfold readScalar
  split
  next named found =>
    obtain ⟨entry, member, here⟩ := List.exists_of_findSome?_eq_some found
    obtain ⟨rest, -, rfl⟩ := Option.map_eq_some_iff.1 here
    exact named_tidy entry member
  · split <;> exact read_magnitude_gives _ _ _

/-- Values, items and entries are read by each other, each with a smaller bound. -/
theorem read_all_gives (bound : Nat) :
    (∀ levels text, Gives TidyFirst (readValue levels bound text)) ∧
    (∀ levels read text, (∀ item ∈ read, Tidy item) →
      Gives TidyFirst (readItems levels bound read text)) ∧
    ∀ levels read text,
      (∀ entry ∈ read, Value.isWritable entry.1 = true ∧ Tidy entry.2) →
      Gives TidyFirst (readEntries levels bound read text) := by
  induction bound with
  | zero => exact ⟨fun _ _ => gives_stop (by decide) _, fun _ _ _ _ => gives_stop (by decide) _,
      fun _ _ _ _ => gives_stop (by decide) _⟩
  | succ bound induction =>
      obtain ⟨value, items, entries⟩ := induction
      refine ⟨fun levels text => ?_, fun levels read text each => ?_,
        fun levels read text each => ?_⟩
      · unfold readValue
        split
        · exact (read_text_gives _ _ _ _).bind fun read _ => ⟨.str _, rfl⟩
        · split
          · trivial
          · split
            · exact tidy_list (by simp)
            · exact items _ _ _ (by simp)
        · split
          · trivial
          · split
            · exact ⟨.dict List.nodup_nil (by simp), rfl⟩
            · exact entries _ _ _ (by simp)
        · exact read_scalar_gives text
      · unfold readItems
        refine (value levels text).bind fun item tidy => ?_
        have all : ∀ other ∈ item.1 :: read, Tidy other := List.forall_mem_cons.2 ⟨tidy, each⟩
        dsimp only
        split
        · exact tidy_list fun other member => all other (List.mem_reverse.1 member)
        · exact items _ _ _ all
        · exact gives_stop (by decide) _
      · unfold readEntries
        split
        · refine (read_text_gives _ _ _ _).bind fun key _ => ?_
          dsimp only
          split
          · refine (value levels _).bind fun given tidy => ?_
            have all : ∀ entry ∈ (Value.str key.1, given.1) :: read,
                Value.isWritable entry.1 = true ∧ Tidy entry.2 :=
              List.forall_mem_cons.2 ⟨⟨rfl, tidy⟩, each⟩
            split
            · exact tidy_of_entries fun entry member => all entry (List.mem_reverse.1 member)
            · exact entries _ _ _ all
            · exact gives_stop (by decide) _
          · exact gives_stop (by decide) _
        · exact gives_stop (by decide) _

theorem read_document_gives (levels : Nat) (text : List Char) :
    Gives Tidy (readDocument levels text) := by
  unfold readDocument
  split
  · exact gives_stop (by decide) _
  · refine ((read_all_gives _).1 _ _).bind fun read tidy => ?_
    dsimp only
    split
    · exact tidy
    · exact gives_stop (by decide) _

section Read

variable {room : Room} {document : String}

theorem tidy_of_read {value : Value} (done : read room document = .ok value) : Tidy value := by
  have given := read_document_gives room.levels document.toList
  unfold read at done
  split at done
  next tidy =>
    cases done
    rw [tidy] at given
    exact given
  · cases done

/-- Why a text is no document: it stops making sense at some place, for a reason without brackets,
a number in it is too long, it is too deep, or it has half a character. -/
inductive Refused : Fault → Prop
  | malformed (bad : BadDocument) (plain : '[' ∉ bad.reason.toList) : Refused (.badDocument bad)
  | long (count : Nat) : Refused (.tooManyDigits count)
  | deep (detail : String) : Refused (.tooDeep detail)
  | unpaired (detail : String) : Refused (.unfollowed detail)

theorem fault_of_read {fault : Fault} (failed : read room document = .error fault) :
    Refused fault := by
  have given := read_document_gives room.levels document.toList
  unfold read at failed
  split at failed
  · cases failed
  next stopped why =>
    cases failed
    rw [why] at given
    cases stopped with
    | unexpected reason left => exact .malformed _ given
    | tooManyDigits count => exact .long count
    | tooDeep kind => exact .deep _
    | unpaired => exact .unpaired _

end Read

end ImportImpact.Json
