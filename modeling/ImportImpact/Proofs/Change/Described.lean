import ImportImpact.Change.PullRequest
import ImportImpact.Proofs.Outcome
import ImportImpact.Proofs.Value.Keyed
import ImportImpact.Proofs.Value.Within

/-!
Documents that describe changes. A changed file is described by a mapping with a text as its path,
and a pull request by a mapping that lists such mappings under one of two names, or nothing. All
other documents are misused when they are read. No number in a document that was read is too long to
be written, and of other documents nothing is said here.
-/

namespace ImportImpact

open Outcome

theorem misuse_of_elements {value : Value} {fault : Fault}
    (failed : value.elements = .error fault) : ∃ misuse, fault = .misuse misuse := by
  cases value with
  | list | str | dict => cases failed
  | _ =>
      cases failed
      exact ⟨_, rfl⟩

theorem Value.lookup_writable {entries : List (Value × Value)}
    (writable : (Value.dict entries).isWritable = true) (key : String) :
    ((Value.lookup key entries).getD .null).isWritable = true := by
  cases found : Value.lookup key entries with
  | none => rfl
  | some value => exact (Value.entries_writable_iff.1 writable _ (Value.entry_of_lookup found)).2

theorem Value.elements_writable {value : Value} {items : List Value}
    (writable : value.isWritable = true) (gone : value.elements = .ok items) :
    ∀ item ∈ items, item.isWritable = true := by
  cases value with
  | list given =>
      cases gone
      exact Value.items_writable_iff.1 writable
  | str text =>
      cases gone
      simp [Value.isWritable]
  | dict entries =>
      cases gone
      simpa using fun key value member => (Value.entries_writable_iff.1 writable _ member).1
  | _ => cases gone

namespace ChangedFile

theorem either_writable {entries : List (Value × Value)}
    (writable : (Value.dict entries).isWritable = true) (first second : String) :
    ((either? first second entries).getD .null).isWritable = true := by
  have here := Value.lookup_writable writable first
  have there := Value.lookup_writable writable second
  unfold either?
  cases found : Value.lookup first entries with
  | none => exact there
  | some value =>
      rw [found] at here
      exact here

/-- The value is a mapping with a text as its path; all other entries may be of any kind. -/
def Described (value : Value) : Prop :=
  ∃ entries path, value = .dict entries ∧ Value.lookup "path" entries = some (.str path)

section Value

variable {value : Value} (writable : value.isWritable = true)

include writable

theorem of_value_ok_iff : (∃ file, ofValue value = .ok file) ↔ Described value := by
  constructor
  · rintro ⟨file, done⟩
    cases value with
    | dict entries =>
        rw [ofValue, ofEntries] at done
        split at done
        · cases done
        next given named =>
          cases given with
          | str path => exact ⟨entries, path, rfl, named⟩
          | _ => cases done
    | _ => cases done
  · rintro ⟨entries, path, rfl, named⟩
    rw [ofValue, ofEntries, named]
    exact ⟨_, bind_ok_iff.2 ⟨path, rfl, bind_ok_iff.2
      ⟨(), Value.demand_writable_iff.2 (either_writable writable _ _), rfl⟩⟩⟩

theorem misuse_of_value {fault : Fault} (failed : ofValue value = .error fault) :
    ∃ misuse, fault = .misuse misuse := by
  cases value with
  | dict entries =>
      have undescribed : ¬Described (.dict entries) := by
        intro described
        obtain ⟨file, done⟩ := (of_value_ok_iff writable).2 described
        rw [failed] at done
        cases done
      rw [ofValue, ofEntries] at failed
      split at failed
      · cases failed
        exact ⟨_, rfl⟩
      next given named =>
        cases given with
        | str path => exact absurd ⟨entries, path, rfl, named⟩ undescribed
        | _ =>
            cases failed
            exact ⟨_, rfl⟩
  | _ =>
      cases failed
      exact ⟨_, rfl⟩

end Value

section All

variable {items : List Value} (writable : ∀ item ∈ items, item.isWritable = true)

include writable

theorem all_ok_iff : (∃ files, items.mapM ofValue = .ok files) ↔
    ∀ item ∈ items, Described item := by
  constructor
  · rintro ⟨files, done⟩ item member
    obtain ⟨file, -, read⟩ := exists_output (map_all_ok done) member
    exact (of_value_ok_iff (writable item member)).1 ⟨file, read⟩
  · exact fun described => exists_outputs fun item member =>
      (of_value_ok_iff (writable item member)).2 (described item member)

theorem misuse_of_all {fault : Fault} (failed : items.mapM ofValue = .error fault) :
    ∃ misuse, fault = .misuse misuse := by
  obtain ⟨item, member, here⟩ := exists_fault failed
  exact misuse_of_value (writable item member) here

end All

end ChangedFile

namespace PullRequest

def listed (entries : List (Value × Value)) : Value :=
  (ChangedFile.either? "changedFiles" "changed_files" entries).getD (.list [])

/-- The value is a mapping whose changed files, if it names any, can be gone through and are
described. -/
def Described (value : Value) : Prop :=
  ∃ entries items, value = .dict entries ∧ (listed entries).elements = .ok items ∧
    ∀ item ∈ items, ChangedFile.Described item

theorem identifier_ok {given : Value} (writable : given.isWritable = true) :
    ∃ id, identifier given = .ok id := by
  unfold identifier
  split
  · exact ⟨_, rfl⟩
  · exact ⟨_, bind_ok_iff.2 ⟨(), Value.demand_writable_iff.2 writable, rfl⟩⟩

theorem listed_writable {entries : List (Value × Value)}
    (writable : (Value.dict entries).isWritable = true) : (listed entries).isWritable = true := by
  have given := ChangedFile.either_writable writable "changedFiles" "changed_files"
  unfold listed
  cases found : ChangedFile.either? "changedFiles" "changed_files" entries with
  | none => rfl
  | some value =>
      rw [found] at given
      exact given

variable {value : Value} (writable : value.isWritable = true)

include writable

theorem of_value_ok_iff : (∃ pull, ofValue value = .ok pull) ↔ Described value := by
  constructor
  · rintro ⟨pull, done⟩
    cases value with
    | dict entries =>
        rw [ofValue, ofEntries] at done
        obtain ⟨id, -, done⟩ := bind_ok_iff.1 done
        obtain ⟨items, gone, done⟩ := bind_ok_iff.1 done
        obtain ⟨files, read, -⟩ := bind_ok_iff.1 done
        have each := Value.elements_writable (listed_writable writable) gone
        exact ⟨entries, items, rfl, gone, (ChangedFile.all_ok_iff each).1 ⟨files, read⟩⟩
    | _ => cases done
  · rintro ⟨entries, items, rfl, gone, described⟩
    obtain ⟨id, said⟩ := identifier_ok (Value.lookup_writable writable "id")
    have each := Value.elements_writable (listed_writable writable) gone
    obtain ⟨files, read⟩ := (ChangedFile.all_ok_iff each).2 described
    rw [ofValue, ofEntries]
    exact ⟨_, bind_ok_iff.2 ⟨id, said, bind_ok_iff.2 ⟨items, gone, bind_ok_iff.2 ⟨files, read,
      rfl⟩⟩⟩⟩

theorem misuse_of_value {fault : Fault} (failed : ofValue value = .error fault) :
    ∃ misuse, fault = .misuse misuse := by
  cases value with
  | dict entries =>
      obtain ⟨id, said⟩ := identifier_ok (Value.lookup_writable writable "id")
      rw [ofValue, ofEntries] at failed
      rcases bind_error_iff.1 failed with unsaid | ⟨_, -, failed⟩
      · rw [said] at unsaid
        cases unsaid
      · rcases bind_error_iff.1 failed with gone | ⟨items, gone, failed⟩
        · exact misuse_of_elements gone
        · rcases bind_error_iff.1 failed with read | ⟨files, -, done⟩
          · have each := Value.elements_writable (listed_writable writable) gone
            exact ChangedFile.misuse_of_all each read
          · cases done
  | _ =>
      cases failed
      exact ⟨_, rfl⟩

end PullRequest

end ImportImpact
