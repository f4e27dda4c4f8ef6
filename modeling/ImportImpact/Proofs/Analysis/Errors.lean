import ImportImpact.Analysis.Basic
import ImportImpact.Proofs.Change.Distinct

/-!
The errors of an analysis. Its preparation reports settings that could not be loaded. What a run
adds to that, a fault of its input or of a stage, never reads like such a report.
-/

namespace ImportImpact

open Outcome

/-- The error says that no settings could be loaded. -/
def FromSettings (error : String) : Prop := "config: ".toList <+: error.toList

def BeginsApart (text : String) : Prop := text.toList.head?.any (· != 'c') = true

instance (text : String) : Decidable (BeginsApart text) := inferInstanceAs (Decidable (_ = true))

theorem BeginsApart.append {text : String} (apart : BeginsApart text) (rest : String) :
    BeginsApart (text ++ rest) := by
  obtain ⟨first, head, other⟩ := (Option.any_eq_true _ _).1 apart
  refine (Option.any_eq_true _ _).2 ⟨first, ?_, other⟩
  rw [String.toList_append, List.head?_append, head]
  rfl

theorem BeginsApart.not_from_settings {error : String} (apart : BeginsApart error) :
    ¬FromSettings error := by
  rintro ⟨rest, whole⟩
  obtain ⟨first, head, other⟩ := (Option.any_eq_true _ _).1 apart
  rw [← whole] at head
  cases head
  exact absurd other (by decide)

def Fault.ofInput : Fault → Bool
  | .depthNotInteger _ | .depthNegative _ | .linkLoop _ | .numberTooLong => true
  | .misuse (.notIterable _) | .misuse (.noMember _ _) | .misuse (.notIndexable _)
  | .misuse (.missingKey _) => true
  | .misuse (.badIndex kind _) => kind = "str" || kind = "list"
  | _ => false

theorem begins_apart_of_input {fault : Fault} (given : fault.ofInput = true) :
    BeginsApart fault.message := by
  -- A quote is put before the name of a kind, so a kind with any name will do.
  have quoted (rest : String) : BeginsApart ("'" ++ rest) := .append (by decide) rest
  cases fault with
  | misuse cause =>
      cases cause with
      | missingKey key =>
          change BeginsApart (Text.quoted key)
          unfold BeginsApart Text.quoted Text.quoteFor
          rw [String.toList_ofList]
          dsimp only [List.cons_append, List.head?_cons, Option.any_some]
          split <;> decide
      | badIndex kind index =>
          have either : kind = "str" ∨ kind = "list" := by
            simpa [Fault.ofInput] using given
          rcases either with rfl | rfl
          · have said : BeginsApart "string indices must be integers, not '" := by decide
            exact .append (.append said index) "'"
          · exact .append (by decide : BeginsApart "list indices must be integers or slices, not ")
              index
      | notIterable kind => exact .append (quoted kind) "' object is not iterable"
      | noMember kind member =>
          exact .append (.append (.append (quoted kind) "' object has no attribute '") member) "'"
      | notIndexable kind => exact .append (quoted kind) "' object is not subscriptable"
      | _ => cases given
  | depthNotInteger value =>
      exact .append (by decide : BeginsApart "max_depth must be an integer, got ") value.shown
  | depthNegative depth =>
      exact .append (by decide : BeginsApart "max_depth must be >= 0, got ") (toString depth)
  | linkLoop path =>
      exact .append (by decide : BeginsApart "Symlink loop from ") (Text.quoted path)
  | numberTooLong => decide +kernel
  | _ => cases given

section Rejected

variable {fault : Fault}

theorem demanded_fault {value : Value} (failed : value.demandWritable = .error fault) :
    fault.ofInput = true := by
  unfold Value.demandWritable at failed
  split at failed <;> cases failed
  rfl

theorem elements_fault {value : Value} (failed : value.elements = .error fault) :
    fault.ofInput = true := by
  cases value <;> cases failed <;> rfl

theorem entries_fault {entries : List (Value × Value)}
    (failed : ChangedFile.ofEntries entries = .error fault) : fault.ofInput = true := by
  unfold ChangedFile.ofEntries at failed
  split at failed
  · cases failed
    rfl
  next given there =>
    rcases bind_error_iff.1 failed with unread | ⟨path, -, failed⟩
    · cases given <;> cases unread <;> rfl
    · rcases bind_error_iff.1 failed with unsaid | ⟨_, -, done⟩
      · exact demanded_fault unsaid
      · cases done

theorem changes_fault {changes : Changes} (failed : changes.normalized = .error fault) :
    fault.ofInput = true := by
  rcases bind_error_iff.1 failed with unlisted | ⟨items, listed, failed⟩
  · cases changes with
    | list items => cases unlisted
    | document value =>
        unfold Changes.toList at unlisted
        dsimp only at unlisted
        split at unlisted
        · rcases bind_error_iff.1 unlisted with failed | ⟨values, -, done⟩
          · exact elements_fault failed
          · cases done
        · cases unlisted
  · rcases bind_error_iff.1 failed with failed | ⟨files, -, done⟩
    · obtain ⟨change, -, failed⟩ := exists_fault failed
      cases change with
      | record file => cases failed
      | document value =>
          by_cases mapping : ∃ entries, value = .dict entries
          · obtain ⟨entries, rfl⟩ := mapping
            exact entries_fault failed
          · rw [Change.normalized_of_plain (not_exists.1 mapping)] at failed
            rcases bind_error_iff.1 failed with unsaid | ⟨_, -, done⟩
            · exact demanded_fault unsaid
            · cases done
    · cases done

theorem depth_fault {includeReverse maxDepth : Value}
    (failed : Options.make includeReverse maxDepth = .error fault) : fault.ofInput = true := by
  unfold Options.make at failed
  split at failed
  · split at failed
    · rcases bind_error_iff.1 failed with unsaid | ⟨_, -, refused⟩
      · exact demanded_fault unsaid
      · cases refused
        rfl
    · cases failed
  · rcases bind_error_iff.1 failed with unsaid | ⟨_, -, refused⟩
    · exact demanded_fault unsaid
    · cases refused
      rfl

theorem options_fault {options : GivenOptions} {settings : Settings}
    (failed : options.complete settings = .error fault) : fault.ofInput = true := by
  cases options with
  | record options => cases failed
  | document value =>
      rcases bind_error_iff.1 failed with invalid | ⟨defaults, -, failed⟩
      · exact depth_fault invalid
      · split at failed
        · cases failed
        · split at failed
          · exact depth_fault failed
          · cases failed
            rfl

theorem rejected_fault {system : FileSystem} {settings : Settings} {changes : Changes} {root : Path}
    {options : GivenOptions}
    (rejected : Request.ofInput system settings changes root options = .error fault) :
    fault.ofInput = true := by
  rcases bind_error_iff.1 rejected with failed | ⟨changed, -, rejected⟩
  · exact changes_fault failed
  · rcases bind_error_iff.1 rejected with failed | ⟨completed, -, rejected⟩
    · exact options_fault failed
    · rcases bind_error_iff.1 rejected with failed | ⟨settled, -, done⟩
      · unfold FileSystem.settle at failed
        dsimp only at failed
        split at failed <;> cases failed
        rfl
      · cases done

end Rejected

theorem stage_error {Found : Type} {stage : String} (apart : BeginsApart stage)
    (outcome : Outcome Found) : ∀ error ∈ faultText stage outcome, ¬FromSettings error := by
  intro error member
  cases outcome with
  | ok found => cases member
  | error fault =>
      rw [List.mem_singleton.1 member]
      exact ((apart.append ": ").append fault.message).not_from_settings

theorem Run.errors_added (system : FileSystem) (settings : Settings) (changes : Changes)
    (root : Path) (options : GivenOptions) (deduplicate : Bool) (before : List String) :
    ∃ added, ((Run.ofInput system settings changes root options).findings deduplicate
        before).errors = before ++ added ∧ ∀ error ∈ added, ¬FromSettings error := by
  unfold Run.ofInput
  cases accepted : Request.ofInput system settings changes root options with
  | error fault =>
      refine ⟨[fault.message], rfl, fun error member => ?_⟩
      rw [List.mem_singleton.1 member]
      exact (begins_apart_of_input (rejected_fault accepted)).not_from_settings
  | ok request =>
      refine ⟨_, rfl, fun error member => ?_⟩
      rcases List.mem_append.1 member with forward | reverse
      · exact stage_error (by decide) _ error forward
      · cases crawled : (request.runStages system settings).reverse with
        | none =>
            rw [crawled] at reverse
            cases reverse
        | some outcome =>
            rw [crawled] at reverse
            exact stage_error (by decide) outcome error reverse

end ImportImpact
