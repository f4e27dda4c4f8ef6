import ImportImpact.CommandLine.Run
import ImportImpact.Proofs.Change.Described
import ImportImpact.Proofs.Console.Markup
import ImportImpact.Proofs.Json.Escape
import ImportImpact.Proofs.Json.Read

/-!
What a file of changes can hold. It is no text, or a text that is no document, or a document that
is too deep or describes no changes, or else the changes are known. What is said about its bytes and
its text has no brackets, so it can always be shown.
-/

namespace ImportImpact

open Outcome

namespace Text

theorem plain_number (number : Nat) : '[' ∉ (toString number).toList := by
  intro member
  have digit := Nat.isDigit_of_mem_toDigits (b := 10) (n := number) (by omega) (by omega)
    (by simpa [Nat.repr] using member)
  cases digit

theorem plain_hex_digits (width number : Nat) : '[' ∉ lowerHexDigits width number := by
  intro member
  obtain ⟨value, small, same⟩ := Json.hex_digit_of_mem member
  interval_cases value <;> cases same

end Text

theorem Utf8.plain_reason {bytes : List UInt8} {bad : BadBytes}
    (failed : decode bytes = .error bad) : '[' ∉ bad.reason.toList := by
  unfold decode at failed
  generalize 0 = offset at failed
  generalize ([] : List Char) = read at failed
  have reasons : '[' ∉ "invalid start byte".toList ∧ '[' ∉ "unexpected end of data".toList ∧
      '[' ∉ "invalid continuation byte".toList := by decide
  fun_induction decodeFrom offset read bytes with
  | case1 => cases failed
  | case2 =>
      cases failed
      exact reasons.1
  | case3 =>
      cases failed
      exact reasons.2.1
  | case4 =>
      cases failed
      exact reasons.2.2
  | case5 _ _ _ _ _ _ _ _ _ induction => exact induction failed

namespace Fault

def isContent : Fault → Bool
  | .badBytes _ | .badDocument _ | .tooManyDigits _ => true
  | _ => false

/-- What the program makes of it is said here. -/
def isFollowed : Fault → Bool
  | .unfollowed _ => false
  | _ => true

theorem reported_of_content {fault : Fault} (content : fault.isContent = true) :
    fault.isReported = true := by
  unfold isContent at content
  split at content
  · rfl
  · rfl
  · rfl
  · cases content

theorem plain_append {first second : String} (plain : '[' ∉ first.toList)
    (plainToo : '[' ∉ second.toList) : '[' ∉ (first ++ second).toList := by
  rw [String.toList_append, List.mem_append, not_or]
  exact ⟨plain, plainToo⟩

theorem plain_bad_bytes {bad : BadBytes} (plain : '[' ∉ bad.reason.toList) :
    '[' ∉ (message (.badBytes bad)).toList := by
  have digits : '[' ∉ (toString (String.ofList (Text.lowerHexDigits 2 bad.first))).toList := by
    rw [toString, instToStringString, String.toList_ofList]
    exact Text.plain_hex_digits 2 bad.first
  change '[' ∉ bad.message.toList
  unfold BadBytes.message
  split
  · refine plain_append (plain_append (plain_append (plain_append (plain_append ?_ digits) ?_)
      (Text.plain_number _)) ?_) plain
    all_goals decide
  · refine plain_append (plain_append (plain_append (plain_append (plain_append ?_
      (Text.plain_number _)) ?_) (Text.plain_number _)) ?_) plain
    all_goals decide

theorem plain_bad_document {bad : BadDocument} (plain : '[' ∉ bad.reason.toList) :
    '[' ∉ (message (.badDocument bad)).toList := by
  change '[' ∉ bad.message.toList
  unfold BadDocument.message
  refine plain_append (plain_append (plain_append (plain_append (plain_append (plain_append
    (plain_append plain ?_) (Text.plain_number _)) ?_) (Text.plain_number _)) ?_)
    (Text.plain_number _)) ?_
  all_goals decide

theorem plain_too_many_digits (count : Nat) :
    '[' ∉ (message (.tooManyDigits count)).toList := by
  refine plain_append ?_ (plain_append (Text.plain_number count) ?_)
  all_goals decide

end Fault

theorem FileSystem.read_bytes_reported {system : FileSystem} {path : Path} {fault : Fault}
    (failed : system.readBytes path = .error fault) :
    fault.isReported = true ∧ fault.isContent = false := by
  unfold readBytes at failed
  split at failed
  · cases failed
    exact ⟨rfl, rfl⟩
  · split at failed <;> cases failed <;> exact ⟨rfl, rfl⟩

namespace Run

/-- The value describes changes: as a list of changed files, or as a pull request. -/
def DescribesChanges (value : Value) : Prop :=
  (∃ items, value = .list items ∧ ∀ item ∈ items, ChangedFile.Described item) ∨
    PullRequest.Described value

section Described

variable {value : Value} (writable : value.isWritable = true)

include writable

theorem pull_request_of_ok_iff :
    (∃ pull, pullRequestOf value = .ok pull) ↔ DescribesChanges value := by
  cases value with
  | list items =>
      have each := Value.items_writable_iff.1 writable
      constructor
      · rintro ⟨pull, done⟩
        obtain ⟨files, read, -⟩ := bind_ok_iff.1 done
        exact Or.inl ⟨items, rfl, (ChangedFile.all_ok_iff each).1 ⟨files, read⟩⟩
      · rintro (⟨_, ⟨⟩, described⟩ | ⟨_, _, ⟨⟩, _⟩)
        obtain ⟨files, read⟩ := (ChangedFile.all_ok_iff each).2 described
        exact ⟨_, bind_ok_iff.2 ⟨files, read, rfl⟩⟩
  | _ =>
      rw [DescribesChanges, ← PullRequest.of_value_ok_iff writable]
      exact ⟨Or.inr, fun either => either.elim (by rintro ⟨_, ⟨⟩, _⟩) id⟩

theorem misuse_of_pull_request {fault : Fault} (failed : pullRequestOf value = .error fault) :
    ∃ misuse, fault = .misuse misuse := by
  cases value with
  | list items =>
      rcases bind_error_iff.1 failed with read | ⟨files, -, done⟩
      · exact ChangedFile.misuse_of_all (Value.items_writable_iff.1 writable) read
      · cases done
  | null | bool | int | float | str | dict =>
      rw [pullRequestOf] at failed
      · exact PullRequest.misuse_of_value writable failed
      · nofun

end Described

def changesIn (files : FileSystem) (path : String) : Outcome PullRequest := do
  let text ← Settings.readPlainText files (.parse path)
  pullRequestOf (← Json.read files.platform.readRoom text)

/-- The file holds a document, but one that describes no changes. -/
def Misdescribes (files : FileSystem) (path : String) : Prop :=
  ∃ text value, Settings.readPlainText files (.parse path) = .ok text ∧
    Json.read files.platform.readRoom text = .ok value ∧ ¬DescribesChanges value

/-- The file goes deeper than there is room for reading it. -/
def Unfathomed (files : FileSystem) (path detail : String) : Prop :=
  ∃ text, Settings.readPlainText files (.parse path) = .ok text ∧
    Json.read files.platform.readRoom text = .error (.tooDeep detail)

variable {files : FileSystem} {path : String} {fault : Fault}

theorem misuse_of_misdescribed (misdescribed : Misdescribes files path) :
    ∃ misuse, changesIn files path = .error (.misuse misuse) := by
  obtain ⟨text, value, plain, document, undescribed⟩ := misdescribed
  have writable := (Json.tidy_of_read document).short
  cases read : pullRequestOf value with
  | ok pull => exact absurd ((pull_request_of_ok_iff writable).1 ⟨pull, read⟩) undescribed
  | error fault =>
      obtain ⟨misuse, rfl⟩ := misuse_of_pull_request writable read
      exact ⟨misuse, bind_error_iff.2 (Or.inr ⟨text, plain,
        bind_error_iff.2 (Or.inr ⟨value, document, read⟩)⟩)⟩

theorem fault_of_unfathomed {detail : String} (unfathomed : Unfathomed files path detail) :
    changesIn files path = .error (.tooDeep detail) := by
  obtain ⟨text, plain, unread⟩ := unfathomed
  exact bind_error_iff.2 (Or.inr ⟨text, plain, bind_error_iff.2 (Or.inl unread)⟩)

/-- What can go wrong with a file of changes: it cannot be read, its content is no document, the
document cannot be fathomed or has half a character, or it is misused. -/
theorem fault_of_changes (failed : changesIn files path = .error fault) :
    files.readBytes (.parse path) = .error fault ∨
      fault.isContent = true ∧ '[' ∉ fault.message.toList ∨
        (∃ detail, fault = .tooDeep detail ∧ Unfathomed files path detail) ∨
          (∃ matter, fault = .unfollowed matter) ∨
            Misdescribes files path ∧ ∃ misuse, fault = .misuse misuse := by
  rcases bind_error_iff.1 failed with unread | ⟨text, plain, failed⟩
  · rcases bind_error_iff.1 unread with refused | ⟨bytes, -, undecoded⟩
    · exact Or.inl refused
    · split at undecoded
      · cases undecoded
      next bad broken =>
        cases undecoded
        exact Or.inr (Or.inl ⟨rfl, Fault.plain_bad_bytes (Utf8.plain_reason broken)⟩)
  · rcases bind_error_iff.1 failed with undocumented | ⟨value, document, misused⟩
    · cases Json.fault_of_read undocumented with
      | malformed bad plain => exact Or.inr (Or.inl ⟨rfl, Fault.plain_bad_document plain⟩)
      | long count => exact Or.inr (Or.inl ⟨rfl, Fault.plain_too_many_digits count⟩)
      | deep detail => exact Or.inr (Or.inr (Or.inl ⟨detail, rfl, text, plain, undocumented⟩))
      | unpaired matter => exact Or.inr (Or.inr (Or.inr (Or.inl ⟨matter, rfl⟩)))
    · have writable := (Json.tidy_of_read document).short
      refine Or.inr (Or.inr (Or.inr (Or.inr ⟨⟨text, value, plain, document, fun described => ?_⟩,
        misuse_of_pull_request writable misused⟩)))
      obtain ⟨pull, read⟩ := (pull_request_of_ok_iff writable).2 described
      rw [read] at misused
      cases misused

end Run

end ImportImpact
