import ImportImpact.Proofs.Change.Normal
import ImportImpact.Proofs.Value.Within

/-!
What a change list comes out as. Each item tells which path changed, how, and where the change is
described; the list keeps what is told first of each path, in the order of these paths. What comes
out is settled: the files themselves, or the documents that describe them, come out as they are.
-/

namespace ImportImpact

open FirstOccurrence Outcome

namespace Change

/-- What an item of a change list tells of a change: the path as it is written, the kind of change
and the address. A mapping tells it in its entries, anything else by its text alone. -/
inductive Tells : Change → String → ChangeKind → Value → Prop
  | record (file : ChangedFile) : Tells (.record file) file.path file.kind file.url
  | mapping {entries : List (Value × Value)} {path : String}
      (given : Value.lookup "path" entries = some (.str path)) :
      Tells (.document (.dict entries)) path
        ((ChangedFile.either? "changeType" "change_type" entries).elim .edit ChangeKind.parse)
        ((Value.lookup "url" entries).getD .null)
  | text {value : Value} (plain : ∀ entries, value ≠ .dict entries) :
      Tells (.document value) value.text .edit .null

/-- What must be turned into text to learn of the change can be. -/
def Sayable : Change → Prop
  | .record _ => True
  | .document (.dict entries) =>
      ((ChangedFile.either? "changeType" "change_type" entries).getD .null).isWritable = true
  | .document value => value.isWritable = true

theorem of_entries_iff {entries : List (Value × Value)} {file : ChangedFile} :
    ChangedFile.ofEntries entries = .ok file ↔
      ∃ path, Value.lookup "path" entries = some (.str path) ∧
        ((ChangedFile.either? "changeType" "change_type" entries).getD .null).isWritable = true ∧
        file = .create path
          ((ChangedFile.either? "changeType" "change_type" entries).elim .edit ChangeKind.parse)
          ((Value.lookup "url" entries).getD .null) := by
  unfold ChangedFile.ofEntries
  cases given : Value.lookup "path" entries with
  | none => simp [Value.misused]
  | some value =>
      cases value with
      | str path =>
          simp only [Value.textFor, Except.ok.injEq, exists_eq_left', bind_ok_iff,
            Unique.exists_iff, PUnit.default_eq_unit, Value.demand_writable_iff, pure_ok_iff,
            Option.some.injEq, Value.str.injEq]
          rw [eq_comm (a := file)]
          cases ChangedFile.either? "changeType" "change_type" entries with
          | none => rw [Option.elim_none]
          | some written => rw [Option.elim_some]
      | _ => simp [Value.textFor, Value.misused, bind, Except.bind]

theorem normalized_of_plain {value : Value} (plain : ∀ entries, value ≠ .dict entries) :
    (Change.document value).normalized = (do
      value.demandWritable
      pure (.ofPath value.text)) := by
  cases value with
  | dict entries => exact absurd rfl (plain entries)
  | _ => rfl

theorem sayable_of_plain {value : Value} (plain : ∀ entries, value ≠ .dict entries) :
    (Change.document value).Sayable ↔ value.isWritable = true := by
  cases value with
  | dict entries => exact absurd rfl (plain entries)
  | _ => rfl

theorem normalized_iff {change : Change} {file : ChangedFile} :
    change.normalized = .ok file ↔
      change.Sayable ∧ ∃ path kind url, change.Tells path kind url ∧
        file = .create path kind url := by
  constructor
  · intro done
    cases change with
    | record given =>
        cases done
        exact ⟨trivial, _, _, _, .record given, rfl⟩
    | document value =>
        by_cases mapping : ∃ entries, value = .dict entries
        · obtain ⟨entries, rfl⟩ := mapping
          obtain ⟨path, given, said, rfl⟩ := of_entries_iff.1 done
          exact ⟨said, _, _, _, .mapping given, rfl⟩
        · have plain := not_exists.1 mapping
          rw [normalized_of_plain plain, bind_ok_iff] at done
          obtain ⟨_, said, done⟩ := done
          rw [pure_ok_iff] at done
          refine ⟨?_, _, _, _, .text plain, done.symm⟩
          rw [sayable_of_plain plain]
          exact Value.demand_writable_iff.1 said
  · intro given
    obtain ⟨said, path, kind, url, told, rfl⟩ := given
    cases told with
    | record file => rfl
    | mapping given => exact of_entries_iff.2 ⟨_, given, said, rfl⟩
    | @text value plain =>
        rw [sayable_of_plain plain] at said
        rw [normalized_of_plain plain, Value.demand_writable_iff.2 said]
        rfl

theorem normalized_text (text : String) :
    (Change.document (.str text)).normalized = .ok (.ofPath text) := rfl

end Change

namespace ChangedFile

theorem kind_of_name (kind : ChangeKind) : ChangeKind.parse (.str kind.name) = kind := by
  cases kind <;> decide +kernel

theorem create_of_normal {file : ChangedFile}
    (normal : Written.repositoryPath file.path = file.path) :
    create file.path file.kind file.url = file := by
  rw [create, normal]

/-- The document that describes a file is read as this file, its path in normal form. -/
theorem normalized_to_value (file : ChangedFile) :
    (Change.document file.toValue).normalized = .ok (create file.path file.kind file.url) := by
  let entries : List (Value × Value) :=
    [(.str "path", .str file.path), (.str "changeType", .str file.kind.name),
      (.str "url", file.url)]
  have path : Value.lookup "path" entries = some (.str file.path) := rfl
  have kind : either? "changeType" "change_type" entries = some (.str file.kind.name) := rfl
  have url : Value.lookup "url" entries = some file.url := rfl
  have told := Change.Tells.mapping path
  rw [kind, url, Option.elim_some, kind_of_name] at told
  refine Change.normalized_iff.2 ⟨?_, _, _, _, told, rfl⟩
  change ((either? "changeType" "change_type" entries).getD .null).isWritable = true
  rw [kind]
  rfl

end ChangedFile

namespace Changes

theorem normalized_of_told {changes : Changes} {files : List ChangedFile}
    (canonical : Canonical (files.map ChangedFile.path)) (tell : ChangedFile → Change)
    (listed : changes.toList = .ok (files.map tell))
    (told : ∀ file, (tell file).normalized = .ok (.create file.path file.kind file.url)) :
    changes.normalized = .ok files := by
  have kept : Change.distinct [] files = files := Change.distinct_of_canonical canonical
  have beside : List.Forall₂ (fun item file => item.normalized = .ok file)
      (files.map tell) files := by
    rw [List.forall₂_map_left_iff, List.forall₂_same]
    intro file member
    rw [told, ChangedFile.create_of_normal (canonical.normal _ (List.mem_map_of_mem member))]
  rw [normalized_of_read listed beside, kept]

theorem list_of_values (values : List Value) :
    (Changes.document (.list values)).toList = .ok (values.map .document) := by
  cases values <;> rfl

theorem distinct_paths_list_first (read : List ChangedFile) :
    ListsFirst (read.map ChangedFile.path) (fun path => path ≠ "")
      ((Change.distinct [] read).map ChangedFile.path) := by
  have listed := filter_lists_first (read.map ChangedFile.path) fun path => !path.isEmpty
  rw [← erase_dups_filter, ← fresh_of_nothing_known] at listed
  rw [Change.distinct_paths]
  simpa using listed

/-- A change list comes out as what it tells first of each path, and what comes out is settled. -/
theorem change_list_settles {changes : Changes} {files : List ChangedFile}
    (done : changes.normalized = .ok files) :
    ∃ items read, changes.toList = .ok items ∧
      List.Forall₂ (fun item (file : ChangedFile) => ∃ path kind url,
        item.Tells path kind url ∧ file = ⟨Written.repositoryPath path, kind, url⟩) items read ∧
      Canonical (files.map ChangedFile.path) ∧
      ListsFirst (read.map ChangedFile.path) (fun path => path ≠ "")
        (files.map ChangedFile.path) ∧
      (∀ file ∈ files, read.find? (fun other => other.path = file.path) = some file) ∧
      (ofFiles files).normalized = .ok files ∧
      (Changes.document (.list (files.map ChangedFile.toValue))).normalized = .ok files := by
  have canonical := normalized_canonical done
  obtain ⟨items, read, listed, beside, rfl⟩ := exists_read done
  have told := beside.imp fun item file normal => (Change.normalized_iff.1 normal).2
  refine ⟨items, read, listed, told, canonical, distinct_paths_list_first read, ?_, ?_, ?_⟩
  · intro file member
    rcases Change.first_of_distinct member with none | ⟨-, -, found⟩
    · simp at none
    · exact found
  · exact normalized_of_told canonical .record rfl fun _ => rfl
  · refine normalized_of_told canonical (fun file => .document file.toValue) ?_
      ChangedFile.normalized_to_value
    rw [list_of_values, List.map_map]
    rfl

namespace SaidTwice

/-- One file is told of as a mapping and then by its name, which says less; another one is a record;
the last two items are a value that is no text and a path of separators only. -/
def items : List Change :=
  [.document (.dict [(.str "path", .str "/src/b.js"), (.str "changeType", .str "Rename, edit")]),
    .record ⟨"src//a.js", .add, .str "review/7"⟩, .document (.str "src\\b.js"),
    .document .null, .document (.str "/")]

def changes : Changes := .list items

def files : List ChangedFile :=
  [⟨"src/b.js", .rename, .null⟩, ⟨"src/a.js", .add, .str "review/7"⟩, ⟨"None", .edit, .null⟩]

theorem renamed : Change.normalized (.document (.dict
    [(.str "path", .str "/src/b.js"), (.str "changeType", .str "Rename, edit")])) =
    .ok ⟨"src/b.js", .rename, .null⟩ := by
  have kind : ChangeKind.parse (.str "Rename, edit") = .rename := by decide +kernel
  rw [Change.normalized, Change.of_entries_iff]
  refine ⟨"/src/b.js", rfl, rfl, ?_⟩
  change _ = ChangedFile.create "/src/b.js" (ChangeKind.parse (.str "Rename, edit")) .null
  rw [kind]
  rfl

theorem normal : changes.normalized = .ok files := by
  let read : List ChangedFile := [⟨"src/b.js", .rename, .null⟩, ⟨"src/a.js", .add, .str "review/7"⟩,
    .ofPath "src\\b.js", .ofPath "None", .ofPath "/"]
  have beside : List.Forall₂ (fun item file => item.normalized = .ok file) items read :=
    .cons renamed (.cons rfl (.cons (Change.normalized_text _) (.cons rfl
      (.cons (Change.normalized_text _) .nil))))
  exact normalized_of_read rfl beside

/-- The fuller item comes first, so the renaming is kept, and it is kept for good. -/
theorem renaming_settles : changes.normalized = .ok files ∧
    (ofFiles files).normalized = .ok files ∧
      (Changes.document (.list (files.map ChangedFile.toValue))).normalized = .ok files := by
  obtain ⟨-, -, -, -, -, -, -, again, documents⟩ := change_list_settles normal
  exact ⟨normal, again, documents⟩

end SaidTwice

end Changes

end ImportImpact
