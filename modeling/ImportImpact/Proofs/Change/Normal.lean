import ImportImpact.Analysis.Repository
import ImportImpact.Proofs.FirstOccurrence
import ImportImpact.Proofs.Outcome
import ImportImpact.Proofs.Path.Written

/-!
The paths of a change list that has been read. Each of them is one that repository files are
named by, and none is there twice; reading them once more as the start of a search changes
nothing.
-/

namespace ImportImpact

open FirstOccurrence Outcome

/-- Names of repository files, each once. -/
structure Canonical (paths : List String) : Prop where
  distinct : paths.Nodup
  named : "" ∉ paths
  normal : ∀ path ∈ paths, Written.repositoryPath path = path

theorem seeds_of_canonical {paths : List String} (canonical : Canonical paths) :
    seeds paths = paths := by
  have normal : paths.map Written.repositoryPath = paths := by
    rw [List.map_congr_left canonical.normal]
    exact List.map_id' paths
  rw [seeds, normal, erase_dups_of_nodup canonical.distinct, List.filter_eq_self]
  intro path member
  have some : path ≠ "" := fun empty => canonical.named (empty ▸ member)
  simpa using some

theorem normal_of_seed {paths : List String} {path : String} (seed : path ∈ seeds paths) :
    Written.NormalForm path.toList := by
  obtain ⟨member, named⟩ := List.mem_filter.1 seed
  obtain ⟨written, -, rfl⟩ := List.mem_map.1 (List.mem_eraseDups.1 member)
  exact (Written.repository_path_normal written).resolve_left (by simpa using named)

namespace Change

theorem create_normal (path : String) (kind : ChangeKind) (url : Value) :
    Written.repositoryPath (ChangedFile.create path kind url).path =
      (ChangedFile.create path kind url).path :=
  Written.repository_path_idempotent path

theorem entries_normal {entries : List (Value × Value)} {file : ChangedFile}
    (done : ChangedFile.ofEntries entries = .ok file) :
    Written.repositoryPath file.path = file.path := by
  unfold ChangedFile.ofEntries at done
  split at done
  · cases done
  · obtain ⟨path, -, done⟩ := bind_ok_iff.1 done
    obtain ⟨-, -, done⟩ := bind_ok_iff.1 done
    rw [pure_ok_iff] at done
    rw [← done]
    exact create_normal _ _ _

theorem normalized_normal {change : Change} {file : ChangedFile}
    (done : change.normalized = .ok file) : Written.repositoryPath file.path = file.path := by
  unfold normalized at done
  split at done
  · cases done
    exact create_normal _ _ _
  · exact entries_normal done
  · obtain ⟨-, -, done⟩ := bind_ok_iff.1 done
    rw [pure_ok_iff] at done
    rw [← done]
    exact create_normal _ _ _

/-- The paths that are kept: each that is there, once, as it comes first. -/
theorem distinct_paths (kept files : List ChangedFile) :
    (distinct kept files).map ChangedFile.path = kept.map ChangedFile.path ++
      fresh (kept.map ChangedFile.path)
        ((files.map ChangedFile.path).filter fun path => !path.isEmpty) := by
  induction files generalizing kept with
  | nil => simp [distinct, fresh]
  | cons file rest induction =>
      rw [List.map_cons, distinct]
      by_cases nameless : file.path.isEmpty
      · rw [if_pos (by simp [nameless]), induction,
          List.filter_cons_of_neg (by simpa using nameless)]
      · rw [List.filter_cons_of_pos (by simpa using nameless)]
        by_cases known : file.path ∈ kept.map ChangedFile.path
        · rw [if_pos (by simpa [nameless] using known), induction, fresh_cons_of_known known]
        · rw [if_neg (by simpa [nameless] using known), induction, fresh_cons_of_new known,
            List.map_append, List.append_assoc]
          rfl

theorem first_of_distinct {kept files : List ChangedFile} {file : ChangedFile}
    (member : file ∈ distinct kept files) :
    file ∈ kept ∨ file.path ≠ "" ∧ file.path ∉ kept.map ChangedFile.path ∧
      files.find? (fun other => other.path = file.path) = some file := by
  induction files generalizing kept with
  | nil => exact Or.inl member
  | cons first rest induction =>
      unfold distinct at member
      split at member
      next passed =>
        rw [Bool.or_eq_true, List.contains_iff_mem] at passed
        rcases induction member with before | ⟨named, apart, found⟩
        · exact Or.inl before
        · have different : first.path ≠ file.path := by
            rintro same
            rw [same] at passed
            exact passed.elim (fun empty => named (by simpa using empty)) apart
          rw [List.find?_cons_of_neg (by simpa using different)]
          exact Or.inr ⟨named, apart, found⟩
      next new =>
        rw [Bool.or_eq_true, List.contains_iff_mem, not_or] at new
        rcases induction member with before | ⟨named, apart, found⟩
        · rcases List.mem_append.1 before with known | here
          · exact Or.inl known
          · rw [List.mem_singleton] at here
            subst here
            exact Or.inr ⟨by simpa using new.1, new.2, by simp⟩
        · rw [List.map_append, List.mem_append, List.map_singleton, List.mem_singleton,
            not_or] at apart
          rw [List.find?_cons_of_neg (by simpa using Ne.symm apart.2)]
          exact Or.inr ⟨named, apart.1, found⟩

theorem distinct_of_canonical {kept files : List ChangedFile}
    (canonical : Canonical ((kept ++ files).map ChangedFile.path)) :
    distinct kept files = kept ++ files := by
  induction files generalizing kept with
  | nil => rw [distinct, List.append_nil]
  | cons file rest induction =>
      rw [List.append_cons] at canonical
      have named : file.path ≠ "" := by
        intro empty
        exact canonical.named (empty ▸ List.mem_map_of_mem (by simp))
      have apart : file.path ∉ kept.map ChangedFile.path := by
        have distinct := canonical.distinct
        rw [List.map_append, List.map_append, List.nodup_append] at distinct
        have new := List.nodup_append.1 distinct.1
        exact fun member => new.2.2 _ member _ (by simp) rfl
      rw [distinct, if_neg (by simp [named, apart]), induction canonical]
      exact (List.append_cons kept file rest).symm

end Change

namespace Changes

/-- What is read of a list that can be read: its items one by one, of which the first of each path
stay. -/
theorem exists_read {changes : Changes} {files : List ChangedFile}
    (done : changes.normalized = .ok files) :
    ∃ items read, changes.toList = .ok items ∧
      List.Forall₂ (fun item file => item.normalized = .ok file) items read ∧
      files = Change.distinct [] read := by
  obtain ⟨items, listed, done⟩ := bind_ok_iff.1 done
  obtain ⟨read, normalized, done⟩ := bind_ok_iff.1 done
  rw [pure_ok_iff] at done
  exact ⟨items, read, listed, map_all_ok normalized, done.symm⟩

theorem normalized_canonical {changes : Changes} {files : List ChangedFile}
    (done : changes.normalized = .ok files) : Canonical (files.map ChangedFile.path) := by
  obtain ⟨items, read, -, beside, rfl⟩ := exists_read done
  have paths := Change.distinct_paths [] read
  constructor
  · rw [paths]
    exact fresh_nodup _ _
  · intro empty
    rw [paths, List.map_nil, List.nil_append, mem_fresh_iff, List.mem_filter] at empty
    exact absurd empty.1.2 (by decide)
  · intro path member
    rw [paths, List.map_nil, List.nil_append, mem_fresh_iff, List.mem_filter] at member
    obtain ⟨file, inside, rfl⟩ := List.mem_map.1 member.1.1
    obtain ⟨change, -, given⟩ := exists_input beside inside
    exact Change.normalized_normal given

theorem normalized_of_read {changes : Changes} {items : List Change} {read : List ChangedFile}
    (listed : changes.toList = .ok items)
    (beside : List.Forall₂ (fun item file => item.normalized = .ok file) items read) :
    changes.normalized = .ok (Change.distinct [] read) :=
  bind_ok_iff.2 ⟨items, listed, bind_ok_iff.2 ⟨read, map_all_of_beside beside, rfl⟩⟩

theorem files_normalized (files : List ChangedFile) :
    (ofFiles files).normalized = .ok (Change.distinct []
      (files.map fun file => .create file.path file.kind file.url)) := by
  apply normalized_of_read rfl
  rw [List.forall₂_map_left_iff, List.forall₂_map_right_iff, List.forall₂_same]
  exact fun file _ => rfl

end Changes

end ImportImpact
