import ImportImpact.Proofs.Analysis.Repository

/-!
The index of a scanned repository: the importers of a file are the scanned files, other than
itself, that import it.
-/

namespace ImportImpact.Repository

open FirstOccurrence Outcome

variable {repository : Repository} {scanned : List (String × List String)}

theorem scanned_imports_shape (done : repository.scannedImports = .ok scanned) :
    ∃ files, repository.sourceFiles = .ok files ∧
      List.Forall₂ (fun file entry => repository.scan file = .ok entry) files scanned := by
  rw [scanned_imports_ok_iff] at done
  obtain ⟨files, listed, done⟩ := done
  exact ⟨files, listed, map_all_ok done⟩

theorem scan_name {file : Path × String} {entry : String × List String}
    (done : repository.scan file = .ok entry) : entry.1 = file.2 := by
  rw [scan, bind_ok_iff] at done
  obtain ⟨targets, -, done⟩ := done
  rw [pure_ok_iff] at done
  rw [← done]

theorem scanned_names {files : List (Path × String)}
    (beside : List.Forall₂ (fun file entry => repository.scan file = .ok entry) files scanned) :
    scanned.map Prod.fst = files.map Prod.snd := by
  induction beside with
  | nil => rfl
  | cons here _ induction => rw [List.map_cons, List.map_cons, induction, scan_name here]

theorem scanned_names_nodup (done : repository.scannedImports = .ok scanned) :
    (scanned.map Prod.fst).Nodup := by
  obtain ⟨files, listed, beside⟩ := scanned_imports_shape done
  rw [scanned_names beside]
  exact source_file_names_nodup listed

theorem scans_iff (done : repository.scannedImports = .ok scanned) (path : String) :
    repository.Scans path ↔ path ∈ scanned.map Prod.fst := by
  obtain ⟨files, listed, beside⟩ := scanned_imports_shape done
  rw [scanned_names beside]
  constructor
  · intro given
    rcases given with ⟨others, again, member⟩
    rw [listed] at again
    cases again
    exact member
  · intro member
    exact ⟨files, listed, member⟩

theorem mem_scanned_targets (done : repository.scannedImports = .ok scanned)
    {entry : String × List String} (member : entry ∈ scanned) (target : String) :
    target ∈ entry.2 ↔ entry.1 ≠ target ∧ repository.Imports entry.1 target := by
  obtain ⟨files, listed, beside⟩ := scanned_imports_shape done
  obtain ⟨file, inside, scanned⟩ := exists_input beside member
  have place := source_file_place listed file inside
  rw [scan, bind_ok_iff] at scanned
  obtain ⟨targets, read, scanned⟩ := scanned
  rw [pure_ok_iff] at scanned
  subst scanned
  rw [← place] at read
  rw [List.mem_filter, mem_imports read, decide_eq_true_eq, and_comm]
  exact and_congr_left fun _ => ne_comm

/-- Walk order is kept, and nothing has to be dropped. -/
theorem importers_of_scanned (done : repository.scannedImports = .ok scanned) (target : String) :
    (ImporterIndex.ofImports scanned).importersOf target =
      (scanned.filter fun entry => entry.2.contains target).map (·.1) := by
  rw [ImporterIndex.importers_of_imports]
  apply erase_dups_of_nodup
  exact (scanned_names_nodup done).sublist (List.filter_sublist.map _)

theorem mem_importers_iff (done : repository.scannedImports = .ok scanned)
    (importer target : String) :
    importer ∈ (ImporterIndex.ofImports scanned).importersOf target ↔
      repository.Scans importer ∧ importer ≠ target ∧ repository.Imports importer target := by
  rw [importers_of_scanned done, scans_iff done, List.mem_map]
  constructor
  · intro given
    rcases given with ⟨entry, kept, rfl⟩
    obtain ⟨member, imports⟩ := List.mem_filter.1 kept
    have targets := mem_scanned_targets done member target
    exact ⟨List.mem_map_of_mem member, targets.1 (by simpa using imports)⟩
  · intro given
    rcases given with ⟨inside, imports⟩
    obtain ⟨entry, member, rfl⟩ := List.mem_map.1 inside
    have targets := mem_scanned_targets done member target
    exact ⟨entry, List.mem_filter.2 ⟨member, by simpa using targets.2 imports⟩, rfl⟩

theorem importers_nodup (files : List (String × List String)) (target : String) :
    ((ImporterIndex.ofImports files).importersOf target).Nodup := by
  rw [ImporterIndex.importers_of_imports]
  exact erase_dups_nodup _

end ImportImpact.Repository
