import ImportImpact.Proofs.Analysis.Edges
import Mathlib.Data.Finset.Card

/-!
The index of the imports of a whole repository. However the source roots repeat, lie in one another
or lead to the same directories, a place below the repository root is scanned once, where the walks
come to it first; and the importers of a file are the scanned files that import it, in this order.
-/

namespace ImportImpact

open FirstOccurrence Outcome

namespace Repository

/-- The places that the walks of the search roots give, one walk after the other. -/
def Walked (repository : Repository) (places : List Path) : Prop :=
  ∃ roots walks, repository.searchRoots = .ok roots ∧
    List.Forall₂ (fun directory walk => ∃ rules, repository.walkRules = .ok rules ∧
      repository.system.walk rules directory = .ok walk) roots walks ∧
    places = walks.flatten

variable {repository : Repository} {roots places : List Path}

theorem seen_apart (searched : repository.searchRoots = .ok roots)
    (walked : repository.walkAll roots = .ok places) :
    ∀ first ∈ places, ∀ second ∈ places, ∀ path, Path.below? repository.root first = some path →
      Path.below? repository.root second = some path → first = second := by
  intro first here second there path below belowToo
  exact (join_seen searched walked here below).symm.trans
    (join_seen searched walked there belowToo)

theorem source_files_first {files : List (Path × String)}
    (done : repository.sourceFiles = .ok files) :
    ∃ places, repository.Walked places ∧
      files.map Prod.snd = (places.filterMap (Path.below? repository.root)).eraseDups ∧
      files.length =
        (places.filter fun place => (Path.below? repository.root place).isSome).toFinset.card := by
  obtain ⟨roots, places, searched, gathered, rfl⟩ := source_files_shape done
  obtain ⟨walks, each, joined⟩ := walks_of_all gathered
  refine ⟨places, ⟨roots, walks, searched, each, joined⟩, ?_, ?_⟩
  · rw [Repository.named, erase_dups_filter_map (seen_apart searched gathered), List.map_filterMap]
    simp [Option.map_map, Function.comp_def]
  · rw [← List.length_map Prod.fst, Repository.named, seen_places, ← erase_dups_filter,
      ← List.toFinset_card_of_nodup (erase_dups_nodup _)]
    congr 1
    ext place
    simp

/-- The index tells the importers of every target, and it counts every place below the root that
the walks come to. -/
theorem index_lists_importers {scanned : List (String × List String)}
    (done : repository.scannedImports = .ok scanned) :
    ∃ places, repository.Walked places ∧
      (∀ target,
        ListsFirst (places.filterMap (Path.below? repository.root))
          (fun file => file ≠ target ∧ repository.Imports file target)
          ((ImporterIndex.ofImports scanned).importersOf target) ∧
        ((ImporterIndex.ofImports scanned).contains target = true ↔
          (ImporterIndex.ofImports scanned).importersOf target ≠ [])) ∧
      scanned.length =
        (places.filter fun place => (Path.below? repository.root place).isSome).toFinset.card := by
  obtain ⟨files, listed, beside⟩ := scanned_imports_shape done
  obtain ⟨places, walked, names, counted⟩ := source_files_first listed
  have ordered := (scanned_names beside).trans names
  refine ⟨places, walked, fun target => ⟨.of_sublist ?_ fun file => ?_, ?_⟩, ?_⟩
  · rw [importers_of_scanned done, ← ordered]
    exact List.filter_sublist.map _
  · rw [mem_importers_iff done, scans_iff done, ordered, List.mem_eraseDups]
  · exact ImporterIndex.contains_iff_importers scanned target
  · exact beside.length_eq.symm.trans counted

end Repository

namespace PairOfSheets

/-- Of two sheets, both are scanned, and the one that is used has the other for its importer. -/
theorem pair_index_lists_importers :
    repository.scannedImports = .ok [("a.css", []), ("b.css", ["a.css"])] ∧
      ∃ places, repository.Walked places ∧
        ListsFirst (places.filterMap (Path.below? repository.root))
          (fun file => file ≠ "a.css" ∧ repository.Imports file "a.css") ["b.css"] ∧
        (places.filter fun place =>
          (Path.below? repository.root place).isSome).toFinset.card = 2 := by
  obtain ⟨places, walked, index, counted⟩ := Repository.index_lists_importers scanned
  exact ⟨scanned, places, walked, (index "a.css").1, counted.symm⟩

end PairOfSheets

end ImportImpact
