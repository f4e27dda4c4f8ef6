import ImportImpact.Proofs.Analysis.ImportIndex
import ImportImpact.Proofs.Analysis.OneName

/-!
The names of places below a root. To name a place and to join the name to the root undo each other:
a path in canonical form is the name of the place it leads to, double dots and all, and what is
named is the place where its name leads. So no two places that the walks come to share a name.
-/

namespace ImportImpact

theorem names_undo_joining (root : Path) :
    (∀ path, Written.repositoryPath path = path → path ≠ "" →
      Path.below? root (root.join path) = some path) ∧
      (∀ written path, Path.below? root (Path.parse written) = some path →
        root.join path = Path.parse written) ∧
      ∀ repository : Repository, repository.root = root → ∀ roots places,
        repository.searchRoots = .ok roots → repository.walkAll roots = .ok places →
        (∀ place ∈ places, ∀ path, Path.below? root place = some path → root.join path = place) ∧
          ∀ first ∈ places, ∀ second ∈ places, first ≠ second → ∀ path,
            Path.below? root first = some path → Path.below? root second ≠ some path := by
  refine ⟨fun path canonical filled => ?_, fun written path below => ?_, ?_⟩
  · have normal := Written.repository_path_normal path
    rw [canonical] at normal
    exact Path.below_join root (normal.resolve_left filled)
  · exact Path.join_below
      (fun name kept => Path.writable_of_parsed (List.mem_of_mem_drop kept)) below
  · rintro repository rfl roots places searched walked
    refine ⟨fun place member path => Repository.join_seen searched walked member, ?_⟩
    intro first here second there different path below belowToo
    exact different (Repository.seen_apart searched walked first here second there path below
      belowToo)

namespace RoundaboutRoot

/-- The names of both sheets keep the step up by which their source root is spelled. -/
theorem roundabout_names_undo_joining :
    Path.below? ⟨.root, []⟩ (Path.join ⟨.root, []⟩ "../a.css") = some "../a.css" ∧
      Path.join ⟨.root, []⟩ "src/a.css" = Path.parse "/./src//a.css" ∧
      ∃ roots places, repository.searchRoots = .ok roots ∧
        repository.walkAll roots = .ok places ∧
        directory.child "a.css" ∈ places ∧ directory.child "b.css" ∈ places ∧
        Path.below? ⟨.root, []⟩ (directory.child "a.css") = some "src/../src/a.css" ∧
        Path.join ⟨.root, []⟩ "src/../src/a.css" = directory.child "a.css" ∧
        Path.below? ⟨.root, []⟩ (directory.child "b.css") ≠ some "src/../src/a.css" := by
  have named : (repository.settings.value .sourceRoots).elements = .ok [.str "src/../src"] := rfl
  have searched := Repository.search_root_of_name named root_there
  have gathered : repository.walkAll [directory] = .ok _ := Repository.walk_all_of_root rfl walked
  have seen : Path.below? ⟨.root, []⟩ (directory.child "a.css") = some "src/../src/a.css" := by
    decide
  obtain ⟨seen_of_canonical, place_of_written, walks⟩ := names_undo_joining ⟨.root, []⟩
  obtain ⟨place_of_walked, apart⟩ := walks repository rfl _ _ searched gathered
  exact ⟨seen_of_canonical _ (by decide) (by decide), place_of_written _ _ (by decide), _, _,
    searched, gathered, by simp, by simp, seen, place_of_walked _ (by simp) _ seen,
    apart _ (by simp) _ (by simp) (by decide) _ seen⟩

end RoundaboutRoot

end ImportImpact
