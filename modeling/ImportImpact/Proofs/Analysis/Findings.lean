import ImportImpact.Analysis.Basic
import ImportImpact.Proofs.Analysis.Crawl
import ImportImpact.Proofs.Analysis.ScannedImports
import ImportImpact.Proofs.Change.Normal

/-!
What the stages of an analysis give. The edges among changed files are their imports of each
other; a crawl that starts from names of repository files starts from them as they are; bringing
both together loses and adds nothing.
-/

namespace ImportImpact

open FirstOccurrence Neighbourhood Outcome

namespace Repository

variable {repository : Repository}

theorem mem_forward_edges_of {changed : List String} {path : String} {edges : List Edge}
    (done : repository.forwardEdgesOf changed path = .ok edges) (edge : Edge) :
    edge ∈ edges ↔ edge.source = path ∧ edge.target ∈ changed ∧ edge.source ≠ edge.target ∧
      repository.Imports edge.source edge.target := by
  unfold forwardEdgesOf at done
  split at done
  next uncategorised =>
    cases done
    constructor
    · intro member
      simp at member
    · intro given
      rcases given with ⟨rfl, -, -, imports⟩
      exact absurd imports (not_imports_of_uncategorised uncategorised edge.target)
  · obtain ⟨targets, read, done⟩ := bind_ok_iff.1 done
    rw [pure_ok_iff] at done
    subst done
    simp only [List.mem_map, List.mem_filter, mem_imports read, Bool.and_eq_true,
      List.contains_iff_mem, decide_eq_true_eq]
    constructor
    · intro given
      rcases given with ⟨target, ⟨imports, member, other⟩, rfl⟩
      exact ⟨rfl, member, Ne.symm other, imports⟩
    · intro given
      rcases given with ⟨rfl, member, other, imports⟩
      exact ⟨edge.target, ⟨imports, member, Ne.symm other⟩, rfl⟩

theorem mem_forward_edges {changed : List String} {edges : List Edge}
    (done : repository.forwardEdges changed = .ok edges) (edge : Edge) :
    edge ∈ edges ↔ edge.source ∈ changed ∧ edge.target ∈ changed ∧ edge.source ≠ edge.target ∧
      repository.Imports edge.source edge.target := by
  obtain ⟨lists, linked, done⟩ := bind_ok_iff.1 done
  rw [pure_ok_iff] at done
  subst done
  have beside := map_all_ok linked
  rw [List.mem_flatten]
  constructor
  · intro given
    rcases given with ⟨list, inside, member⟩
    obtain ⟨path, there, given⟩ := exists_input beside inside
    obtain ⟨rfl, rest⟩ := (mem_forward_edges_of given edge).1 member
    exact ⟨there, rest⟩
  · intro given
    rcases given with ⟨there, rest⟩
    obtain ⟨list, inside, given⟩ := exists_output beside there
    exact ⟨list, inside, (mem_forward_edges_of given edge).2 ⟨rfl, rest⟩⟩

end Repository

section Crawl

variable {repository : Repository} {changed : List String} {depth : Nat} {crawl : Crawl}

/-- An unchanged file is linked if it is scanned and imports a changed file or an affected one
above the depth limit. -/
theorem mem_crawl_edges (canonical : Canonical changed) (deep : 0 < depth)
    (done : repository.crawl changed depth = .ok crawl) (edge : Edge) :
    edge ∈ crawl.found.edges ↔ edge.source ∉ changed ∧ repository.Scans edge.source ∧
      edge.source ≠ edge.target ∧ repository.Imports edge.source edge.target ∧
      (edge.target ∈ changed ∨
        ∃ near < depth, crawl.found.reached.lookup edge.target = some near) := by
  by_cases none : changed = []
  · subst none
    rw [crawl_idle (Or.inl rfl)] at done
    cases done
    simp [Crawl.nothing, start]
  · obtain ⟨scanned, searched, source⟩ := exists_index_of_crawl done
    rw [searched.edge_iff, searched.linked_iff deep]
    rw [seeds_of_canonical canonical] at source ⊢
    rw [Repository.mem_importers_iff (source none (Nat.ne_of_gt deep))]
    constructor
    · intro given
      rcases given with ⟨absent, ⟨scans, other, imports⟩, near⟩
      exact ⟨absent, scans, other, imports, near⟩
    · intro given
      rcases given with ⟨absent, scans, other, imports, near⟩
      exact ⟨absent, ⟨scans, other, imports⟩, near⟩

theorem crawl_edges_nodup (canonical : Canonical changed)
    (done : repository.crawl changed depth = .ok crawl) : crawl.found.edges.Nodup := by
  obtain ⟨scanned, searched, -⟩ := exists_index_of_crawl done
  rw [searched.edges_eq, seeds_of_canonical canonical]
  exact search_edges_nodup (Repository.importers_nodup scanned) canonical.distinct depth

theorem crawl_affected (canonical : Canonical changed)
    (done : repository.crawl changed depth = .ok crawl) :
    crawl.found.affected.Nodup ∧ ∀ path ∈ crawl.found.affected, path ∉ changed := by
  obtain ⟨scanned, searched, -⟩ := exists_index_of_crawl done
  have bounded := searched.bounded
  rw [seeds_of_canonical canonical] at bounded
  constructor
  · exact bounded.distinct
  · intro path member
    exact ((bounded.affected_iff path).1 member).1

/-- Affected files are other than the changed ones and each is there once, so that the findings
tell of all of them. -/
theorem assembled_affected (canonical : Canonical changed)
    (done : repository.crawl changed depth = .ok crawl) (deduplicate : Bool)
    (forward : List Edge) :
    (Assembly.make deduplicate forward crawl.findings changed).affected =
      crawl.found.affected := by
  obtain ⟨distinct, unchanged⟩ := crawl_affected canonical done
  change (crawl.found.affected.eraseDups.filter fun path => !changed.contains path) = _
  rw [erase_dups_of_nodup distinct, List.filter_eq_self]
  intro path member
  have absent := unchanged path member
  simpa using absent

end Crawl

section Assembly

variable {deduplicate : Bool} {forward : List Edge} {reverse : ReverseFindings} {edge : Edge}

theorem mem_assembled (changed : List String) :
    edge ∈ (Assembly.make deduplicate forward reverse changed).edges ↔
      edge ∈ forward ∨ edge ∈ reverse.edges := by
  rw [← List.mem_append]
  cases deduplicate with
  | false => exact Iff.rfl
  | true => exact List.mem_eraseDups

/-- Whether or not repetitions are dropped, what only the crawl linked is there once. -/
theorem count_assembled {changed : List String} (distinct : reverse.edges.Nodup)
    (absent : edge ∉ forward) (member : edge ∈ reverse.edges) :
    (Assembly.make deduplicate forward reverse changed).edges.count edge = 1 := by
  cases deduplicate with
  | false =>
      change (forward ++ reverse.edges).count edge = 1
      rw [List.count_append, List.count_eq_zero.2 absent, List.count_eq_one_of_mem distinct member]
  | true =>
      apply List.count_eq_one_of_mem
      · exact erase_dups_nodup _
      · exact (mem_assembled changed).2 (Or.inr member)

end Assembly

namespace Request

variable {system : FileSystem} {settings : Settings} {changes : Changes} {root : Path}
  {options : GivenOptions} {request : Request}

theorem of_input_ok (accepted : ofInput system settings changes root options = .ok request) :
    changes.normalized = .ok request.changed ∧ options.complete settings = .ok request.options ∧
      system.settle root = .ok request.root := by
  obtain ⟨changed, normal, accepted⟩ := bind_ok_iff.1 accepted
  obtain ⟨completed, valid, accepted⟩ := bind_ok_iff.1 accepted
  obtain ⟨settled, there, accepted⟩ := bind_ok_iff.1 accepted
  rw [pure_ok_iff] at accepted
  subst accepted
  exact ⟨normal, valid, there⟩

theorem paths_canonical (accepted : ofInput system settings changes root options = .ok request) :
    Canonical request.paths :=
  Changes.normalized_canonical (of_input_ok accepted).1

theorem exists_repository_of_forward {forward : List Edge}
    (given : (request.runStages system settings).forward = .ok forward) :
    ∃ repository, Repository.ofSettings system request.root settings = .ok repository ∧
      repository.forwardEdges request.paths = .ok forward :=
  bind_ok_iff.1 given

theorem exists_repository_of_reverse {crawl : Crawl}
    (given : (request.runStages system settings).reverse = some (.ok crawl)) :
    ∃ repository, Repository.ofSettings system request.root settings = .ok repository ∧
      repository.crawl request.paths request.options.maxDepth = .ok crawl := by
  unfold runStages at given
  dsimp only at given
  split at given
  · exact bind_ok_iff.1 (Option.some.inj given)
  · cases given

end Request

theorem Run.completed_iff {system : FileSystem} {settings : Settings} {changes : Changes}
    {root : Path} {options : GivenOptions} {request : Request} {stages : Stages} :
    Run.ofInput system settings changes root options = .completed request stages ↔
      Request.ofInput system settings changes root options = .ok request ∧
        request.runStages system settings = stages := by
  unfold Run.ofInput
  cases Request.ofInput system settings changes root options with
  | error fault => simp
  | ok accepted =>
      simp only [Run.completed.injEq, Except.ok.injEq]
      constructor
      · intro given
        rcases given with ⟨rfl, same⟩
        exact ⟨rfl, same⟩
      · intro given
        rcases given with ⟨rfl, same⟩
        exact ⟨rfl, same⟩

end ImportImpact
