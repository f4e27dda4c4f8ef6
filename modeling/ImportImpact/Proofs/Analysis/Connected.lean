import ImportImpact.Proofs.Analysis.Findings

/-!
Affected files hang together with the changed ones. Both ends of every edge that an analysis finds
are files it tells of, and from every affected file the edges lead to a changed one within the
depth limit, whatever stages were lost.
-/

namespace ImportImpact

open Neighbourhood

/-- The edges lead from one file to the other in so many steps. -/
inductive Leads (edges : List Edge) : Nat → String → String → Prop
  | here (path : String) : Leads edges 0 path path
  | step {length : Nat} {source next target : String} (edge : ⟨source, next⟩ ∈ edges)
      (rest : Leads edges length next target) : Leads edges (length + 1) source target

theorem Leads.mono {edges more : List Edge} (inside : ∀ edge ∈ edges, edge ∈ more) {length : Nat}
    {source target : String} (leads : Leads edges length source target) :
    Leads more length source target := by
  induction leads with
  | here path => exact .here path
  | step edge _ induction => exact .step (inside _ edge) induction

section Crawl

variable {repository : Repository} {changed : List String} {depth : Nat} {crawl : Crawl}

theorem crawl_endpoints (canonical : Canonical changed)
    (done : repository.crawl changed depth = .ok crawl) :
    ∀ edge ∈ crawl.found.edges, edge.source ∈ crawl.found.affected ∧
      (edge.target ∈ changed ∨ edge.target ∈ crawl.found.affected) := by
  obtain ⟨scanned, searched, -⟩ := exists_index_of_crawl done
  have reached_iff := searched.reached_iff
  intro edge member
  obtain ⟨absent, imports, length, bound, distance⟩ := (searched.edge_iff edge).1 member
  rw [seeds_of_canonical canonical] at reached_iff absent distance
  constructor
  · obtain ⟨shortest, within, source⟩ := exists_distance (distance.reached.step imports)
    exact mem_affected_iff.2 ⟨shortest, (reached_iff _ _).2 ⟨absent, by omega, source⟩⟩
  · by_cases seed : edge.target ∈ changed
    · exact Or.inl seed
    · have known := (reached_iff _ _).2 ⟨seed, Nat.le_of_lt bound, distance⟩
      exact Or.inr (mem_affected_iff.2 ⟨length, known⟩)

theorem leads_of_distance {index : ImporterIndex} (searched : crawl.Searched index changed depth)
    {length : Nat} (bound : length ≤ depth) {path : String}
    (distance : Distance index (seeds changed) length path) :
    ∃ target ∈ seeds changed, Leads crawl.found.edges length path target := by
  induction length generalizing path with
  | zero => exact ⟨path, distance_zero_iff.1 distance, .here path⟩
  | succ length induction =>
      obtain ⟨next, nearer, imports⟩ := exists_nearer distance
      obtain ⟨target, seed, rest⟩ := induction (by omega) nearer
      have absent := not_seed_of_distance_succ distance
      have edge := (searched.edge_iff ⟨path, next⟩).2 ⟨absent, imports, length, bound, nearer⟩
      exact ⟨target, seed, .step edge rest⟩

theorem crawl_leads (canonical : Canonical changed)
    (done : repository.crawl changed depth = .ok crawl) :
    ∀ path ∈ crawl.found.affected, ∃ target ∈ changed, ∃ length ≤ depth,
      Leads crawl.found.edges length path target := by
  obtain ⟨scanned, searched, -⟩ := exists_index_of_crawl done
  intro path member
  obtain ⟨length, reached⟩ := mem_affected_iff.1 member
  obtain ⟨-, bound, distance⟩ := (searched.reached_iff path length).1 reached
  obtain ⟨target, seed, leads⟩ := leads_of_distance searched bound distance
  rw [seeds_of_canonical canonical] at seed
  exact ⟨target, seed, length, bound, leads⟩

end Crawl

/-- The affected files are others than the changed ones, the edges run among both, and they lead
from every affected file to a changed one. -/
structure Findings.Connected (findings : Findings) (changed : List String) (depth : Nat) :
    Prop where
  distinct : findings.affected.Nodup
  unchanged : ∀ path ∈ findings.affected, path ∉ changed
  endpoints : ∀ edge ∈ findings.edges,
    (edge.source ∈ changed ∨ edge.source ∈ findings.affected) ∧
      (edge.target ∈ changed ∨ edge.target ∈ findings.affected)
  leads : ∀ path ∈ findings.affected, ∃ target ∈ changed, ∃ length ≤ depth,
    Leads findings.edges length path target

theorem connected_of_nothing {findings : Findings} (edges : findings.edges = [])
    (affected : findings.affected = []) (changed : List String) (depth : Nat) :
    findings.Connected changed depth := by
  constructor
  · simp [affected]
  · simp [affected]
  · simp [edges]
  · simp [affected]

namespace Request

variable {request : Request} {system : FileSystem} {settings : Settings}

theorem forward_endpoints {edge : Edge}
    (member : edge ∈ (request.runStages system settings).forwardEdges) :
    edge.source ∈ request.paths ∧ edge.target ∈ request.paths := by
  unfold Stages.forwardEdges at member
  cases given : (request.runStages system settings).forward with
  | error fault => simp [given, Except.toOption] at member
  | ok forward =>
      rw [given] at member
      obtain ⟨repository, -, linked⟩ := exists_repository_of_forward given
      obtain ⟨source, target, -⟩ := (Repository.mem_forward_edges linked edge).1 member
      exact ⟨source, target⟩

theorem exists_repository_of_crawl {crawl : Crawl}
    (given : (request.runStages system settings).crawl? = some crawl) :
    ∃ repository, Repository.ofSettings system request.root settings = .ok repository ∧
      repository.crawl request.paths request.options.maxDepth = .ok crawl := by
  obtain ⟨outcome, reverse, kept⟩ := Option.bind_eq_some_iff.1 given
  cases outcome with
  | error fault => cases kept
  | ok other =>
      cases kept
      exact exists_repository_of_reverse reverse

theorem connected_without_crawl (given : (request.runStages system settings).crawl? = none)
    (deduplicate : Bool) :
    ((request.runStages system settings).findings request deduplicate).Connected request.paths
      request.options.maxDepth := by
  have affected : ((request.runStages system settings).findings request deduplicate).affected =
      [] := by
    rw [Stages.findings, given]
    rfl
  have ends : ∀ edge ∈ ((request.runStages system settings).findings request deduplicate).edges,
      edge.source ∈ request.paths ∧ edge.target ∈ request.paths := by
    intro edge member
    rw [Stages.findings, given] at member
    rcases (mem_assembled request.paths).1 member with forward | reverse
    · exact forward_endpoints forward
    · cases reverse
  constructor
  · simp [affected]
  · simp [affected]
  · intro edge member
    exact ⟨Or.inl (ends edge member).1, Or.inl (ends edge member).2⟩
  · simp [affected]

theorem connected_with_crawl {crawl : Crawl} (canonical : Canonical request.paths)
    (given : (request.runStages system settings).crawl? = some crawl) (deduplicate : Bool) :
    ((request.runStages system settings).findings request deduplicate).Connected request.paths
      request.options.maxDepth := by
  obtain ⟨repository, -, crawled⟩ := exists_repository_of_crawl given
  have affected : ((request.runStages system settings).findings request deduplicate).affected =
      crawl.found.affected := by
    rw [Stages.findings, given]
    exact assembled_affected canonical crawled deduplicate
      (request.runStages system settings).forwardEdges
  have edge_iff : ∀ edge,
      edge ∈ ((request.runStages system settings).findings request deduplicate).edges ↔
        edge ∈ (request.runStages system settings).forwardEdges ∨ edge ∈ crawl.found.edges := by
    intro edge
    rw [Stages.findings, given]
    exact mem_assembled request.paths
  obtain ⟨distinct, unchanged⟩ := crawl_affected canonical crawled
  constructor
  · rw [affected]
    exact distinct
  · rw [affected]
    exact unchanged
  · intro edge member
    rw [affected]
    rcases (edge_iff edge).1 member with forward | reverse
    · obtain ⟨source, target⟩ := forward_endpoints forward
      exact ⟨Or.inl source, Or.inl target⟩
    · obtain ⟨source, target⟩ := crawl_endpoints canonical crawled edge reverse
      exact ⟨Or.inr source, target⟩
  · intro path member
    rw [affected] at member
    obtain ⟨target, seed, length, bound, leads⟩ := crawl_leads canonical crawled path member
    have inside := fun edge (linked : edge ∈ crawl.found.edges) =>
      (edge_iff edge).2 (Or.inr linked)
    exact ⟨target, seed, length, bound, leads.mono inside⟩

end Request

/-- The depth limit that holds. Options that are rejected leave nothing to look for. -/
def GivenOptions.depthLimit (options : GivenOptions) (settings : Settings) : Nat :=
  match options.complete settings with
  | .ok completed => completed.maxDepth
  | .error _ => 0

/-- Whether or not the input is accepted and the stages go well, the findings hang together. -/
theorem findings_connected {changes : Changes} {changed : List ChangedFile}
    (normal : changes.normalized = .ok changed) (system : FileSystem) (settings : Settings)
    (root : Path) (options : GivenOptions) (deduplicate : Bool) (errors : List String) :
    ((Run.ofInput system settings changes root options).findings deduplicate errors).Connected
      (changed.map ChangedFile.path) (options.depthLimit settings) := by
  cases accepted : Request.ofInput system settings changes root options with
  | error fault =>
      rw [Run.ofInput, accepted]
      exact connected_of_nothing rfl rfl _ _
  | ok request =>
      obtain ⟨read, completed, -⟩ := Request.of_input_ok accepted
      have limit : options.depthLimit settings = request.options.maxDepth := by
        rw [GivenOptions.depthLimit, completed]
      have paths : changed.map ChangedFile.path = request.paths := by
        rw [normal] at read
        cases read
        rfl
      have canonical := Request.paths_canonical accepted
      have connected : ((request.runStages system settings).findings request
          deduplicate).Connected request.paths request.options.maxDepth := by
        cases given : (request.runStages system settings).crawl? with
        | none => exact Request.connected_without_crawl given deduplicate
        | some crawl => exact Request.connected_with_crawl canonical given deduplicate
      rw [Run.ofInput, accepted, limit, paths]
      exact ⟨connected.distinct, connected.unchanged, connected.endpoints, connected.leads⟩

end ImportImpact
