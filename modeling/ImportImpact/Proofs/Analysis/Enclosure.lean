import ImportImpact.Proofs.Analysis.Isolation
import ImportImpact.Proofs.FileSystem.Elsewhere

/-!
Settings that keep to the repository. If everything that they name lies around its root, by whatever
steps it is reached, the files elsewhere make no difference to a run. The initial settings keep to
every repository.
-/

namespace ImportImpact

open FileSystem ImportImpact.Path Written

/-- What settings name is looked for in the repository: the source roots, and all that is tried in
place of a path of the repository. -/
structure Settings.KeepsTo (settings : Settings) (root : Path) : Prop where
  tried : TriesOnly (settings.value .resolveExtensions) (settings.value .indexName) fun path =>
    FileSystem.KeepsTo root.names (root.join path)
  walked : ∀ names, (settings.value .sourceRoots).elements = .ok names → ∀ name, .str name ∈ names →
    FileSystem.KeepsTo root.names (root.join name) ∧
      root.names <+: lead [] (root.join name).names

/-- The changed files, as far as there are any, lie in the repository. -/
def Changes.KeepTo (changes : Changes) (root : Path) : Prop :=
  ∀ changed, changes.normalized = .ok changed → ∀ file ∈ changed,
    FileSystem.KeepsTo root.names (root.join file.path)

section Elsewhere

variable {first second : FileSystem} {root : Path} {settings : Settings}

theorem FileSystem.eq_of_settled {system : FileSystem} {path real : Path}
    (settled : system.settle path = .ok real) : real = system.realPath path := by
  unfold settle at settled
  dsimp only at settled
  split at settled
  · cases settled
  · cases settled
    rfl

section Repository

variable {repository : Repository} {other : FileSystem}

/-- Around the root the trees are the same, so a path that keeps to it leads to the same entry. -/
theorem Repository.entry_elsewhere (same : SameAround repository.system other root)
    (plain : PlainAround repository.system root)
    (place : repository.root = repository.system.realPath root) {path : String}
    (kept : FileSystem.KeepsTo repository.root.names (repository.root.join path)) :
    repository.system.entryAt (repository.root.join path) =
      other.entryAt (repository.root.join path) := by
  rw [place] at kept ⊢
  exact same.entry plain kept

theorem Repository.seen_elsewhere (same : SameAround repository.system other root)
    (plain : PlainAround repository.system root)
    (place : repository.root = repository.system.realPath root)
    (keeps : repository.settings.KeepsTo repository.root) : repository.SeenAlike other := by
  refine ⟨keeps.tried.mono fun path kept =>
    Repository.has_file_congr (entry_elsewhere same plain place kept), ?_, same.platform.symm⟩
  rintro directory (rfl | ⟨name, ⟨names, listed, member⟩, rfl⟩)
  · rw [place]
    exact same.agree plain plain.root_keeps.1 plain.root_keeps.2
  · obtain ⟨kept, inside⟩ := keeps.walked names listed name member
    rw [place] at kept inside ⊢
    exact same.agree plain kept inside

end Repository

theorem Request.stages_elsewhere (same : SameAround first second root)
    (plain : PlainAround first root) (keeps : settings.KeepsTo (first.realPath root))
    {changes : Changes} (within : changes.KeepTo (first.realPath root)) {options : GivenOptions}
    {request : Request}
    (given : Request.ofInput first settings changes root options = .ok request) :
    request.runStages second settings = request.runStages first settings := by
  obtain ⟨normal, -, settled⟩ := Request.of_input_ok given
  have canonical := Request.paths_canonical given
  apply Request.stages_over
  intro repository made
  obtain ⟨rfl, here, rfl⟩ := Repository.of_settings_ok made
  have place : repository.root = repository.system.realPath root :=
    here.trans (eq_of_settled settled)
  rw [← place] at keeps within
  have seen := Repository.seen_elsewhere same plain place keeps
  refine ⟨Repository.forward_edges_congr seen (fun path member => ?_) fun path member => ?_,
    Repository.crawl_congr seen _ _⟩
  · rw [← seeds_of_canonical canonical] at member
    exact decide_eq_false (head_of_normal (normal_of_seed member))
  · obtain ⟨file, listed, rfl⟩ := List.mem_map.1 member
    rw [contentAt, contentAt,
      Repository.entry_elsewhere same plain place (within _ normal file listed)]

theorem Run.of_input_elsewhere (same : SameAround first second root)
    (plain : PlainAround first root) (keeps : settings.KeepsTo (first.realPath root))
    {changes : Changes} (within : changes.KeepTo (first.realPath root)) (options : GivenOptions) :
    Run.ofInput second settings changes root options =
      Run.ofInput first settings changes root options := by
  have accepted : Request.ofInput second settings changes root options =
      Request.ofInput first settings changes root options := by
    rw [Request.ofInput, Request.ofInput, same.settled plain]
  rw [Run.ofInput, Run.ofInput, accepted]
  cases given : Request.ofInput first settings changes root options with
  | error fault => rfl
  | ok request =>
      dsimp only
      rw [Request.stages_elsewhere same plain keeps within given]

end Elsewhere

section Initial

variable {root : Path}

theorem keeps_of_inside (anchored : root.anchor ≠ .relative)
    (down : ∀ name ∈ root.names, Downward name) {path : String} (inside : Inside path) :
    FileSystem.KeepsTo root.names (root.join path) ∧
      root.names <+: lead [] (root.join path).names := by
  obtain ⟨anchor, names, shape, named⟩ := descends_of_inside inside root
  have downward : ∀ name ∈ (root.join path).names, Downward name := by
    intro name member
    rw [shape] at member
    exact (List.mem_append.1 member).elim (down name) fun after =>
      downward_of_name (named name after)
  have below : root.names <+: (root.join path).names := ⟨names, shape.symm⟩
  refine ⟨keeps_of_downward (anchor ▸ anchored) downward (Or.inl below), ?_⟩
  rw [lead_of_downward downward]
  exact below

theorem changes_keep (anchored : root.anchor ≠ .relative)
    (down : ∀ name ∈ root.names, Downward name) {changes : Changes}
    (within : ∀ changed, changes.normalized = .ok changed →
      ∀ file ∈ changed, ".." ∉ (Path.parse file.path).names) : changes.KeepTo root := by
  intro changed normal file member
  have seed : file.path ∈ seeds (changed.map ChangedFile.path) := by
    rw [seeds_of_canonical (Changes.normalized_canonical normal)]
    exact List.mem_map_of_mem member
  exact (keeps_of_inside anchored down (inside_of_seed seed (within changed normal file member))).1

theorem initial_keeps (anchored : root.anchor ≠ .relative)
    (down : ∀ name ∈ root.names, Downward name) : Settings.initial.KeepsTo root := by
  refine ⟨Repository.initial_tries.mono fun path inside =>
    (keeps_of_inside anchored down inside).1, fun names listed name member => ?_⟩
  exact keeps_of_inside anchored down (Repository.initial_source_roots listed member)

end Initial

end ImportImpact
