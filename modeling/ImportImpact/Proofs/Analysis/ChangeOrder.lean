import ImportImpact.Proofs.Analysis.Edges
import ImportImpact.Proofs.Graph.Chain

/-!
Two change lists that name the same files. The order in which they name them, how often and in which
spelling, and what else they say of a file decide nothing but the order of what is found: the
distances of the affected files, the edges with their repetitions and all counts are the same.
-/

namespace ImportImpact

open FirstOccurrence Neighbourhood Outcome

/-- Some item of the list describes a file of this name. -/
def Changes.Names (changes : Changes) (path : String) : Prop :=
  path ≠ "" ∧ ∃ items, changes.toList = .ok items ∧
    ∃ item ∈ items, ∃ file, item.normalized = .ok file ∧ file.path = path

/-- One is the other but for the order of files and edges. -/
structure Findings.SameUpToOrder (first second : Findings) : Prop where
  affected : first.affected.Perm second.affected
  edges : first.edges.Perm second.edges
  stats : first.stats = second.stats
  errors : first.errors = second.errors

structure Crawl.SameUpToOrder (first second : Crawl) : Prop where
  affected : first.found.affected.Perm second.found.affected
  edges : first.found.edges.Perm second.found.edges
  depths : ∀ path, first.found.reached.lookup path = second.found.reached.lookup path
  scanned : first.filesScanned = second.filesScanned

section Names

theorem Changes.mem_normalized_iff {changes : Changes} {files : List ChangedFile}
    (done : changes.normalized = .ok files) (path : String) :
    path ∈ files.map ChangedFile.path ↔ changes.Names path := by
  obtain ⟨items, read, listed, beside, rfl⟩ := exists_read done
  rw [Change.distinct_paths, List.map_nil, List.nil_append, mem_fresh_iff, List.mem_filter, Names]
  constructor
  · rintro ⟨⟨member, some⟩, -⟩
    obtain ⟨file, inside, named⟩ := List.mem_map.1 member
    obtain ⟨item, there, given⟩ := exists_input beside inside
    exact ⟨by simpa using some, items, listed, item, there, file, given, named⟩
  · rintro ⟨some, others, again, item, there, file, given, named⟩
    rw [listed, Except.ok.injEq] at again
    subst again
    obtain ⟨found, inside, same⟩ := exists_output beside there
    rw [given, Except.ok.injEq] at same
    subst same
    exact ⟨⟨List.mem_map.2 ⟨file, inside, named⟩, by simpa using some⟩, by simp⟩

end Names

section Crawl

variable {changed others : List String} {depth : Nat}

theorem seeds_nodup (paths : List String) : (seeds paths).Nodup :=
  (erase_dups_nodup _).filter _

theorem Crawl.same_up_to_order_refl (crawl : Crawl) : crawl.SameUpToOrder crawl :=
  ⟨.refl _, .refl _, fun _ => rfl, rfl⟩

/-- A search depends on its start by what is in it: this decides the distances, and with them the
files that are reached and the edges. -/
theorem search_up_to_order {index : ImporterIndex} (distinct : ∀ target,
    (index.importersOf target).Nodup) (changedOnce : changed.Nodup) (othersOnce : others.Nodup)
    (same : ∀ path, path ∈ changed ↔ path ∈ others) (depth scanned : Nat) :
    Crawl.SameUpToOrder ⟨search index changed depth, scanned⟩
      ⟨search index others depth, scanned⟩ := by
  have holds := search_exact index changed depth
  have holdsToo := search_exact index others depth
  have reached : ∀ path near, (path, near) ∈ (search index changed depth).reached ↔
      (path, near) ∈ (search index others depth).reached := by
    intro path near
    rw [holds.reached_iff, holdsToo.reached_iff, same, distance_congr same]
  constructor
  · rw [List.perm_ext_iff_of_nodup holds.distinct holdsToo.distinct]
    intro path
    rw [mem_affected_iff, mem_affected_iff]
    exact exists_congr (reached path)
  · rw [List.perm_ext_iff_of_nodup (search_edges_nodup distinct changedOnce depth)
      (search_edges_nodup distinct othersOnce depth)]
    intro edge
    rw [holds.edge_iff, holdsToo.edge_iff, same]
    simp only [distance_congr same]
  · intro path
    apply Option.ext
    intro near
    rw [lookup_reached_iff holds, lookup_reached_iff holdsToo, reached]
  · rfl

theorem crawl_up_to_order {repository : Repository} {first second : Crawl}
    (same : ∀ path, path ∈ seeds changed ↔ path ∈ seeds others)
    (done : repository.crawl changed depth = .ok first)
    (doneToo : repository.crawl others depth = .ok second) : first.SameUpToOrder second := by
  have empty_iff : seeds changed = [] ↔ seeds others = [] := by
    rw [List.eq_nil_iff_forall_not_mem, List.eq_nil_iff_forall_not_mem]
    exact forall_congr' fun path => not_congr (same path)
  -- Without seeds or depth nothing is scanned, so there is no index to compare.
  by_cases idle : seeds changed = [] ∨ depth = 0
  · rw [crawl_idle idle] at done
    rw [empty_iff] at idle
    rw [crawl_idle idle] at doneToo
    cases done
    cases doneToo
    exact Crawl.same_up_to_order_refl .nothing
  · obtain ⟨some, deep⟩ := not_or.1 idle
    have someToo := mt empty_iff.2 some
    rw [crawl_busy some deep] at done
    rw [crawl_busy someToo deep] at doneToo
    obtain ⟨scanned, scan, done⟩ := Outcome.bind_ok_iff.1 done
    obtain ⟨scannedToo, scanToo, doneToo⟩ := Outcome.bind_ok_iff.1 doneToo
    cases scan.symm.trans scanToo
    obtain ⟨_, -, done⟩ := Outcome.bind_ok_iff.1 done
    obtain ⟨_, -, doneToo⟩ := Outcome.bind_ok_iff.1 doneToo
    cases done
    cases doneToo
    exact search_up_to_order (Repository.importers_nodup scanned) (seeds_nodup changed)
      (seeds_nodup others) same depth scanned.length

end Crawl

section Stages

variable {changed others : List String}

/-- Every file is linked to the same files; only its turn comes earlier or later. -/
theorem forward_edges_up_to_order {repository : Repository} {first second : List Edge}
    (permuted : changed.Perm others) (done : repository.forwardEdges changed = .ok first)
    (doneToo : repository.forwardEdges others = .ok second) : first.Perm second := by
  have linked : repository.forwardEdgesOf changed = repository.forwardEdgesOf others := by
    funext path
    unfold Repository.forwardEdgesOf
    simp only [permuted.contains_eq]
  obtain ⟨lists, one, done⟩ := bind_ok_iff.1 done
  obtain ⟨listsToo, two, doneToo⟩ := bind_ok_iff.1 doneToo
  rw [pure_ok_iff] at done doneToo
  subst done doneToo
  rw [linked] at one
  exact (map_all_perm permuted one two).flatten

theorem assembled_up_to_order {forward forwardToo : List Edge} {first second : Crawl}
    (linked : forward.Perm forwardToo) (crawls : first.SameUpToOrder second)
    (permuted : changed.Perm others) (deduplicate : Bool) :
    let assembly := Assembly.make deduplicate forward first.findings changed
    let other := Assembly.make deduplicate forwardToo second.findings others
    assembly.affected.Perm other.affected ∧ assembly.edges.Perm other.edges ∧
      assembly.counts = other.counts := by
  intro assembly other
  have joined := linked.append crawls.edges
  have edges : assembly.edges.Perm other.edges := by
    cases deduplicate with
    | false => exact joined
    | true => exact erase_dups_perm joined
  have affected : assembly.affected.Perm other.affected := by
    dsimp only [assembly, other, Assembly.make]
    simp only [permuted.contains_eq]
    exact (erase_dups_perm crawls.affected).filter _
  refine ⟨affected, edges, ?_⟩
  rw [Counts.mk.injEq]
  exact ⟨linked.length_eq, crawls.edges.length_eq, edges.length_eq, affected.length_eq,
    crawls.scanned⟩

theorem Stages.results_of_no_errors {stages : Stages} (clean : stages.errors = []) :
    (∃ forward, stages.forward = .ok forward) ∧
      (stages.reverse = none ∨ ∃ crawl, stages.reverse = some (.ok crawl)) := by
  obtain ⟨forward, reverse⟩ := stages
  obtain ⟨linked, crawled⟩ := List.append_eq_nil_iff.1 clean
  constructor
  · cases forward with
    | error fault => simp [faultText] at linked
    | ok edges => exact ⟨edges, rfl⟩
  · cases reverse with
    | none => exact Or.inl rfl
    | some outcome =>
        cases outcome with
        | error fault => simp [faultText] at crawled
        | ok crawl => exact Or.inr ⟨crawl, rfl⟩

def Stages.depth? (stages : Stages) (path : String) : Option Nat :=
  stages.crawl?.bind fun crawl => crawl.found.reached.lookup path

theorem Stages.findings_of_crawl (stages : Stages) (request : Request) (deduplicate : Bool) :
    let crawl := stages.crawl?.getD .nothing
    let assembly := Assembly.make deduplicate stages.forwardEdges crawl.findings request.paths
    stages.findings request deduplicate =
        ⟨assembly.edges, assembly.affected,
          some ⟨assembly.counts, request.changed.length, request.options.maxDepth⟩,
          stages.errors⟩ ∧
      ∀ path, stages.depth? path = crawl.found.reached.lookup path := by
  unfold findings depth?
  cases stages.crawl? with
  | none => exact ⟨rfl, fun path => rfl⟩
  | some crawl => exact ⟨rfl, fun path => rfl⟩

end Stages

namespace Request

variable {request other : Request} {system : FileSystem} {settings : Settings}

/-- Requests that differ in the order of their files only. -/
structure SameUpToOrder (request other : Request) : Prop where
  paths : request.paths.Perm other.paths
  options : request.options = other.options
  root : request.root = other.root

theorem crawls_up_to_order (alike : request.SameUpToOrder other)
    (clean : (request.runStages system settings).errors = [])
    (cleanToo : (other.runStages system settings).errors = []) :
    Crawl.SameUpToOrder ((request.runStages system settings).crawl?.getD .nothing)
      ((other.runStages system settings).crawl?.getD .nothing) := by
  obtain ⟨paths, options, root⟩ := alike
  have asked : (request.runStages system settings).reverse.isSome =
      (other.runStages system settings).reverse.isSome := by
    unfold runStages
    dsimp only
    rw [options]
    split <;> rfl
  unfold Stages.crawl?
  rcases (Stages.results_of_no_errors clean).2 with off | ⟨crawl, done⟩ <;>
    rcases (Stages.results_of_no_errors cleanToo).2 with offToo | ⟨crawlToo, doneToo⟩
  · rw [off, offToo]
    exact Crawl.same_up_to_order_refl .nothing
  · simp [off, doneToo] at asked
  · simp [done, offToo] at asked
  · obtain ⟨repository, made, first⟩ := exists_repository_of_reverse done
    obtain ⟨again, remade, second⟩ := exists_repository_of_reverse doneToo
    rw [← root, made, Except.ok.injEq] at remade
    subst remade
    rw [← options] at second
    rw [done, doneToo]
    apply crawl_up_to_order _ first second
    intro path
    rw [seeds, seeds, List.mem_filter, List.mem_filter, List.mem_eraseDups, List.mem_eraseDups,
      (paths.map _).mem_iff]

theorem findings_up_to_order (alike : request.SameUpToOrder other)
    (clean : (request.runStages system settings).errors = [])
    (cleanToo : (other.runStages system settings).errors = []) (deduplicate : Bool) :
    ((request.runStages system settings).findings request deduplicate).SameUpToOrder
        ((other.runStages system settings).findings other deduplicate) ∧
      ∀ path, (request.runStages system settings).depth? path =
        (other.runStages system settings).depth? path := by
  have crawls := crawls_up_to_order alike clean cleanToo
  obtain ⟨paths, options, root⟩ := alike
  obtain ⟨forward, linked⟩ := (Stages.results_of_no_errors clean).1
  obtain ⟨forwardToo, linkedToo⟩ := (Stages.results_of_no_errors cleanToo).1
  obtain ⟨repository, made, first⟩ := exists_repository_of_forward linked
  obtain ⟨again, remade, second⟩ := exists_repository_of_forward linkedToo
  rw [← root, made, Except.ok.injEq] at remade
  subst remade
  have edges : (request.runStages system settings).forwardEdges.Perm
      (other.runStages system settings).forwardEdges := by
    rw [Stages.forwardEdges, Stages.forwardEdges, linked, linkedToo]
    exact forward_edges_up_to_order paths first second
  obtain ⟨affected, kept, counts⟩ := assembled_up_to_order edges crawls paths deduplicate
  obtain ⟨shape, depth⟩ := Stages.findings_of_crawl (request.runStages system settings) request
    deduplicate
  obtain ⟨shapeToo, depthToo⟩ := Stages.findings_of_crawl (other.runStages system settings) other
    deduplicate
  have count : request.changed.length = other.changed.length := by
    simpa [Request.paths] using paths.length_eq
  constructor
  · rw [shape, shapeToo]
    constructor
    · exact affected
    · exact kept
    · simp only [counts, count, options]
    · rw [clean, cleanToo]
  · intro path
    rw [depth, depthToo, crawls.depths]

end Request

/-- Two analyses of the same files, changed in any order, spelling and manner, find the same, unless
a stage fails: the affected files with their depths, the edges with their repetitions, and the
counts. -/
theorem change_order_is_immaterial (analyzer : Analyzer) (host : Host) {changes others : Changes}
    (alike : ∀ path, changes.Names path ↔ others.Names path) (root : Path)
    (options : GivenOptions) {request requestToo : Request} {stages stagesToo : Stages}
    (completed : Run.ofInput (analyzer.prepare host).host.files (analyzer.prepare host).settings
      changes root options = .completed request stages)
    (completedToo : Run.ofInput (analyzer.prepare host).host.files
      (analyzer.prepare host).settings others root options = .completed requestToo stagesToo)
    (clean : stages.errors = []) (cleanToo : stagesToo.errors = []) :
    (analyzer.analyze host changes root options).findings.SameUpToOrder
        (analyzer.analyze host others root options).findings ∧
      ∀ path, stages.depth? path = stagesToo.depth? path := by
  obtain ⟨accepted, rfl⟩ := Run.completed_iff.1 completed
  obtain ⟨acceptedToo, rfl⟩ := Run.completed_iff.1 completedToo
  obtain ⟨normal, limits, place⟩ := Request.of_input_ok accepted
  obtain ⟨normalToo, limitsToo, placeToo⟩ := Request.of_input_ok acceptedToo
  have canonical := Request.paths_canonical accepted
  have canonicalToo := Request.paths_canonical acceptedToo
  have same : request.SameUpToOrder requestToo := by
    refine ⟨?_, Except.ok.inj (limits.symm.trans limitsToo),
      Except.ok.inj (place.symm.trans placeToo)⟩
    rw [List.perm_ext_iff_of_nodup canonical.distinct canonicalToo.distinct]
    intro path
    exact (Changes.mem_normalized_iff normal path).trans
      ((alike path).trans (Changes.mem_normalized_iff normalToo path).symm)
  obtain ⟨found, depths⟩ := Request.findings_up_to_order same clean cleanToo
    ((analyzer.prepare host).settings.value .deduplicateEdges).truthy
  refine ⟨?_, depths⟩
  rw [Analyzer.analyze, Analyzer.analyze, completed, completedToo]
  exact ⟨found.affected, found.edges, found.stats, congrArg (_ ++ ·) found.errors⟩

namespace PairOfSheets

def respelled : Changes := .list
  [.document (.dict [(.str "path", .str "/a.css"), (.str "changeType", .str "Delete")]),
    .document (.str "\\a.css"), .record ⟨"x/..//a.css", .edit, .str "review/7"⟩]

def respelledRequest : Request :=
  ⟨[⟨"a.css", .delete, .null⟩], request.options, ⟨.root, []⟩⟩

theorem respelled_normal : respelled.normalized = .ok respelledRequest.changed := by
  have gone : ChangeKind.parse (.str "Delete") = .delete := by decide +kernel
  have first : ChangedFile.ofEntries
      [(.str "path", .str "/a.css"), (.str "changeType", .str "Delete")] =
      .ok ⟨"a.css", .delete, .null⟩ := by
    change (Except.ok ⟨Written.repositoryPath "/a.css", ChangeKind.parse (.str "Delete"), .null⟩ :
      Outcome ChangedFile) = _
    rw [gone]
    rfl
  refine bind_ok_iff.2 ⟨_, rfl, bind_ok_iff.2
    ⟨[⟨"a.css", .delete, .null⟩, .ofPath "a.css", ⟨"a.css", .edit, .str "review/7"⟩], ?_, rfl⟩⟩
  rw [List.mapM_cons, Change.normalized, first]
  rfl

theorem respelled_accepted :
    Request.ofInput files settings respelled ⟨.root, []⟩ (.record request.options) =
      .ok respelledRequest := by
  rw [Request.ofInput, respelled_normal]
  change (files.settle ⟨.root, []⟩ >>= fun root =>
    pure ⟨respelledRequest.changed, request.options, root⟩) = Except.ok respelledRequest
  rw [FileSystem.settle_root]
  rfl

/-- However the used sheet is written, the other one is affected. -/
theorem respelled_change_is_immaterial :
    (∀ path, changes.Names path ↔ respelled.Names path) ∧ ∃ stages,
      Run.ofInput files settings changes ⟨.root, []⟩ (.record request.options) =
          .completed request stages ∧
        Run.ofInput files settings respelled ⟨.root, []⟩ (.record request.options) =
          .completed respelledRequest stages ∧
        stages.errors = [] ∧
        ((⟨some settings, true⟩ : Analyzer).analyze host changes ⟨.root, []⟩
          (.record request.options)).findings.SameUpToOrder
            ((⟨some settings, true⟩ : Analyzer).analyze host respelled ⟨.root, []⟩
              (.record request.options)).findings ∧
        stages.depth? "b.css" = some 1 := by
  have short : Value.hasShortText (1 : Nat) = true := by decide
  obtain ⟨crawl, crawled, searched⟩ := crawl_of_scan scanned ["a.css"] short
  have stages : request.runStages files settings = ⟨.ok [], some (.ok crawl)⟩ :=
    crawled ▸ stages_with rfl
  have stagesToo : respelledRequest.runStages files settings = ⟨.ok [], some (.ok crawl)⟩ := stages
  have completed := Run.completed_iff.2 ⟨accepted_with _, stages⟩
  have completedToo := Run.completed_iff.2 ⟨respelled_accepted, stagesToo⟩
  have alike : ∀ path, changes.Names path ↔ respelled.Names path := by
    intro path
    have normal : changes.normalized = .ok request.changed := rfl
    exact (Changes.mem_normalized_iff normal path).symm.trans
      (Changes.mem_normalized_iff respelled_normal path)
  obtain ⟨same, -⟩ := change_order_is_immaterial ⟨some settings, true⟩ host alike ⟨.root, []⟩
    (.record request.options) completed completedToo rfl rfl
  refine ⟨alike, _, completed, completedToo, rfl, same, ?_⟩
  change crawl.found.reached.lookup "b.css" = some 1
  rw [searched.reached_eq]
  decide

end PairOfSheets

end ImportImpact
