import ImportImpact.Analysis.Analyzer
import ImportImpact.Platform.Ordinary
import ImportImpact.Proofs.Analysis.Findings
import ImportImpact.Proofs.FileSystem.Lookup

/-!
The edges of an analysis, told from the files alone. They come from two places that know nothing
of each other, the changed files and the index of the scanned ones. Together these find all
imports that matter, and none twice.
-/

namespace ImportImpact

/-- Where both stages went well: the imports among changed files, and the imports by which an
unchanged scanned file comes to a changed one, or to an affected one above the depth limit. -/
structure EdgesOfImports (repository : Repository) (changed : List String) (depth : Nat)
    (crawl : Crawl) (findings : Findings) : Prop where
  edge_iff : ∀ source target, ⟨source, target⟩ ∈ findings.edges ↔
    source ≠ target ∧ repository.Imports source target ∧
      (source ∈ changed ∧ target ∈ changed ∨
        source ∉ changed ∧ repository.Scans source ∧
          (target ∈ changed ∨ target ∈ findings.affected ∧
            ∃ near < depth, crawl.found.reached.lookup target = some near))
  none_lost : ∀ source, ∀ target ∈ changed, source ≠ target →
    source ∈ changed ∨ repository.Scans source → repository.Imports source target →
      ⟨source, target⟩ ∈ findings.edges
  changed_target : ∀ edge ∈ findings.edges, edge.source ∈ changed → edge.target ∈ changed
  listed_once : ∀ edge ∈ findings.edges, edge.source ∉ changed → findings.edges.count edge = 1

section Stages

variable {repository : Repository} {changed : List String} {depth : Nat} {forward : List Edge}
  {crawl : Crawl} {findings : Findings}

theorem mem_edges_iff (canonical : Canonical changed) (deep : 0 < depth)
    (linked : repository.forwardEdges changed = .ok forward)
    (crawled : repository.crawl changed depth = .ok crawl) {deduplicate : Bool}
    (edges_eq : findings.edges =
      (Assembly.make deduplicate forward crawl.findings changed).edges) (edge : Edge) :
    edge ∈ findings.edges ↔
      (edge.source ∈ changed ∧ edge.target ∈ changed ∧ edge.source ≠ edge.target ∧
        repository.Imports edge.source edge.target) ∨
      (edge.source ∉ changed ∧ repository.Scans edge.source ∧ edge.source ≠ edge.target ∧
        repository.Imports edge.source edge.target ∧ (edge.target ∈ changed ∨
          ∃ near < depth, crawl.found.reached.lookup edge.target = some near)) := by
  rw [edges_eq, mem_assembled, Repository.mem_forward_edges linked]
  exact or_congr_right (mem_crawl_edges canonical deep crawled edge)

/-- What no changed file imports is found in the index alone, and there once. -/
theorem listed_once_of_unchanged (canonical : Canonical changed)
    (linked : repository.forwardEdges changed = .ok forward)
    (crawled : repository.crawl changed depth = .ok crawl) {deduplicate : Bool}
    (edges_eq : findings.edges =
      (Assembly.make deduplicate forward crawl.findings changed).edges) {edge : Edge}
    (member : edge ∈ findings.edges) (unchanged : edge.source ∉ changed) :
    findings.edges.count edge = 1 := by
  have missing : edge ∉ forward := fun before =>
    unchanged ((Repository.mem_forward_edges linked edge).1 before).1
  rw [edges_eq] at member ⊢
  exact count_assembled (crawl_edges_nodup canonical crawled) missing
    (((mem_assembled changed).1 member).resolve_left missing)

theorem edges_of_stages (canonical : Canonical changed) (deep : 0 < depth)
    (linked : repository.forwardEdges changed = .ok forward)
    (crawled : repository.crawl changed depth = .ok crawl) {deduplicate : Bool}
    (edges_eq : findings.edges =
      (Assembly.make deduplicate forward crawl.findings changed).edges)
    (affected_eq : findings.affected =
      (Assembly.make deduplicate forward crawl.findings changed).affected) :
    EdgesOfImports repository changed depth crawl findings := by
  have affected : ∀ target near, crawl.found.reached.lookup target = some near →
      target ∈ findings.affected := by
    intro target near given
    rw [affected_eq, assembled_affected canonical crawled]
    exact List.mem_map_of_mem (mem_of_lookup given)
  have edge_iff := mem_edges_iff canonical deep linked crawled edges_eq
  constructor
  · intro source target
    rw [edge_iff]
    constructor
    · rintro (⟨changedSource, changedTarget, other, imports⟩ |
        ⟨absent, scans, other, imports, (member | ⟨near, bound, given⟩)⟩)
      · exact ⟨other, imports, Or.inl ⟨changedSource, changedTarget⟩⟩
      · exact ⟨other, imports, Or.inr ⟨absent, scans, Or.inl member⟩⟩
      · have known := affected target near given
        exact ⟨other, imports, Or.inr ⟨absent, scans, Or.inr ⟨known, near, bound, given⟩⟩⟩
    · rintro ⟨other, imports, (⟨changedSource, changedTarget⟩ |
        ⟨absent, scans, (member | ⟨-, near⟩)⟩)⟩
      · exact Or.inl ⟨changedSource, changedTarget, other, imports⟩
      · exact Or.inr ⟨absent, scans, other, imports, Or.inl member⟩
      · exact Or.inr ⟨absent, scans, other, imports, Or.inr near⟩
  · intro source target member other place imports
    rw [edge_iff]
    by_cases changedSource : source ∈ changed
    · exact Or.inl ⟨changedSource, member, other, imports⟩
    · have scans := place.resolve_left changedSource
      exact Or.inr ⟨changedSource, scans, other, imports, Or.inl member⟩
  · intro edge member changedSource
    rcases (edge_iff edge).1 member with ⟨-, changedTarget, -⟩ | ⟨absent, -⟩
    · exact changedTarget
    · exact absurd changedSource absent
  · intro edge member absent
    exact listed_once_of_unchanged canonical linked crawled edges_eq member absent

end Stages

/-- An analysis that accepts its input, looks for importers and loses no stage lists exactly the
imports that matter. -/
theorem analysis_edges_are_imports (analyzer : Analyzer) (host : Host) (changes : Changes)
    (root : Path) (options : GivenOptions) {request : Request} {forward : List Edge}
    {crawl : Crawl}
    (completed : Run.ofInput (analyzer.prepare host).host.files (analyzer.prepare host).settings
      changes root options = .completed request ⟨.ok forward, some (.ok crawl)⟩)
    (deep : 1 ≤ request.options.maxDepth) :
    ∃ repository, Repository.ofSettings (analyzer.prepare host).host.files request.root
        (analyzer.prepare host).settings = .ok repository ∧
      EdgesOfImports repository request.paths request.options.maxDepth crawl
        (analyzer.analyze host changes root options).findings := by
  obtain ⟨accepted, stages⟩ := Run.completed_iff.1 completed
  obtain ⟨repository, made, linked⟩ :=
    Request.exists_repository_of_forward (congrArg Stages.forward stages)
  obtain ⟨again, remade, crawled⟩ :=
    Request.exists_repository_of_reverse (congrArg Stages.reverse stages)
  rw [made] at remade
  cases remade
  refine ⟨repository, made, ?_⟩
  apply edges_of_stages (Request.paths_canonical accepted) deep linked crawled
  · rw [Analyzer.analyze, completed]
    rfl
  · rw [Analyzer.analyze, completed]
    rfl

namespace PairOfSheets

def files : FileSystem where
  entries := [(["a.css"], .file []), (["b.css"], .file (Utf8.ofString "@use '/a.css'"))]
  workingDirectory := []
  platform := .ordinary

def settings : Settings :=
  ((Settings.initial.set .encoding (.str "ascii")).set .scriptExtensions (.list [])).set
    .sourceRoots (.list [])

def repository : Repository where
  system := files
  root := ⟨.root, []⟩
  settings
  extractor := ⟨[], [".css", ".scss", ".sass", ".less"], Form.scriptForms, Form.styleForms⟩

def host : Host where
  files
  home := ⟨.root, []⟩
  environment := []
  shared := none
  journal := .initial
  clock := ⟨"", ""⟩
  terminal := false
  shown := ""

def rules : FileSystem.WalkRules :=
  ⟨[".css", ".scss", ".sass", ".less"],
    ["node_modules", ".git", "dist", "build", ".next", "coverage"], false⟩

def changes : Changes := .list [.record (.ofPath "a.css")]

def requestWith (limit : Options) : Request := ⟨[.ofPath "a.css"], limit, ⟨.root, []⟩⟩

def request : Request := requestWith ⟨.bool true, 1⟩

theorem accepted_with (limit : Options) :
    Request.ofInput files settings changes ⟨.root, []⟩ (.record limit) =
      .ok (requestWith limit) := by
  have normal : changes.normalized = .ok (requestWith limit).changed := rfl
  rw [Request.ofInput, normal]
  change (files.settle ⟨.root, []⟩ >>= fun root =>
    pure ⟨(requestWith limit).changed, limit, root⟩) = Except.ok (requestWith limit)
  rw [FileSystem.settle_root]
  rfl

theorem made : Repository.ofSettings files ⟨.root, []⟩ settings = .ok repository := rfl

theorem used_place : files.locate ⟨.root, ["a.css"]⟩ = .ok ["a.css"] :=
  FileSystem.locate_name (by decide) (by decide) rfl (by simp)

theorem using_place : files.locate ⟨.root, ["b.css"]⟩ = .ok ["b.css"] :=
  FileSystem.locate_name (by decide) (by decide) rfl (by simp)

theorem used_entry : files.entryAt ⟨.root, ["a.css"]⟩ = .ok (.file []) :=
  FileSystem.entry_of_located used_place rfl

theorem using_entry :
    files.entryAt ⟨.root, ["b.css"]⟩ = .ok (.file (Utf8.ofString "@use '/a.css'")) :=
  FileSystem.entry_of_located using_place rfl

theorem used_text : repository.text? (repository.root.join "a.css") = .ok (some "") :=
  Repository.text_of_file used_entry rfl rfl rfl

theorem using_text :
    repository.text? (repository.root.join "b.css") = .ok (some "@use '/a.css'") := by
  have decoded : FileSystem.decodeFirst .ordinary (Utf8.ofString "@use '/a.css'")
      [.str "ascii", .str "latin-1"] = .ok (some "@use '/a.css'".toList) := rfl
  rw [Repository.text_of_file using_entry rfl rfl decoded, String.ofList_toList]

theorem used_imports : repository.imports (repository.root.join "a.css") "a.css" = .ok [] := by
  have none : repository.extractor.extract "" "a.css" = [] := by decide +kernel
  exact Repository.imports_of_text used_text none

theorem using_imports :
    repository.imports (repository.root.join "b.css") "b.css" = .ok ["a.css"] := by
  have specifiers : repository.extractor.extract "@use '/a.css'" "b.css" = ["/a.css"] := by
    decide +kernel
  have resolved : repository.resolver.resolve "/a.css" "b.css" = .ok (some "a.css") := by
    apply Repository.resolve_of_file
    · decide
    · decide
    · exact FileSystem.is_file_iff.2 ⟨_, used_entry⟩
  rw [Repository.imports_of_text using_text specifiers, Repository.resolveAll, resolved]
  rfl

theorem paths_with (limit : Options) : (requestWith limit).paths = ["a.css"] := by
  have paths : request.paths = ["a.css"] := by decide
  exact paths

theorem forward : repository.forwardEdges ["a.css"] = .ok [] := by
  have style : repository.extractor.categorize "a.css" = some .style := by decide
  have linked : repository.forwardEdgesOf ["a.css"] "a.css" = .ok [] := by
    rw [Repository.forwardEdgesOf, style]
    dsimp only
    rw [used_imports]
    rfl
  rw [Repository.forwardEdges, List.mapM_cons, linked]
  rfl

theorem names : files.names [] = ["a.css", "b.css"] :=
  FileSystem.names_of_written (by decide) (by decide)

theorem walked : files.walk rules ⟨.root, []⟩ =
    .ok [⟨.root, ["a.css"]⟩, ⟨.root, ["b.css"]⟩] := by
  refine FileSystem.walk_files (FileSystem.root_is_directory files)
    (FileSystem.locate_root files) names fun name member => ?_
  rcases List.mem_pair.1 member with rfl | rfl
  · exact ⟨[], rfl⟩
  · exact ⟨Utf8.ofString "@use '/a.css'", rfl⟩

theorem listed : repository.sourceFiles =
    .ok [(⟨.root, ["a.css"]⟩, "a.css"), (⟨.root, ["b.css"]⟩, "b.css")] := by
  have searched : repository.searchRoots = .ok [⟨.root, []⟩] := by
    change (files.isDirectory ⟨.root, []⟩ >>= fun there =>
      if there then pure [⟨.root, []⟩] else pure [] : Outcome (List Path)) = _
    rw [FileSystem.root_is_directory]
    rfl
  exact Repository.source_files_of_root searched rfl walked

theorem scanned : repository.scannedImports = .ok [("a.css", []), ("b.css", ["a.css"])] := by
  refine Repository.scanned_imports_ok_iff.2 ⟨_, listed, ?_⟩
  change List.mapM repository.scan
    [(repository.root.join "a.css", _), (repository.root.join "b.css", _)] = _
  rw [List.mapM_cons, List.mapM_cons, Repository.scan, Repository.scan, used_imports,
    using_imports]
  rfl

theorem crawl_at_long_depth : repository.crawl ["a.css"] longDepth = .error .numberTooLong :=
  crawl_long (by decide) long_depth_long scanned

/-- The used sheet has changed, and nothing else; what a crawl from it gives depends on the
limit. -/
theorem stages_with {limit : Options} (busy : limit.includeReverse.truthy = true) :
    (requestWith limit).runStages files settings =
      ⟨.ok [], some (repository.crawl ["a.css"] limit.maxDepth)⟩ := by
  have asked : (requestWith limit).options.includeReverse.truthy = true := busy
  rw [Request.runStages, if_pos asked, paths_with]
  change (⟨(Repository.ofSettings files ⟨.root, []⟩ settings).bind _,
    some ((Repository.ofSettings files ⟨.root, []⟩ settings).bind _)⟩ : Stages) = _
  rw [made]
  change (⟨repository.forwardEdges ["a.css"],
    some (repository.crawl ["a.css"] limit.maxDepth)⟩ : Stages) = _
  rw [forward]

/-- The analysis tells that the other sheet imports the one that has changed. -/
theorem pair_edges_are_imports :
    ∃ crawl repository,
      Run.ofInput files settings changes ⟨.root, []⟩ (.record request.options) =
        .completed request ⟨.ok [], some (.ok crawl)⟩ ∧
      1 ≤ request.options.maxDepth ∧
      EdgesOfImports repository request.paths 1 crawl
        ((⟨some settings, true⟩ : Analyzer).analyze host changes ⟨.root, []⟩
          (.record request.options)).findings ∧
      ⟨"b.css", "a.css"⟩ ∈ ((⟨some settings, true⟩ : Analyzer).analyze host changes ⟨.root, []⟩
          (.record request.options)).findings.edges := by
  have short : Value.hasShortText (1 : Nat) = true := by decide
  obtain ⟨crawl, crawled, -⟩ := crawl_of_scan scanned ["a.css"] short
  have completed : Run.ofInput files settings changes ⟨.root, []⟩ (.record request.options) =
      .completed request ⟨.ok [], some (.ok crawl)⟩ :=
    Run.completed_iff.2 ⟨accepted_with _, crawled ▸ stages_with rfl⟩
  obtain ⟨same, again, edges⟩ := analysis_edges_are_imports ⟨some settings, true⟩ host changes
    ⟨.root, []⟩ (.record request.options) completed (Nat.le_refl 1)
  have known := made.symm.trans again
  cases known
  refine ⟨crawl, repository, completed, Nat.le_refl 1, edges, ?_⟩
  apply edges.none_lost
  · decide
  · decide
  · exact Or.inr ((Repository.scans_iff scanned "b.css").2 (by simp))
  · exact (Repository.mem_imports using_imports "a.css").1 (by simp)

end PairOfSheets

end ImportImpact
