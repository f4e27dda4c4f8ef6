import ImportImpact.Analysis.Analyzer
import ImportImpact.Platform.Ordinary
import ImportImpact.Proofs.Analysis.Connected
import ImportImpact.Proofs.Analysis.Locality

/-!
Analyses with the initial settings in two trees that are the same below the repository root. What
lies around the root makes no difference to edges and affected files, and all edges run between
files of the repository, unless a changed path is spelled with a step up: such a path is joined to
the root as it is, so that its text is read from outside the repository and its imports are linked.
-/

namespace ImportImpact

open FileSystem ImportImpact.Path Outcome

/-- The path is inside the repository and names a file of it. -/
structure FileSystem.Holds (system : FileSystem) (root : Path) (path : String) : Prop where
  inside : Inside path
  there : system.isFile (root.join path) = .ok true

namespace Repository

variable {repository : Repository}

section Initial

theorem initial_tries : TriesOnly (Settings.initial.value .resolveExtensions)
    (Settings.initial.value .indexName) Inside := by
  have extensions : Settings.initial.value .resolveExtensions =
      .list ([".js", ".ts", ".jsx", ".tsx", ".svelte", ".json", ".css", ".scss"].map .str) := rfl
  have index : Settings.initial.value .indexName = .str "index" := rfl
  rw [extensions, index]
  exact tries_inside (by decide) (by decide)

theorem initial_source_roots {names : List Value}
    (listed : (Settings.initial.value .sourceRoots).elements = .ok names) {name : String}
    (member : .str name ∈ names) : Inside name := by
  cases listed
  have named : isName name = true := by
    simp only [List.map_cons, List.map_nil, List.mem_cons, Value.str.injEq, List.not_mem_nil,
      or_false] at member
    rcases member with rfl | rfl | rfl | rfl | rfl <;> decide
  exact ⟨[name], (text_single name).symm, by simpa using named⟩

theorem initial_roots (usual : repository.settings = .initial) :
    ∀ name, repository.SourceRoot name → Inside name := by
  rintro name ⟨names, listed, member⟩
  rw [usual] at listed
  exact initial_source_roots listed member

theorem inside_of_scanned (roots : ∀ name, repository.SourceRoot name → Inside name)
    {path : String} (scans : repository.Scans path) : Inside path :=
  inside_of_scans (fun name given => down_of_inside (roots name given)) scans

theorem source_root_below (roots : ∀ name, repository.SourceRoot name → Inside name)
    {directory : Path} (shape : directory = repository.root ∨
      ∃ name, repository.SourceRoot name ∧ directory = repository.root.join name) :
    Descends repository.root directory := by
  rcases shape with rfl | ⟨name, given, rfl⟩
  · exact descends_refl repository.root
  · exact descends_of_inside (roots name given) repository.root

theorem initial_seen {other : FileSystem} (usual : repository.settings = .initial)
    (agree : Agree repository.system other repository.root) : repository.SeenAlike other := by
  have tries : TriesOnly repository.resolver.extensions repository.resolver.indexName Inside := by
    rw [resolver, usual]
    exact initial_tries
  exact ⟨tries.mono fun path within =>
      has_file_congr (agree.entry (descends_of_inside within repository.root)),
    fun directory root => agree.descend (source_root_below (initial_roots usual) root),
    agree.platform.symm⟩

end Initial

section Vacant

theorem not_imports_of_vacant (vacant : Vacant repository.system repository.root)
    {importer target : String} (inside : Inside importer) :
    ¬repository.Imports importer target := by
  rintro ⟨text, read, -⟩
  have below := descends_of_inside inside repository.root
  have unread : repository.text? (repository.root.join importer) = .ok none := by
    rw [text?, readText, contentAt, entryAt]
    cases located : repository.system.locate (repository.root.join importer) with
    | ok location => exact absurd located (vacant _ _ below)
    | error refusal => cases refusal <;> rfl
  rw [unread] at read
  cases read

theorem not_scans_of_vacant (vacant : Vacant repository.system repository.root)
    (roots : ∀ name, repository.SourceRoot name → Inside name) (path : String) :
    ¬repository.Scans path := by
  rintro ⟨files, listed, member⟩
  obtain ⟨file, inside, rfl⟩ := List.mem_map.1 member
  obtain ⟨-, directory, there, root, -⟩ := source_file_origin listed inside
  rw [isDirectory, ask, entryAt] at there
  cases located : repository.system.locate directory with
  | ok location => exact vacant _ _ (source_root_below roots root) located
  | error refusal => cases refusal <;> simp [located, bind, Except.bind, absent] at there

end Vacant

theorem is_file_of_text {place : Path} {text : String}
    (read : repository.text? place = .ok (some text)) :
    repository.system.isFile place = .ok true := by
  rw [isFile, ask]
  rw [text?, readText, contentAt] at read
  cases entry : repository.system.entryAt place with
  | error refusal => cases refusal <;> simp [entry, bind, Except.bind, Fault.ofReading] at read
  | ok found =>
      cases found <;> simp [entry, bind, Except.bind, Fault.ofReading, Entry.isFile] at read ⊢

theorem holds_of_imports {importer target : String} (inside : Inside importer)
    (insideToo : Inside target) (imports : repository.Imports importer target) :
    repository.system.Holds repository.root importer ∧
      repository.system.Holds repository.root target := by
  obtain ⟨text, read, specifier, -, resolved⟩ := imports
  have found := Resolver.has_file_iff.1 (Resolver.has_file_of_resolve resolved)
  dsimp only [resolver, Resolver.ofSettings] at found
  exact ⟨⟨inside, is_file_of_text read⟩, ⟨insideToo, found⟩⟩

end Repository

namespace Request

variable {request : Request} {system other : FileSystem} {settings : Settings}

theorem edge_origin {deduplicate : Bool} {edge : Edge}
    (member : edge ∈ ((request.runStages system settings).findings request deduplicate).edges) :
    ∃ repository, Repository.ofSettings system request.root settings = .ok repository ∧
      ((∃ forward, repository.forwardEdges request.paths = .ok forward ∧ edge ∈ forward) ∨
        ∃ crawl, repository.crawl request.paths request.options.maxDepth = .ok crawl ∧
          edge ∈ crawl.found.edges) := by
  rcases (mem_assembled request.paths).1 member with forward | reverse
  · unfold Stages.forwardEdges at forward
    cases given : (request.runStages system settings).forward with
    | error fault => simp [given, Except.toOption] at forward
    | ok edges =>
        rw [given] at forward
        obtain ⟨repository, made, linked⟩ := exists_repository_of_forward given
        exact ⟨repository, made, Or.inl ⟨edges, linked, forward⟩⟩
  · cases given : (request.runStages system settings).crawl? with
    | none =>
        rw [given] at reverse
        cases reverse
    | some crawl =>
        rw [given] at reverse
        obtain ⟨repository, made, crawled⟩ := exists_repository_of_crawl given
        exact ⟨repository, made, Or.inr ⟨crawl, crawled, reverse⟩⟩

theorem affected_origin {deduplicate : Bool} {path : String}
    (member : path ∈
      ((request.runStages system settings).findings request deduplicate).affected) :
    ∃ repository, Repository.ofSettings system request.root settings = .ok repository ∧
      ∃ crawl, repository.crawl request.paths request.options.maxDepth = .ok crawl ∧
        path ∈ crawl.found.affected := by
  have listed := List.mem_eraseDups.1 (List.mem_filter.1 member).1
  cases given : (request.runStages system settings).crawl? with
  | none =>
      rw [given] at listed
      cases listed
  | some crawl =>
      rw [given] at listed
      obtain ⟨repository, made, crawled⟩ := exists_repository_of_crawl given
      exact ⟨repository, made, crawl, crawled, listed⟩

theorem nothing_found (canonical : Canonical request.paths)
    (inside : ∀ path ∈ request.paths, Inside path) (vacant : Vacant system request.root)
    (deduplicate : Bool) :
    ((request.runStages system .initial).findings request deduplicate).edges = [] ∧
      ((request.runStages system .initial).findings request deduplicate).affected = [] := by
  constructor
  · rw [List.eq_nil_iff_forall_not_mem]
    intro edge member
    obtain ⟨repository, made, origin⟩ := edge_origin member
    obtain ⟨rfl, root, usual⟩ := Repository.of_settings_ok made
    rw [← root] at vacant
    rcases origin with ⟨forward, linked, listed⟩ | ⟨crawl, crawled, listed⟩
    · obtain ⟨source, -, -, imports⟩ := (Repository.mem_forward_edges linked edge).1 listed
      exact Repository.not_imports_of_vacant vacant (inside _ source) imports
    · have affected := (crawl_endpoints canonical crawled edge listed).1
      have scans := (scans_of_affected crawled affected).1
      exact Repository.not_scans_of_vacant vacant (Repository.initial_roots usual) _ scans
  · rw [List.eq_nil_iff_forall_not_mem]
    intro path member
    obtain ⟨repository, made, crawl, crawled, listed⟩ := affected_origin member
    obtain ⟨rfl, root, usual⟩ := Repository.of_settings_ok made
    rw [← root] at vacant
    have scans := (scans_of_affected crawled listed).1
    exact Repository.not_scans_of_vacant vacant (Repository.initial_roots usual) _ scans

theorem stages_congr (inside : ∀ path ∈ request.paths, Inside path)
    (agree : Agree system other request.root) :
    request.runStages other .initial = request.runStages system .initial := by
  apply stages_over
  intro repository made
  obtain ⟨rfl, root, usual⟩ := Repository.of_settings_ok made
  rw [← root] at agree
  have seen := Repository.initial_seen usual agree
  refine ⟨Repository.forward_edges_congr seen (fun path member =>
    not_rooted_of_inside (inside path member)) fun path member => ?_,
    Repository.crawl_congr seen request.paths request.options.maxDepth⟩
  rw [contentAt, contentAt, agree.entry (descends_of_inside (inside path member) repository.root)]

theorem edges_held (canonical : Canonical request.paths)
    (inside : ∀ path ∈ request.paths, Inside path) {deduplicate : Bool} {edge : Edge}
    (member : edge ∈ ((request.runStages system .initial).findings request deduplicate).edges) :
    system.Holds request.root edge.source ∧ system.Holds request.root edge.target := by
  obtain ⟨repository, made, origin⟩ := edge_origin member
  obtain ⟨rfl, root, usual⟩ := Repository.of_settings_ok made
  have roots := Repository.initial_roots usual
  rw [← root]
  rcases origin with ⟨forward, linked, listed⟩ | ⟨crawl, crawled, listed⟩
  · obtain ⟨source, target, -, imports⟩ := (Repository.mem_forward_edges linked edge).1 listed
    exact Repository.holds_of_imports (inside _ source) (inside _ target) imports
  · obtain ⟨source, target⟩ := crawl_endpoints canonical crawled edge listed
    have insideAffected : ∀ path ∈ crawl.found.affected, Inside path := fun path affected =>
      Repository.inside_of_scanned roots (scans_of_affected crawled affected).1
    have deep : 0 < request.options.maxDepth := by
      by_contra shallow
      rw [crawl_idle (Or.inr (Nat.eq_zero_of_not_pos shallow))] at crawled
      cases crawled
      cases listed
    have imports := ((mem_crawl_edges canonical deep crawled edge).1 listed).2.2.2.1
    exact Repository.holds_of_imports (insideAffected _ source)
      (target.elim (inside _) (insideAffected _)) imports

end Request

/-- An analyzer with the initial settings keeps no log file, so it finds the files as they are. -/
theorem Analyzer.prepare_initial {analyzer : Analyzer} (usual : analyzer.settings = some .initial)
    (host : Host) : (analyzer.prepare host).settings = .initial ∧
      (analyzer.prepare host).host.files = host.files := by
  rw [prepare, findSettings, usual]
  split
  · exact ⟨rfl, rfl⟩
  · exact ⟨rfl, rfl⟩

section Analysis

variable {analyzer : Analyzer} {first second : Host} {root : Path}

/-- With the initial settings, what lies outside the root makes no difference to the edges and the
affected files, and all edges run between files of the repository, unless the normal form of a
changed path leads up. -/
theorem analysis_stays_inside (usual : analyzer.settings = some .initial)
    (plain : first.files.PlainTree) (plainToo : second.files.PlainTree)
    (alike : SameBelow first.files second.files root) (changes : Changes)
    (down : ∀ changed, changes.normalized = .ok changed →
      ∀ file ∈ changed, ".." ∉ (Path.parse file.path).names)
    (options : GivenOptions) :
    (analyzer.analyze first changes root options).findings.edges =
        (analyzer.analyze second changes root options).findings.edges ∧
      (analyzer.analyze first changes root options).findings.affected =
        (analyzer.analyze second changes root options).findings.affected ∧
      ∀ edge ∈ (analyzer.analyze first changes root options).findings.edges,
        first.files.Holds (first.files.realPath root) edge.source ∧
          first.files.Holds (first.files.realPath root) edge.target := by
  obtain ⟨settings, files⟩ := Analyzer.prepare_initial usual first
  obtain ⟨settingsToo, filesToo⟩ := Analyzer.prepare_initial usual second
  have accepted : Request.ofInput second.files .initial changes root options =
      Request.ofInput first.files .initial changes root options := by
    rw [Request.ofInput, Request.ofInput, settle_eq plain.no_links, settle_eq plainToo.no_links,
      alike.real]
  simp only [Analyzer.analyze, settings, settingsToo, files, filesToo, Run.ofInput, accepted]
  cases given : Request.ofInput first.files .initial changes root options with
  | error fault => exact ⟨rfl, rfl, fun edge member => by cases member⟩
  | ok request =>
      obtain ⟨normal, -, settled⟩ := Request.of_input_ok given
      have canonical := Request.paths_canonical given
      have inside : ∀ path ∈ request.paths, Inside path := by
        intro path member
        obtain ⟨file, listed, rfl⟩ := List.mem_map.1 member
        rw [← seeds_of_canonical canonical] at member
        exact inside_of_seed member (down _ normal file listed)
      rw [settle_eq plain.no_links, Except.ok.injEq] at settled
      rw [settled]
      dsimp only [Run.findings]
      rcases agree_or_vacant plain plainToo alike with agree | ⟨vacant, vacantToo⟩
      · rw [settled] at agree
        rw [Request.stages_congr inside agree]
        exact ⟨rfl, rfl, fun edge member => Request.edges_held canonical inside member⟩
      · rw [settled] at vacant vacantToo
        obtain ⟨edges, affected⟩ := Request.nothing_found canonical inside vacant
          (Settings.initial.value .deduplicateEdges).truthy
        obtain ⟨edgesToo, affectedToo⟩ := Request.nothing_found canonical inside vacantToo
          (Settings.initial.value .deduplicateEdges).truthy
        exact ⟨edges.trans edgesToo.symm, affected.trans affectedToo.symm,
          fun edge member => Request.edges_held canonical inside member⟩

end Analysis

namespace SheetOutside

/-- A repository with one sheet, and what lies beside it. -/
def around (others : List (Location × Entry)) : FileSystem where
  entries := (["repo"], .directory) :: (["repo", "a.css"], .file []) :: others
  workingDirectory := []
  platform := .ordinary

def files : FileSystem :=
  around [(["out"], .directory), (["out", "x.css"], .file (Utf8.ofString "@use '/a.css';"))]

def emptied : FileSystem := around []

def root : Path := ⟨.root, ["repo"]⟩

theorem plain : files.PlainTree :=
  plain_tree_of_entries (by simp [files, around]) (by decide) (by simp [files, around])

theorem emptied_plain : emptied.PlainTree :=
  plain_tree_of_entries (by simp [emptied, around]) (by decide) (by simp [emptied, around])

theorem alike : SameBelow files emptied root := by
  have real : files.realPath root = root := by
    rw [real_path_eq plain.no_links]
    rfl
  refine ⟨?_, fun names => ?_, rfl⟩
  · rw [real, real_path_eq emptied_plain.no_links]
    rfl
  · rw [real]
    change files.lookup? ("repo" :: names) = emptied.lookup? ("repo" :: names)
    simp [lookup?, files, emptied, around, List.lookup_cons]

def host (files : FileSystem) : Host where
  files
  home := ⟨.root, []⟩
  environment := []
  shared := none
  journal := .initial
  clock := ⟨"", ""⟩
  terminal := false
  shown := ""

def analyzer : Analyzer := ⟨some .initial, true⟩

def options : Options := ⟨.bool true, 1⟩

/-- A change inside the repository gives the same whether or not the other sheet is there. -/
theorem change_inside_stays :
    files.PlainTree ∧ emptied.PlainTree ∧ SameBelow files emptied root ∧
      (analyzer.analyze (host files) (.list [.record (.ofPath "a.css")]) root
          (.record options)).findings.edges =
        (analyzer.analyze (host emptied) (.list [.record (.ofPath "a.css")]) root
          (.record options)).findings.edges ∧
      (analyzer.analyze (host files) (.list [.record (.ofPath "a.css")]) root
          (.record options)).findings.affected =
        (analyzer.analyze (host emptied) (.list [.record (.ofPath "a.css")]) root
          (.record options)).findings.affected := by
  have down : ∀ changed, (Changes.list [.record (.ofPath "a.css")]).normalized = .ok changed →
      ∀ file ∈ changed, ".." ∉ (Path.parse file.path).names := by
    intro changed normal file member
    have shape : (Changes.list [.record (.ofPath "a.css")]).normalized =
        .ok [.ofPath "a.css"] := rfl
    rw [shape, Except.ok.injEq] at normal
    subst normal
    rw [List.mem_singleton.1 member]
    decide
  have usual : analyzer.settings = some .initial := rfl
  have here : (host files).files.PlainTree := plain
  have there : (host emptied).files.PlainTree := emptied_plain
  have same : SameBelow (host files).files (host emptied).files root := alike
  obtain ⟨edges, affected, -⟩ :=
    analysis_stays_inside usual here there same _ down (.record options)
  exact ⟨plain, emptied_plain, alike, edges, affected⟩

def changes : Changes := .list [.record (.ofPath "../out/x.css"), .record (.ofPath "a.css")]

def request : Request := ⟨[.ofPath "../out/x.css", .ofPath "a.css"], options, root⟩

theorem paths : request.paths = ["../out/x.css", "a.css"] := by decide

theorem real_root {others : List (Location × Entry)} (plain : (around others).PlainTree) :
    (around others).realPath root = root := by
  rw [real_path_eq plain.no_links]
  rfl

theorem given {others : List (Location × Entry)} (plain : (around others).PlainTree) :
    Request.ofInput (around others) .initial changes root (.record options) = .ok request := by
  have normal : changes.normalized = .ok request.changed := rfl
  rw [Request.ofInput, normal, settle_eq plain.no_links, real_root plain]
  rfl

theorem analyzed {others : List (Location × Entry)} (plain : (around others).PlainTree) :
    (analyzer.analyze (host (around others)) changes root (.record options)).findings.edges =
      ((request.runStages (around others) .initial).findings request true).edges := by
  have completed : Run.ofInput (around others) .initial changes root (.record options) =
      .completed request (request.runStages (around others) .initial) :=
    Run.completed_iff.2 ⟨given plain, rfl⟩
  change ((Run.ofInput (around others) .initial changes root (.record options)).findings
    true []).edges = _
  rw [completed]
  rfl

theorem follow_outside (others : List (Location × Entry)) (rest : List String) :
    (around others).follow true mostLinks [] ("repo" :: ".." :: rest) =
      (around others).follow true mostLinks [] rest := by
  have there : (around others).lookup? ["repo"] = some .directory := rfl
  rw [follow_name rfl (by decide) (by decide) there (by simp), follow_up]
  · rfl
  · rfl

theorem outer_place :
    files.locate ⟨.root, ["repo", "..", "out", "x.css"]⟩ = .ok ["out", "x.css"] := by
  have directory : files.lookup? ["out"] = some .directory := rfl
  have file : files.lookup? ["out", "x.css"] = some (.file (Utf8.ofString "@use '/a.css';")) := rfl
  refine located_iff.2 ⟨by decide, ?_⟩
  change (around _).follow true mostLinks [] ("repo" :: ".." :: ["out", "x.css"]) = _
  rw [follow_outside]
  change files.follow true mostLinks [] ["out", "x.css"] = _
  rw [follow_name rfl (by decide) (by decide) directory (by simp)]
  change files.follow true mostLinks ["out"] ["x.css"] = _
  rw [follow_name rfl (by decide) (by decide) file (by simp)]
  exact follow_nothing true mostLinks ["out", "x.css"]

theorem inner_place : files.locate ⟨.root, ["repo", "a.css"]⟩ = .ok ["repo", "a.css"] := by
  have directory : files.lookup? ["repo"] = some .directory := rfl
  have file : files.lookup? ["repo", "a.css"] = some (.file []) := rfl
  refine located_iff.2 ⟨by decide, ?_⟩
  change files.follow true mostLinks [] ["repo", "a.css"] = _
  rw [follow_name rfl (by decide) (by decide) directory (by simp)]
  change files.follow true mostLinks ["repo"] ["a.css"] = _
  rw [follow_name rfl (by decide) (by decide) file (by simp)]
  exact follow_nothing true mostLinks ["repo", "a.css"]

theorem nothing_outside : emptied.isFile ⟨.root, ["repo", "..", "out", "x.css"]⟩ = .ok false := by
  have absent : emptied.lookup? ["out"] = none := rfl
  have followed : emptied.follow true mostLinks [] ["repo", "..", "out", "x.css"] =
      .error .noEntry := by
    change (around []).follow true mostLinks [] ("repo" :: ".." :: ["out", "x.css"]) = _
    rw [follow_outside]
    change emptied.follow true mostLinks [] ["out", "x.css"] = _
    rw [follow_downward emptied_plain.no_links ⟨by decide, by decide, by decide⟩]
    rfl
  have lost : emptied.locate ⟨.root, ["repo", "..", "out", "x.css"]⟩ = .error .noEntry :=
    locate_refused (by decide) followed
  rw [isFile, ask, entryAt, lost]
  rfl

def repository : Repository where
  system := files
  root
  settings := .initial
  extractor := ⟨[".js", ".ts", ".jsx", ".tsx", ".svelte", ".mjs", ".cjs", ".vue"],
    [".css", ".scss", ".sass", ".less"], Form.scriptForms, Form.styleForms⟩

theorem inner_imports : repository.imports (repository.root.join "a.css") "a.css" = .ok [] := by
  have entry : files.entryAt ⟨.root, ["repo", "a.css"]⟩ = .ok (.file []) :=
    entry_of_located inner_place rfl
  have text : repository.text? (repository.root.join "a.css") = .ok (some "") :=
    Repository.text_of_file entry rfl rfl rfl
  have none : repository.extractor.extract "" "a.css" = [] := by decide +kernel
  exact Repository.imports_of_text text none

theorem outer_imports : repository.imports (repository.root.join "../out/x.css") "../out/x.css" =
    .ok ["a.css"] := by
  have entry : files.entryAt ⟨.root, ["repo", "..", "out", "x.css"]⟩ =
      .ok (.file (Utf8.ofString "@use '/a.css';")) := entry_of_located outer_place rfl
  have decoded : decodeFirst .ordinary (Utf8.ofString "@use '/a.css';")
      [.str "utf-8", .str "latin-1"] = .ok (some "@use '/a.css';".toList) := by
    have named : Encoding.ofName? "utf-8" = some .utf8 := by decide
    exact Repository.decoded_by_first (by decide) (by decide +kernel) named (by decide +kernel) _
  have text : repository.text? (repository.root.join "../out/x.css") =
      .ok (some "@use '/a.css';") := by
    rw [Repository.text_of_file entry rfl rfl decoded, String.ofList_toList]
  have specifiers : repository.extractor.extract "@use '/a.css';" "../out/x.css" = ["/a.css"] := by
    decide +kernel
  have resolved : repository.resolver.resolve "/a.css" "../out/x.css" = .ok (some "a.css") := by
    apply Repository.resolve_of_file
    · decide
    · decide
    · exact is_file_iff.2 ⟨_, entry_of_located inner_place rfl⟩
  rw [Repository.imports_of_text text specifiers, Repository.resolveAll, resolved]
  rfl

theorem linked : repository.forwardEdges request.paths = .ok [⟨"../out/x.css", "a.css"⟩] := by
  have outer : repository.extractor.categorize "../out/x.css" = some .style := by decide
  have inner : repository.extractor.categorize "a.css" = some .style := by decide
  rw [paths, Repository.forwardEdges, List.mapM_cons, List.mapM_cons, Repository.forwardEdgesOf,
    Repository.forwardEdgesOf, outer, inner]
  dsimp only
  rw [outer_imports, inner_imports]
  rfl

/-- The trees differ outside the repository only, and so do the edges: one of them starts at the
sheet that lies there. -/
theorem outside_sheet_is_linked :
    files.PlainTree ∧ emptied.PlainTree ∧ SameBelow files emptied root ∧
      ⟨"../out/x.css", "a.css"⟩ ∈
        (analyzer.analyze (host files) changes root (.record options)).findings.edges ∧
      ⟨"../out/x.css", "a.css"⟩ ∉
        (analyzer.analyze (host emptied) changes root (.record options)).findings.edges := by
  refine ⟨plain, emptied_plain, alike, ?_, ?_⟩
  · have forward : (request.runStages files .initial).forward =
        .ok [⟨"../out/x.css", "a.css"⟩] := linked
    have first : ⟨"../out/x.css", "a.css"⟩ ∈ (request.runStages files .initial).forwardEdges := by
      rw [Stages.forwardEdges, forward]
      exact List.mem_singleton_self _
    rw [files, analyzed plain]
    change _ ∈ (Assembly.make true (request.runStages files .initial).forwardEdges _
      request.paths).edges
    exact (mem_assembled request.paths).2 (Or.inl first)
  · rw [emptied, analyzed emptied_plain]
    intro member
    obtain ⟨seen, made, origin⟩ := Request.edge_origin member
    obtain ⟨system, place, -⟩ := Repository.of_settings_ok made
    have changed : "../out/x.css" ∈ request.paths := by decide
    rcases origin with ⟨forward, linked, listed⟩ | ⟨crawl, crawled, listed⟩
    · obtain ⟨-, -, -, text, read, -⟩ := (Repository.mem_forward_edges linked _).1 listed
      have there := Repository.is_file_of_text read
      rw [system, place] at there
      exact absurd (there.symm.trans nothing_outside) (by simp)
    · have canonical := Request.paths_canonical (given emptied_plain)
      have affected := (crawl_endpoints canonical crawled _ listed).1
      have absent := (scans_of_affected crawled affected).2
      rw [seeds_of_canonical canonical] at absent
      exact absent changed

end SheetOutside

end ImportImpact
