import ImportImpact.Platform.Ordinary
import ImportImpact.Proofs.Analysis.Connected
import ImportImpact.Proofs.Analysis.Depth

/-!
Stages that fail. A crawl that fails leaves the findings of an analysis without one and adds its
fault; where the linking of changed files fails, the findings are those of the crawl by itself, if
there is one at all. Nothing of the one stage reaches what the other finds, and the edges among
changed files come first.
-/

namespace ImportImpact

open FirstOccurrence Outcome

/-- These are the findings of the crawl, and none has to do with a changed file's own imports. -/
structure Findings.OfCrawl (findings : Findings) (changed : List String)
    (crawled : ReverseFindings) : Prop where
  edges : findings.edges = crawled.edges
  affected : findings.affected = crawled.affected
  scanned : findings.stats.map (·.counts.filesScanned) = some crawled.filesScanned
  sources : ∀ edge ∈ findings.edges, edge.source ∉ changed

/-- The findings of an analysis next to those of the same analysis without a crawl, `alone`, and
of the crawl without the rest, `crawled`. Errors `before` are those from before the stages. -/
structure Findings.FailApart (findings : Findings) (request : Request) (stages : Stages)
    (alone : Findings) (crawled : ReverseFindings) (before : List String) : Prop where
  crawl_lost : ∀ fault, stages.reverse = some (.error fault) →
    findings = { alone with errors := alone.errors ++ ["reverse: " ++ fault.message] }
  links_lost : ∀ fault, stages.forward = .error fault →
    findings.OfCrawl request.paths crawled ∧
      findings.errors = before ++ ("forward: " ++ fault.message) ::
        (stages.reverse.map (faultText "reverse")).getD []
  links_first : alone.edges <+: findings.edges

/-- Without edges among changed files, the assembly leaves what a crawl found as it is. -/
theorem assembled_crawl {repository : Repository} {changed : List String} {depth : Nat}
    {crawl : Crawl} (canonical : Canonical changed)
    (done : repository.crawl changed depth = .ok crawl) (deduplicate : Bool) :
    let assembly := Assembly.make deduplicate [] crawl.findings changed
    assembly.edges = crawl.found.edges ∧ assembly.affected = crawl.found.affected ∧
      ∀ edge ∈ assembly.edges, edge.source ∉ changed := by
  intro assembly
  have edges : assembly.edges = crawl.found.edges := by
    cases deduplicate with
    | false => exact List.nil_append _
    -- A crawl has no edge twice, so nothing is dropped.
    | true => exact erase_dups_of_nodup (crawl_edges_nodup canonical done)
  refine ⟨edges, assembled_affected canonical done deduplicate [], fun edge member => ?_⟩
  rw [edges] at member
  have affected := (crawl_endpoints canonical done edge member).1
  exact (crawl_affected canonical done).2 _ affected

theorem assembled_links_first (deduplicate : Bool) (forward : List Edge) (reverse : ReverseFindings)
    (changed : List String) :
    (Assembly.make deduplicate forward .none changed).edges <+:
      (Assembly.make deduplicate forward reverse changed).edges := by
  have joined : forward ++ [] <+: forward ++ reverse.edges :=
    (List.prefix_append_right_inj forward).2 List.nil_prefix
  cases deduplicate with
  | false => exact joined
  | true => exact erase_dups_extends joined

namespace Request

variable {request : Request} {system : FileSystem} {settings : Settings}

def crawled (request : Request) (system : FileSystem) (settings : Settings) : ReverseFindings :=
  if request.options.includeReverse.truthy then
    reverseFindings ((Repository.ofSettings system request.root settings).bind
      (·.crawl request.paths request.options.maxDepth))
  else .none

theorem crawled_cases (request : Request) (system : FileSystem) (settings : Settings) :
    request.crawled system settings = .none ∨ ∃ (repository : Repository) (crawl : Crawl),
      repository.crawl request.paths request.options.maxDepth = .ok crawl ∧
        request.crawled system settings = crawl.findings := by
  unfold crawled
  split
  · cases Repository.ofSettings system request.root settings with
    | error fault => exact Or.inl rfl
    | ok repository =>
        dsimp only [Except.bind]
        cases done : repository.crawl request.paths request.options.maxDepth with
        | error fault => exact Or.inl rfl
        | ok crawl => exact Or.inr ⟨repository, crawl, done, rfl⟩
  · exact Or.inl rfl

theorem findings_of_stages (request : Request) (system : FileSystem) (settings : Settings)
    (deduplicate : Bool) :
    let stages := request.runStages system settings
    let assembly := Assembly.make deduplicate stages.forwardEdges
      (request.crawled system settings) request.paths
    stages.findings request deduplicate = ⟨assembly.edges, assembly.affected,
      some ⟨assembly.counts, request.changed.length, request.options.maxDepth⟩,
      stages.errors⟩ := by
  intro stages assembly
  unfold Stages.findings
  rw [reverse_of_stages]
  rfl

theorem findings_of_crawl_alone (canonical : Canonical request.paths) {fault : Fault}
    (failed : (request.runStages system settings).forward = .error fault) (deduplicate : Bool) :
    ((request.runStages system settings).findings request deduplicate).OfCrawl request.paths
      (request.crawled system settings) := by
  have links : (request.runStages system settings).forwardEdges = [] := by
    rw [Stages.forwardEdges, failed]
    rfl
  rw [findings_of_stages, links]
  rcases crawled_cases request system settings with nothing | ⟨repository, crawl, done, found⟩
  · rw [nothing]
    cases deduplicate <;> exact ⟨rfl, rfl, rfl, by simp [Assembly.make, ReverseFindings.none]⟩
  · rw [found]
    obtain ⟨edges, affected, sources⟩ := assembled_crawl canonical done deduplicate
    exact ⟨edges, affected, rfl, sources⟩

theorem crawled_of_failed {fault : Fault}
    (failed : (request.runStages system settings).reverse = some (.error fault)) :
    request.crawled system settings = .none := by
  have none : (request.runStages system settings).crawl? = none := by
    rw [Stages.crawl?, failed]
    rfl
  have same := reverse_of_stages request system settings
  rw [none] at same
  exact same.symm

def withoutCrawl (request : Request) (limit : Options) : Request :=
  { request with options := limit }

theorem findings_without_crawl {limit : Options} (without : limit.includeReverse.truthy = false)
    (deduplicate : Bool) :
    let stages := request.runStages system settings
    let assembly := Assembly.make deduplicate stages.forwardEdges .none request.paths
    ((request.withoutCrawl limit).runStages system settings).findings
        (request.withoutCrawl limit) deduplicate =
      ⟨assembly.edges, assembly.affected,
        some ⟨assembly.counts, request.changed.length, limit.maxDepth⟩,
        faultText "forward" stages.forward⟩ := by
  have none : (request.withoutCrawl limit).runStages system settings =
      ⟨(request.runStages system settings).forward, none⟩ := by
    unfold runStages withoutCrawl
    rw [without]
    rfl
  intro stages assembly
  rw [none, Stages.findings, Stages.errors]
  exact congrArg _ (List.append_nil _)

variable {limit : Options}

theorem crawl_lost (without : limit.includeReverse.truthy = false)
    (deep : limit.maxDepth = request.options.maxDepth) (deduplicate : Bool) {fault : Fault}
    (failed : (request.runStages system settings).reverse = some (.error fault)) :
    let alone := ((request.withoutCrawl limit).runStages system settings).findings
      (request.withoutCrawl limit) deduplicate
    (request.runStages system settings).findings request deduplicate =
      { alone with errors := alone.errors ++ ["reverse: " ++ fault.message] } := by
  intro alone
  dsimp only [alone]
  rw [findings_without_crawl without, findings_of_stages, crawled_of_failed failed, Stages.errors,
    failed, deep]
  rfl

theorem links_first (without : limit.includeReverse.truthy = false) (deduplicate : Bool) :
    (((request.withoutCrawl limit).runStages system settings).findings
        (request.withoutCrawl limit) deduplicate).edges <+:
      ((request.runStages system settings).findings request deduplicate).edges := by
  rw [findings_without_crawl without, findings_of_stages]
  exact assembled_links_first deduplicate _ _ request.paths

end Request

/-- A stage that fails costs its own findings and nothing else. If the crawl fails, the findings are
those of the same analysis without a crawl, and its fault comes last. If the linking of changed
files fails, they are those of the crawl by itself, or nothing if none was asked for. -/
theorem stages_fail_apart (analyzer : Analyzer) (host : Host) (changes : Changes) (root : Path)
    {options others : GivenOptions} {request : Request} {stages : Stages} {limit : Options}
    (completed : Run.ofInput (analyzer.prepare host).host.files (analyzer.prepare host).settings
      changes root options = .completed request stages)
    (given : others.complete (analyzer.prepare host).settings = .ok limit)
    (without : limit.includeReverse.truthy = false)
    (deep : limit.maxDepth = request.options.maxDepth) :
    (analyzer.analyze host changes root options).findings.FailApart request stages
      (analyzer.analyze host changes root others).findings
      (request.crawled (analyzer.prepare host).host.files (analyzer.prepare host).settings)
      (analyzer.prepare host).errors := by
  obtain ⟨accepted, rfl⟩ := Run.completed_iff.1 completed
  have canonical := Request.paths_canonical accepted
  obtain ⟨normal, -, place⟩ := Request.of_input_ok accepted
  have completedToo : Run.ofInput (analyzer.prepare host).host.files
      (analyzer.prepare host).settings changes root others = .completed
        (request.withoutCrawl limit) ((request.withoutCrawl limit).runStages
          (analyzer.prepare host).host.files (analyzer.prepare host).settings) := by
    refine Run.completed_iff.2 ⟨?_, rfl⟩
    rw [Request.of_input_eq given, normal]
    dsimp only [bind, Except.bind]
    rw [place]
    rfl
  simp only [Analyzer.analyze, completed, completedToo]
  constructor
  · intro fault failed
    have lost := Request.crawl_lost without deep
      ((analyzer.prepare host).settings.value .deduplicateEdges).truthy failed
    simp only [Run.findings, lost, List.append_assoc]
  · intro fault failed
    obtain ⟨edges, affected, scanned, sources⟩ := Request.findings_of_crawl_alone canonical failed
      ((analyzer.prepare host).settings.value .deduplicateEdges).truthy
    refine ⟨⟨edges, affected, scanned, sources⟩, ?_⟩
    change (analyzer.prepare host).errors ++ (faultText "forward" (Stages.forward _) ++ _) = _
    rw [failed]
    rfl
  · exact Request.links_first without _

/-! A changed sheet uses something without a suffix, and the settings list no extensions to try. The
crawl comes to the sheet from elsewhere and does not have to try any. -/

namespace NoExtensions

open FileSystem

def files : FileSystem where
  entries := [(["a.css"], .file (Utf8.ofString "@use '/x'")), (["src"], .directory),
    (["src", "b.css"], .file (Utf8.ofString "@use '/a.css'"))]
  workingDirectory := []
  platform := .ordinary

def settings : Settings :=
  (((Settings.initial.set .encoding (.str "ascii")).set .scriptExtensions (.list [])).set
    .resolveExtensions .null).set .sourceRoots (.list [.str "src"])

def repository : Repository where
  system := files
  root := ⟨.root, []⟩
  settings
  extractor := ⟨[], [".css", ".scss", ".sass", ".less"], Form.scriptForms, Form.styleForms⟩

def folder : Path := ⟨.root, ["src"]⟩

def changes : Changes := .list [.record (.ofPath "a.css")]

def request (includeReverse : Bool) : Request :=
  ⟨[.ofPath "a.css"], ⟨.bool includeReverse, 1⟩, ⟨.root, []⟩⟩

def unlisted : Fault := .misuse (.notIterable "NoneType")

theorem made : Repository.ofSettings files ⟨.root, []⟩ settings = .ok repository := rfl

theorem changed_place : files.locate ⟨.root, ["a.css"]⟩ = .ok ["a.css"] :=
  locate_name (by decide) (by decide) rfl (by simp)

theorem folder_place : files.locate folder = .ok ["src"] :=
  locate_name (by decide) (by decide) rfl (by simp)

theorem using_place : files.locate (folder.child "b.css") = .ok ["src", "b.css"] := by
  have directory : files.lookup? ["src"] = some .directory := rfl
  have file : files.lookup? ["src", "b.css"] = some (.file (Utf8.ofString "@use '/a.css'")) := rfl
  refine located_iff.2 ⟨by decide, ?_⟩
  change files.follow true mostLinks [] ["src", "b.css"] = _
  rw [follow_name rfl (by decide) (by decide) directory (by simp),
    follow_name rfl (by decide) (by decide) file (by simp)]
  exact follow_nothing _ _ _

theorem changed_entry :
    files.entryAt ⟨.root, ["a.css"]⟩ = .ok (.file (Utf8.ofString "@use '/x'")) :=
  entry_of_located changed_place rfl

theorem linking_failed :
    repository.forwardEdges ["a.css"] = .error unlisted := by
  have decoded : decodeFirst .ordinary (Utf8.ofString "@use '/x'")
      [.str "ascii", .str "latin-1"] = .ok (some "@use '/x'".toList) := rfl
  have text : repository.text? ⟨.root, ["a.css"]⟩ = .ok (some "@use '/x'") := by
    rw [Repository.text_of_file changed_entry rfl rfl decoded, String.ofList_toList]
  have specifiers : repository.extractor.extract "@use '/x'" "a.css" = ["/x"] := by
    decide +kernel
  have unresolved : repository.resolver.resolve "/x" "a.css" =
      .error unlisted := by
    have given : candidate? "/x" "a.css" = some "x" := by decide
    have bare : ¬Written.suffix "x" ≠ "" := by decide
    rw [Resolver.resolve, given]
    change repository.resolver.resolveCandidate "x" = _
    rw [Resolver.resolveCandidate, if_neg bare]
    rfl
  have style : repository.extractor.categorize "a.css" = some .style := by decide
  have place : repository.root.join "a.css" = ⟨.root, ["a.css"]⟩ := rfl
  have failed : repository.forwardEdgesOf ["a.css"] "a.css" =
      .error unlisted := by
    rw [Repository.forwardEdgesOf, style]
    dsimp only
    rw [place, Repository.imports_of_text text specifiers, Repository.resolveAll, unresolved]
    rfl
  rw [Repository.forwardEdges, List.mapM_cons, failed]
  rfl

theorem names : files.names ["src"] = ["b.css"] :=
  names_of_written (by decide) (by decide)

theorem listed : repository.sourceFiles = .ok [(folder.child "b.css", "src/b.css")] := by
  have there : files.isDirectory folder = .ok true := directory_of_located folder_place rfl
  have named : (repository.settings.value .sourceRoots).elements = .ok [.str "src"] := rfl
  have searched := Repository.search_root_of_name named there
  have walked : files.walk PairOfSheets.rules folder = .ok [folder.child "b.css"] := by
    refine walk_files there folder_place names fun name member => ?_
    rw [List.mem_singleton.1 member]
    exact ⟨Utf8.ofString "@use '/a.css'", rfl⟩
  exact Repository.source_files_of_root searched rfl walked

theorem using_imports :
    repository.imports (folder.child "b.css") "src/b.css" = .ok ["a.css"] := by
  have entry : files.entryAt (folder.child "b.css") =
      .ok (.file (Utf8.ofString "@use '/a.css'")) := entry_of_located using_place rfl
  have decoded : decodeFirst .ordinary (Utf8.ofString "@use '/a.css'")
      [.str "ascii", .str "latin-1"] = .ok (some "@use '/a.css'".toList) := rfl
  have text : repository.text? (folder.child "b.css") = .ok (some "@use '/a.css'") := by
    rw [Repository.text_of_file entry rfl rfl decoded, String.ofList_toList]
  have specifiers : repository.extractor.extract "@use '/a.css'" "src/b.css" = ["/a.css"] := by
    decide +kernel
  have resolved : repository.resolver.resolve "/a.css" "src/b.css" = .ok (some "a.css") := by
    apply Repository.resolve_of_file
    · decide
    · decide
    · exact is_file_iff.2 ⟨_, changed_entry⟩
  rw [Repository.imports_of_text text specifiers, Repository.resolveAll, resolved]
  rfl

theorem scanned : repository.scannedImports = .ok [("src/b.css", ["a.css"])] := by
  refine Repository.scanned_imports_ok_iff.2 ⟨_, listed, ?_⟩
  rw [List.mapM_cons, Repository.scan, using_imports]
  rfl

theorem paths (includeReverse : Bool) : (request includeReverse).paths = ["a.css"] := by
  cases includeReverse <;> decide

theorem completed (includeReverse : Bool) :
    Run.ofInput files settings changes ⟨.root, []⟩ (.record ⟨.bool includeReverse, 1⟩) =
      .completed (request includeReverse) ⟨.error unlisted,
        if includeReverse then some (repository.crawl ["a.css"] 1) else none⟩ := by
  have normal : changes.normalized = .ok (request includeReverse).changed := rfl
  refine Run.completed_iff.2 ⟨?_, ?_⟩
  · rw [Request.ofInput, normal]
    change (files.settle ⟨.root, []⟩ >>= fun root => (pure ⟨(request includeReverse).changed,
      (request includeReverse).options, root⟩ : Outcome Request)) = _
    rw [settle_root]
    rfl
  · change (⟨(Repository.ofSettings files ⟨.root, []⟩ settings).bind _,
      if _ then some ((Repository.ofSettings files ⟨.root, []⟩ settings).bind _)
      else none⟩ : Stages) = _
    rw [made, paths includeReverse]
    change (⟨repository.forwardEdges ["a.css"], _⟩ : Stages) = _
    rw [linking_failed]
    cases includeReverse <;> rfl

def analyzer : Analyzer := ⟨some settings, true⟩

def host : Host := { PairOfSheets.host with files }

theorem crawled : ∃ crawl, repository.crawl ["a.css"] 1 = .ok crawl ∧
    crawl.found.edges = [⟨"src/b.css", "a.css"⟩] := by
  have short : Value.hasShortText (1 : Nat) = true := by decide
  obtain ⟨crawl, crawled, searched⟩ := crawl_of_scan scanned ["a.css"] short
  refine ⟨crawl, crawled, ?_⟩
  rw [searched.edges_eq]
  decide

/-- The crawl finds the importer, and the lost links of the changed sheet cost nothing of it. -/
theorem importer_found_apart : ∃ stages crawl,
    Run.ofInput files settings changes ⟨.root, []⟩ (.record ⟨.bool true, 1⟩) =
        .completed (request true) stages ∧
      (GivenOptions.record ⟨.bool false, 1⟩).complete settings = .ok ⟨.bool false, 1⟩ ∧
      (Value.bool false).truthy = false ∧
      (analyzer.analyze host changes ⟨.root, []⟩ (.record ⟨.bool true, 1⟩)).findings.FailApart
        (request true) stages
        (analyzer.analyze host changes ⟨.root, []⟩ (.record ⟨.bool false, 1⟩)).findings
        (Crawl.findings crawl) [] ∧
      (analyzer.analyze host changes ⟨.root, []⟩ (.record ⟨.bool true, 1⟩)).findings.edges =
        [⟨"src/b.css", "a.css"⟩] := by
  obtain ⟨crawl, crawled, edges⟩ := crawled
  have given : (GivenOptions.record ⟨.bool false, 1⟩).complete settings = .ok ⟨.bool false, 1⟩ :=
    rfl
  have apart := stages_fail_apart analyzer host changes ⟨.root, []⟩ (completed true) given rfl rfl
  have found : (request true).crawled files settings = crawl.findings := by
    have asked : (request true).options.includeReverse.truthy = true := rfl
    rw [Request.crawled, if_pos asked, paths true]
    change reverseFindings ((Repository.ofSettings files ⟨.root, []⟩ settings).bind _) = _
    rw [made]
    change reverseFindings (repository.crawl ["a.css"] 1) = _
    rw [crawled]
    rfl
  change Findings.FailApart _ _ _ _ ((request true).crawled files settings) [] at apart
  rw [found] at apart
  obtain ⟨same, -⟩ := apart.links_lost unlisted rfl
  exact ⟨_, crawl, completed true, given, rfl, apart, same.edges.trans edges⟩

/-- Where no importers are asked for, the importer that the crawl by itself would find is missing
from the findings, although the linking of the changed sheet failed. -/
theorem importer_not_asked_for : ∃ crawl,
    Run.ofInput files settings changes ⟨.root, []⟩ (.record ⟨.bool false, 1⟩) =
        .completed (request false) ⟨.error unlisted, none⟩ ∧
      Repository.ofSettings files ⟨.root, []⟩ settings = .ok repository ∧
      repository.crawl (request false).paths 1 = .ok crawl ∧
      crawl.found.edges = [⟨"src/b.css", "a.css"⟩] ∧
      (analyzer.analyze host changes ⟨.root, []⟩ (.record ⟨.bool false, 1⟩)).findings.edges =
        [] := by
  obtain ⟨crawl, crawled, edges⟩ := crawled
  refine ⟨crawl, completed false, made, ?_, edges, ?_⟩
  · rw [paths false, crawled]
  · change ((Run.ofInput files settings changes ⟨.root, []⟩
      (.record ⟨.bool false, 1⟩)).findings true []).edges = []
    rw [completed false]
    rfl

end NoExtensions

end ImportImpact
