import ImportImpact.Analysis.Analyzer
import ImportImpact.Proofs.Analysis.Edges
import ImportImpact.Proofs.Graph.Depth

/-!
The same analysis with different depth limits. A larger limit leaves everything that was found with
the smaller one where it is and adds to it at the end; and once the limit is above the number of
scanned files, there is nothing to add. This holds for the crawl as well as for what the analysis
makes of it, and also where a stage fails, as long as the larger limit has a text: without one a
crawl fails at the very end.
-/

namespace ImportImpact

open FirstOccurrence Neighbourhood Outcome

/-- The deeper search goes on where the shallower one stopped. -/
structure Neighbourhood.ExtendsTo (shallow deep : Neighbourhood) : Prop where
  affected : shallow.affected <+: deep.affected
  edges : shallow.edges <+: deep.edges
  same_depth : ∀ path ∈ shallow.affected, deep.reached.lookup path = shallow.reached.lookup path

/-- The same of what the assembly gets, where the limit is above the number of scanned files. -/
structure ReverseFindings.ExtendsTo (limit : Nat) (shallow deep : ReverseFindings) : Prop where
  affected : shallow.affected <+: deep.affected
  edges : shallow.edges <+: deep.edges
  settled : shallow.filesScanned < limit → deep = shallow

/-- More depth adds to the findings at the end, and it adds nothing once the limit is above the
number of scanned files. -/
structure Findings.ExtendsTo (limit : Nat) (shallow deep : Findings) : Prop where
  affected : shallow.affected <+: deep.affected
  edges : shallow.edges <+: deep.edges
  settled : ∀ stats, shallow.stats = some stats → stats.counts.filesScanned < limit →
    deep.affected = shallow.affected ∧ deep.edges = shallow.edges

theorem lookup_of_prefix {shallow deep : List (String × Nat)} (before : shallow <+: deep)
    {path : String} (member : path ∈ shallow.map Prod.fst) :
    deep.lookup path = shallow.lookup path := by
  obtain ⟨rest, rfl⟩ := before
  induction shallow with
  | nil => simp at member
  | cons entry others induction =>
      obtain ⟨key, depth⟩ := entry
      rw [List.cons_append, List.lookup_cons, List.lookup_cons]
      cases same : path == key with
      | true => rfl
      | false =>
          rw [List.map_cons, List.mem_cons] at member
          exact induction (member.resolve_left (by simpa using same))

section Crawl

variable {repository : Repository} {changed : List String} {depth deeper : Nat}

/-- Two crawls fail together, search the same index, or one of them has nothing to do. -/
theorem crawl_pair (repository : Repository) (changed : List String) (bound : depth ≤ deeper)
    (short : Value.hasShortText deeper = true) :
    (repository.crawl changed depth = .ok .nothing ∧
      (depth = 0 ∨ repository.crawl changed deeper = .ok .nothing)) ∨
    (∃ fault, repository.crawl changed depth = .error fault ∧
      repository.crawl changed deeper = .error fault) ∨
    ∃ scanned, repository.scannedImports = .ok scanned ∧
      repository.crawl changed depth =
        .ok ⟨search (.ofImports scanned) (seeds changed) depth, scanned.length⟩ ∧
      repository.crawl changed deeper =
        .ok ⟨search (.ofImports scanned) (seeds changed) deeper, scanned.length⟩ := by
  by_cases none : seeds changed = []
  · exact Or.inl ⟨crawl_idle (Or.inl none) repository,
      Or.inr (crawl_idle (Or.inl none) repository)⟩
  by_cases flat : depth = 0
  · exact Or.inl ⟨crawl_idle (Or.inr flat) repository, Or.inl flat⟩
  right
  rw [crawl_short none flat (Value.short_text_of_le bound short),
    crawl_short none (by omega) short]
  cases repository.scannedImports with
  | error fault => exact Or.inl ⟨fault, rfl, rfl⟩
  | ok scanned => exact Or.inr ⟨scanned, rfl, rfl, rfl⟩

theorem search_extends (index : ImporterIndex) (changed : List String) (bound : depth ≤ deeper) :
    (search index changed depth).ExtendsTo (search index changed deeper) where
  affected := (search_reached_extend index changed bound).map Prod.fst
  edges := search_edges_extend index changed bound
  same_depth _ member := lookup_of_prefix (search_reached_extend index changed bound) member

/-- Only scanned files import anything, so there are not more importers than these. -/
theorem scanned_search_settled {scanned : List (String × List String)}
    (scan : repository.scannedImports = .ok scanned) (enough : scanned.length < depth)
    (bound : depth ≤ deeper) :
    search (.ofImports scanned) changed deeper = search (.ofImports scanned) changed depth := by
  have listed : ∀ target, ∀ path ∈ (ImporterIndex.ofImports scanned).importersOf target,
      path ∈ scanned.map Prod.fst := by
    intro target path imports
    have scans := ((Repository.mem_importers_iff scan path target).1 imports).1
    exact (Repository.scans_iff scan path).1 scans
  exact search_settled listed (by simpa using enough) bound

theorem crawl_extends (bound : depth ≤ deeper) (short : Value.hasShortText deeper = true)
    {shallow deep : Crawl}
    (done : repository.crawl changed depth = .ok shallow)
    (doneToo : repository.crawl changed deeper = .ok deep) :
    shallow.found.ExtendsTo deep.found ∧ (shallow.filesScanned < depth → deep = shallow) := by
  rcases crawl_pair repository changed bound short with
    ⟨nothing, idle⟩ | ⟨fault, failed, -⟩ | ⟨scanned, scan, here, there⟩
  · rw [nothing] at done
    cases done
    refine ⟨⟨List.nil_prefix, List.nil_prefix, by simp [Crawl.nothing, start, affected]⟩, ?_⟩
    intro enough
    rcases idle with rfl | same
    · exact absurd enough (Nat.not_lt_zero _)
    · rw [same] at doneToo
      cases doneToo
      rfl
  · rw [failed] at done
    cases done
  · rw [here] at done
    rw [there] at doneToo
    cases done
    cases doneToo
    refine ⟨search_extends _ _ bound, fun enough => ?_⟩
    rw [scanned_search_settled scan enough bound]

end Crawl

def reverseFindings (outcome : Outcome Crawl) : ReverseFindings :=
  (outcome.toOption.map Crawl.findings).getD .none

theorem ReverseFindings.extends_refl (limit : Nat) (findings : ReverseFindings) :
    findings.ExtendsTo limit findings :=
  ⟨List.prefix_rfl, List.prefix_rfl, fun _ => rfl⟩

/-- A crawl that fails at one depth but not at a smaller one found nothing there. -/
theorem reverse_findings_extend (repository : Repository) (changed : List String)
    {depth deeper : Nat} (bound : depth ≤ deeper) (short : Value.hasShortText deeper = true) :
    (reverseFindings (repository.crawl changed depth)).ExtendsTo depth
      (reverseFindings (repository.crawl changed deeper)) := by
  rcases crawl_pair repository changed bound short with
    ⟨nothing, idle⟩ | ⟨fault, failed, failedToo⟩ | ⟨scanned, scan, here, there⟩
  · rw [nothing]
    refine ⟨List.nil_prefix, List.nil_prefix, fun enough => ?_⟩
    rcases idle with rfl | same
    · exact absurd enough (Nat.not_lt_zero _)
    · rw [same]
  · rw [failed, failedToo]
    exact ReverseFindings.extends_refl depth .none
  · obtain ⟨longer, settled⟩ := crawl_extends bound short here there
    rw [here, there]
    exact ⟨longer.affected, longer.edges, fun enough => congrArg Crawl.findings (settled enough)⟩

theorem assembled_extends {limit : Nat} {shallow deep : ReverseFindings}
    (longer : shallow.ExtendsTo limit deep) (deduplicate : Bool) (forward : List Edge)
    (changed : List String) :
    (Assembly.make deduplicate forward shallow changed).affected <+:
        (Assembly.make deduplicate forward deep changed).affected ∧
      (Assembly.make deduplicate forward shallow changed).edges <+:
        (Assembly.make deduplicate forward deep changed).edges := by
  have joined : forward ++ shallow.edges <+: forward ++ deep.edges :=
    (List.prefix_append_right_inj forward).2 longer.edges
  refine ⟨(erase_dups_extends longer.affected).filter _, ?_⟩
  cases deduplicate with
  | false => exact joined
  | true => exact erase_dups_extends joined

namespace Request

variable {limit limitToo : Options}

theorem reverse_of_stages (request : Request) (system : FileSystem) (settings : Settings) :
    ((request.runStages system settings).crawl?.map Crawl.findings).getD .none =
      if request.options.includeReverse.truthy then
        reverseFindings ((Repository.ofSettings system request.root settings).bind
          (·.crawl request.paths request.options.maxDepth))
      else .none := by
  rw [Stages.crawl?, runStages]
  dsimp only
  split
  · rfl
  · rfl

theorem findings_extend (system : FileSystem) (settings : Settings) (changed : List ChangedFile)
    (root : Path) (alike : limit.includeReverse.truthy = limitToo.includeReverse.truthy)
    (bound : limit.maxDepth ≤ limitToo.maxDepth)
    (short : Value.hasShortText limitToo.maxDepth = true) (deduplicate : Bool) :
    let shallow : Request := ⟨changed, limit, root⟩
    let deep : Request := ⟨changed, limitToo, root⟩
    ((shallow.runStages system settings).findings shallow deduplicate).ExtendsTo limit.maxDepth
      ((deep.runStages system settings).findings deep deduplicate) := by
  intro shallow deep
  have reverse : ReverseFindings.ExtendsTo limit.maxDepth
      (((shallow.runStages system settings).crawl?.map Crawl.findings).getD .none)
      (((deep.runStages system settings).crawl?.map Crawl.findings).getD .none) := by
    rw [reverse_of_stages, reverse_of_stages]
    dsimp only [shallow, deep]
    rw [← alike]
    split
    · cases Repository.ofSettings system root settings with
      | error fault => exact ReverseFindings.extends_refl _ _
      | ok repository => exact reverse_findings_extend repository shallow.paths bound short
    · exact ReverseFindings.extends_refl _ _
  have forward : (deep.runStages system settings).forwardEdges =
      (shallow.runStages system settings).forwardEdges := rfl
  obtain ⟨affected, edges⟩ := assembled_extends reverse deduplicate
    (shallow.runStages system settings).forwardEdges shallow.paths
  refine ⟨affected, edges, fun stats given enough => ?_⟩
  cases given
  have same := reverse.settled enough
  rw [Stages.findings, Stages.findings, same]
  exact ⟨rfl, rfl⟩

end Request

theorem Request.of_input_eq {settings : Settings} {options : GivenOptions} {limit : Options}
    (given : options.complete settings = .ok limit) (system : FileSystem) (changes : Changes)
    (root : Path) : Request.ofInput system settings changes root options =
      changes.normalized >>= fun changed =>
        system.settle root >>= fun place => pure ⟨changed, limit, place⟩ := by
  rw [Request.ofInput, given]
  rfl

/-- Raising the depth limit of an analysis to one that has a text extends what its crawl found, and
with it the affected files and the edges, whether or not repeated edges are dropped; from the number
of scanned files on it changes nothing. -/
theorem deeper_analysis_extends (analyzer : Analyzer) (host : Host) (changes : Changes)
    (root : Path) {options deeper : GivenOptions} {limit limitToo : Options}
    (given : options.complete (analyzer.prepare host).settings = .ok limit)
    (givenToo : deeper.complete (analyzer.prepare host).settings = .ok limitToo)
    (alike : limit.includeReverse.truthy = limitToo.includeReverse.truthy)
    (bound : limit.maxDepth ≤ limitToo.maxDepth)
    (short : Value.hasShortText limitToo.maxDepth = true) :
    (analyzer.analyze host changes root options).findings.ExtendsTo limit.maxDepth
        (analyzer.analyze host changes root deeper).findings ∧
      ∀ (repository : Repository) (changed : List String) (shallow deep : Crawl),
        repository.crawl changed limit.maxDepth = .ok shallow →
          repository.crawl changed limitToo.maxDepth = .ok deep →
            shallow.found.ExtendsTo deep.found ∧
              (shallow.filesScanned < limit.maxDepth → deep = shallow) := by
  constructor
  · simp only [Analyzer.analyze, Run.ofInput, Request.of_input_eq given,
      Request.of_input_eq givenToo]
    cases changes.normalized with
    | error fault => exact ⟨List.prefix_rfl, List.prefix_rfl, fun _ none => by cases none⟩
    | ok changed =>
        cases (analyzer.prepare host).host.files.settle root with
        | error fault => exact ⟨List.prefix_rfl, List.prefix_rfl, fun _ none => by cases none⟩
        | ok place =>
            obtain ⟨affected, edges, settled⟩ := Request.findings_extend
              (analyzer.prepare host).host.files (analyzer.prepare host).settings changed place
              alike bound short ((analyzer.prepare host).settings.value .deduplicateEdges).truthy
            exact ⟨affected, edges, settled⟩
  · intro repository changed shallow deep done doneToo
    exact crawl_extends bound short done doneToo

namespace PairOfSheets

/-- Both sheets are scanned, so from depth three on nothing is added. -/
theorem pair_settled : Value.hasShortText (9 : Nat) = true ∧
    ∃ crawl, repository.crawl ["a.css"] 3 = .ok crawl ∧
    repository.crawl ["a.css"] 9 = .ok crawl ∧
    ((⟨some settings, true⟩ : Analyzer).analyze host changes ⟨.root, []⟩
        (.record ⟨.bool true, 3⟩)).findings.ExtendsTo 3
      ((⟨some settings, true⟩ : Analyzer).analyze host changes ⟨.root, []⟩
        (.record ⟨.bool true, 9⟩)).findings := by
  have limit : (GivenOptions.record ⟨.bool true, 3⟩).complete settings = .ok ⟨.bool true, 3⟩ := rfl
  have limitToo : (GivenOptions.record ⟨.bool true, 9⟩).complete settings =
      .ok ⟨.bool true, 9⟩ := rfl
  obtain ⟨findings, crawls⟩ := deeper_analysis_extends ⟨some settings, true⟩ host changes
    ⟨.root, []⟩ limit limitToo rfl (by decide) (by decide)
  have busy : seeds ["a.css"] ≠ [] := by decide
  have shallow := crawl_short busy (by decide : 3 ≠ 0) (by decide) repository
  have deep := crawl_short busy (by decide : 9 ≠ 0) (by decide) repository
  rw [scanned] at shallow deep
  obtain ⟨-, settled⟩ := crawls repository ["a.css"] _ _ shallow deep
  have same := settled (by decide : 2 < 3)
  exact ⟨by decide, _, shallow, same ▸ deep, findings⟩

/-- A limit of one digit too many: the crawl from the sheet that is used fails, and the sheet that
uses it is not affected any more. -/
theorem affected_sheet_lost_at_long_limit :
    1 ≤ longDepth ∧
      ((⟨some settings, true⟩ : Analyzer).analyze host changes ⟨.root, []⟩
          (.record ⟨.bool true, 1⟩)).findings.affected = ["b.css"] ∧
      ((⟨some settings, true⟩ : Analyzer).analyze host changes ⟨.root, []⟩
          (.record ⟨.bool true, longDepth⟩)).findings.affected = [] := by
  have busy : seeds ["a.css"] ≠ [] := by decide
  have shallow := crawl_short busy (by decide : 1 ≠ 0) (by decide) repository
  rw [scanned] at shallow
  have here : Run.ofInput files settings changes ⟨.root, []⟩ (.record ⟨.bool true, 1⟩) = _ :=
    Run.completed_iff.2 ⟨accepted_with _, stages_with rfl⟩
  have there : Run.ofInput files settings changes ⟨.root, []⟩
      (.record ⟨.bool true, longDepth⟩) = _ :=
    Run.completed_iff.2 ⟨accepted_with _, stages_with rfl⟩
  refine ⟨Nat.one_le_pow _ _ (by omega), ?_, ?_⟩
  · change ((Run.ofInput files settings changes ⟨.root, []⟩ _).findings _ _).affected = _
    rw [here, shallow]
    decide
  · change ((Run.ofInput files settings changes ⟨.root, []⟩ _).findings _ _).affected = _
    rw [there, crawl_at_long_depth]
    decide

end PairOfSheets

end ImportImpact
