import ImportImpact.Proofs.Analysis.OneName
import ImportImpact.Proofs.FileSystem.SameBelow
import ImportImpact.Proofs.Import.Resolver

/-!
What a repository's imports depend on. Two trees that agree below the directories to walk, and on
the spellings that are tried for a path of the repository, give the same crawl; and the same edges
among changed files, if these hold the same. The targets that are rooted may differ, but no search
comes to them.
-/

namespace ImportImpact.Repository

open FileSystem ImportImpact.Path Outcome Written

/-- What an importer specifies leads to the same files in two repositories, but for rooted ones. -/
def ResolvesAlike (repository elsewhere : Repository) (importer : String) : Prop :=
  ∀ specifier, (elsewhere.resolver.resolve specifier importer).map (Option.filter (!rooted ·)) =
    (repository.resolver.resolve specifier importer).map (Option.filter (!rooted ·))

section Alike

variable {repository elsewhere : Repository} {place placeToo : Path}

theorem text_of_no_file
    (none : ∀ content, repository.system.entryAt place ≠ .ok (.file content)) :
    repository.text? place = .ok Option.none := by
  rw [text?, readText, contentAt]
  cases entry : repository.system.entryAt place with
  | error refusal => cases refusal <;> rfl
  | ok found =>
      cases found with
      | file content => exact absurd entry (none content)
      | directory => rfl
      | link target => rfl

theorem text_alike (settings : elsewhere.settings = repository.settings)
    (platform : elsewhere.system.platform = repository.system.platform)
    (same : ∀ entry, elsewhere.system.entryAt placeToo = .ok entry ↔
      repository.system.entryAt place = .ok entry) :
    elsewhere.text? placeToo = repository.text? place := by
  by_cases file : ∃ content, repository.system.entryAt place = .ok (.file content)
  · obtain ⟨content, there⟩ := file
    have rules : elsewhere.readingRules = repository.readingRules := by
      rw [readingRules, readingRules, settings]
    rw [text?, text?, readText, readText, contentAt, contentAt, there, (same _).2 there, rules,
      platform]
    simp only [bind, Except.bind]
    cases exceeds content.length repository.readingRules.largest with
    | error fault => rfl
    | ok large =>
        cases large with
        | true => rfl
        | false =>
            simp only [Bool.false_eq_true, if_false, pure, Except.pure]
            cases fallbackNames repository.readingRules.fallbacks with
            | error fault => rfl
            | ok names =>
                dsimp only
                cases decodeFirst repository.system.platform content
                  (repository.readingRules.encoding :: names) with
                | error fault => rfl
                | ok text => cases text <;> rfl
  · rw [not_exists] at file
    rw [text_of_no_file file, text_of_no_file fun content there => file content ((same _).1 there)]

theorem has_file_alike {path : String}
    (same : ∀ entry, elsewhere.system.entryAt (elsewhere.root.join path) = .ok entry ↔
      repository.system.entryAt (repository.root.join path) = .ok entry) :
    elsewhere.resolver.hasFile path = repository.resolver.hasFile path := by
  rw [Bool.eq_iff_iff, Resolver.has_file_iff, Resolver.has_file_iff]
  exact is_file_iff.trans ((exists_congr fun content => same _).trans is_file_iff.symm)

theorem resolve_all_alike {importer : String}
    (alike : ResolvesAlike repository elsewhere importer) (specifiers : List String) :
    (resolveAll elsewhere.resolver importer specifiers).map (List.filter (!rooted ·)) =
      (resolveAll repository.resolver importer specifiers).map (List.filter (!rooted ·)) := by
  induction specifiers with
  | nil => rfl
  | cons specifier rest induction =>
      rw [resolveAll, resolveAll, Outcome.map_bind, Outcome.map_bind]
      apply bind_congr_view (alike specifier)
      intro target found _ same
      rw [Outcome.map_bind, Outcome.map_bind]
      apply bind_congr_view induction
      intro targets others _ agreed
      change Except.ok ((target.toList ++ targets).filter _) =
        Except.ok ((found.toList ++ others).filter _)
      rw [List.filter_append, List.filter_append, ← Option.toList_filter, ← Option.toList_filter,
        same, agreed]

theorem imports_alike (extracts : elsewhere.extractor = repository.extractor) {path : String}
    (alike : ResolvesAlike repository elsewhere path)
    (read : elsewhere.text? placeToo = repository.text? place) :
    (elsewhere.imports placeToo path).map (List.filter (!rooted ·)) =
      (repository.imports place path).map (List.filter (!rooted ·)) := by
  rw [imports, imports, read, extracts]
  cases repository.text? place with
  | error fault => rfl
  | ok given =>
      cases given with
      | none => rfl
      | some text => exact resolve_all_alike alike (repository.extractor.extract text path)

theorem filter_unrooted {wanted : String → Bool}
    (unrooted : ∀ target, wanted target = true → rooted target = false) (targets : List String) :
    (targets.filter (!rooted ·)).filter wanted = targets.filter wanted := by
  rw [List.filter_filter]
  apply List.filter_congr
  intro target _
  cases picked : wanted target with
  | false => rfl
  | true => simp [unrooted target picked]

theorem forward_edges_alike (extracts : elsewhere.extractor = repository.extractor)
    {changed : List String} (unrooted : ∀ path ∈ changed, rooted path = false)
    (alike : ∀ path ∈ changed, ResolvesAlike repository elsewhere path)
    (read : ∀ path ∈ changed, elsewhere.text? (elsewhere.root.join path) =
      repository.text? (repository.root.join path)) :
    elsewhere.forwardEdges changed = repository.forwardEdges changed := by
  have linked : ∀ path ∈ changed, elsewhere.forwardEdgesOf changed path =
      repository.forwardEdgesOf changed path := by
    intro path member
    have imported := imports_alike extracts (alike path member) (read path member)
    rw [forwardEdgesOf, forwardEdgesOf, extracts]
    cases repository.extractor.categorize path with
    | none => rfl
    | some kind =>
        apply bind_congr_view imported
        intro targets others _ agreed
        have unrootedToo : ∀ target, (changed.contains target && target ≠ path) = true →
            rooted target = false := by
          intro target wanted
          simp only [Bool.and_eq_true, List.contains_iff_mem] at wanted
          exact unrooted target wanted.1
        rw [← filter_unrooted unrootedToo targets, ← filter_unrooted unrootedToo others, agreed]
  rw [forwardEdges, forwardEdges, map_all_congr linked]

theorem scan_alike (extracts : elsewhere.extractor = repository.extractor) {path : String}
    (alike : ResolvesAlike repository elsewhere path)
    (read : elsewhere.text? placeToo = repository.text? place) :
    (elsewhere.scan (placeToo, path)).map (fun file => (file.1, file.2.filter (!rooted ·))) =
      (repository.scan (place, path)).map fun file => (file.1, file.2.filter (!rooted ·)) := by
  rw [scan, scan, Outcome.map_bind, Outcome.map_bind]
  apply bind_congr_view (imports_alike extracts alike read)
  intro targets others _ agreed
  change Except.ok (path, (targets.filter _).filter _) =
    Except.ok (path, (others.filter _).filter _)
  rw [List.filter_comm, agreed, List.filter_comm]

end Alike

def onSystem (repository : Repository) (system : FileSystem) : Repository :=
  { repository with system }

/-- All that the repository looks at is the same in another tree. -/
structure SeenAlike (repository : Repository) (other : FileSystem) : Prop where
  tried : TriesOnly repository.resolver.extensions repository.resolver.indexName fun path =>
    (repository.onSystem other).resolver.hasFile path = repository.resolver.hasFile path
  walked : ∀ directory, directory = repository.root ∨
    (∃ name, repository.SourceRoot name ∧ directory = repository.root.join name) →
      Agree repository.system other directory
  platform : other.platform = repository.system.platform

variable {repository : Repository} {other : FileSystem}

section Seen

theorem text_congr {place : Path} (platform : other.platform = repository.system.platform)
    (held : other.contentAt place = repository.system.contentAt place) :
    (repository.onSystem other).text? place = repository.text? place := by
  rw [text?, text?, onSystem, readText, readText, held, platform]
  rfl

theorem has_file_congr {path : String}
    (found : repository.system.entryAt (repository.root.join path) =
      other.entryAt (repository.root.join path)) :
    (repository.onSystem other).resolver.hasFile path = repository.resolver.hasFile path := by
  apply has_file_alike
  intro entry
  rw [found]
  exact Iff.rfl

theorem SeenAlike.resolves (seen : repository.SeenAlike other) (importer : String) :
    ResolvesAlike repository (repository.onSystem other) importer := by
  intro specifier
  apply Resolver.resolve_congr
  · rfl
  · rfl
  · exact fun path within => has_file_congr ((seen.walked _ (Or.inl rfl)).entry
      (descends_of_inside within repository.root))
  · exact seen.tried.spells
  · exact Or.inl seen.tried.all_texts

theorem forward_edges_congr (seen : repository.SeenAlike other) {changed : List String}
    (unrooted : ∀ path ∈ changed, rooted path = false)
    (held : ∀ path ∈ changed, other.contentAt (repository.root.join path) =
      repository.system.contentAt (repository.root.join path)) :
    (repository.onSystem other).forwardEdges changed = repository.forwardEdges changed := by
  have extracts : (repository.onSystem other).extractor = repository.extractor := rfl
  exact forward_edges_alike extracts unrooted (fun path _ => seen.resolves path)
    fun path member => text_congr seen.platform (held path member)

end Seen

section Reverse

theorem not_rooted_of_scans {path : String} (scans : repository.Scans path) :
    rooted path = false := by
  obtain ⟨files, listed, member⟩ := scans
  obtain ⟨file, inside, rfl⟩ := List.mem_map.1 member
  obtain ⟨below, directory, -, root, descends⟩ := source_file_origin listed inside
  obtain ⟨names, place, written⟩ := below_iff.1 below
  have writable := writable_below_root root descends
  rw [place, List.drop_left] at writable
  rw [← written]
  exact not_rooted_of_writable writable

theorem search_roots_congr
    (asked : ∀ directory, directory = repository.root ∨
      (∃ name, repository.SourceRoot name ∧ directory = repository.root.join name) →
        other.isDirectory directory = repository.system.isDirectory directory) :
    (repository.onSystem other).searchRoots = repository.searchRoots := by
  rw [searchRoots, searchRoots]
  apply bind_congr_ok
  intro names listed
  have same : names.mapM (repository.onSystem other).sourceRoot? =
      names.mapM repository.sourceRoot? := by
    apply map_all_congr
    intro value member
    cases value with
    | str name =>
        have root := asked (repository.root.join name)
          (Or.inr ⟨name, ⟨names, listed, member⟩, rfl⟩)
        rw [sourceRoot?, sourceRoot?, onSystem, root]
    | _ => rfl
  rw [same]
  apply bind_congr_ok
  intro found _
  dsimp only [onSystem]
  rw [asked repository.root (Or.inl rfl)]

theorem walked_congr {directories : List Path}
    (walked : ∀ rules, ∀ directory ∈ directories,
      other.walked rules directory = repository.system.walked rules directory) :
    (repository.onSystem other).walked directories = repository.walked directories := by
  cases directories with
  | nil => rfl
  | cons first rest =>
      rw [Repository.walked, Repository.walked]
      have ruled : (repository.onSystem other).walkRules = repository.walkRules := rfl
      rw [ruled]
      cases repository.walkRules with
      | error fault => rfl
      | ok rules =>
          have same := List.map_congr_left (walked rules)
          exact congrArg (List.foldr Walked.andThen .nothing) same

/-- Every file that is come to is scanned alike, but for rooted targets. -/
theorem scans_congr (seen : repository.SeenAlike other) {roots : List Path}
    (searched : repository.searchRoots = .ok roots) :
    ((repository.named (repository.walked roots).files).mapM
        (repository.onSystem other).scan).map
          (List.map fun file => (file.1, file.2.filter (!rooted ·))) =
      ((repository.named (repository.walked roots).files).mapM repository.scan).map
        (List.map fun file => (file.1, file.2.filter (!rooted ·))) := by
  rw [map_all_view, map_all_view]
  apply map_all_congr
  intro file member
  obtain ⟨-, directory, -, root, descends⟩ := named_origin searched member
  have held : other.contentAt file.1 = repository.system.contentAt file.1 := by
    rw [contentAt, contentAt, (seen.walked directory root).entry descends]
  have extracts : (repository.onSystem other).extractor = repository.extractor := rfl
  exact scan_alike extracts (seen.resolves file.2) (text_congr seen.platform held)

theorem scanned_imports_congr (seen : repository.SeenAlike other) :
    (repository.onSystem other).scannedImports.map
        (List.map fun file => (file.1, file.2.filter (!rooted ·))) =
      repository.scannedImports.map
        (List.map fun file => (file.1, file.2.filter (!rooted ·))) := by
  have roots : (repository.onSystem other).searchRoots = repository.searchRoots :=
    search_roots_congr fun directory root =>
      ((seen.walked directory root).asked (descends_refl directory) _).symm
  rw [scannedImports, scannedImports, roots, Outcome.map_bind, Outcome.map_bind]
  apply bind_congr_ok
  intro found searched
  have walks : (repository.onSystem other).walked found = repository.walked found :=
    walked_congr fun rules directory member => ((seen.walked directory
      (search_root_shape searched directory member).2).walked (descends_refl directory) rules).symm
  have names (places : List Path) :
      (repository.onSystem other).named places = repository.named places := rfl
  dsimp only
  rw [walks, names, Outcome.map_bind, Outcome.map_bind]
  refine bind_congr_view (scans_congr seen searched) ?_
  intro scanned others _ agreed
  rw [Outcome.map_bind, Outcome.map_bind]
  exact bind_congr_ok fun _ _ => congrArg Except.ok agreed

/-- Scans that differ in rooted targets only give the same crawl, because no search comes to
these. -/
theorem crawl_of_scans {scanned others : List (String × List String)}
    (scan : repository.scannedImports = .ok scanned)
    (agreed : scanned.map (fun file => (file.1, file.2.filter (!rooted ·))) =
      others.map fun file => (file.1, file.2.filter (!rooted ·)))
    (changed : List String) (depth : Nat) :
    (⟨.search (.ofImports scanned) (seeds changed) depth, scanned.length⟩ : Crawl) =
      ⟨.search (.ofImports others) (seeds changed) depth, others.length⟩ := by
  have length : scanned.length = others.length := by
    simpa using congrArg List.length agreed
  have start : ∀ path ∈ seeds changed, rooted path = false :=
    fun path seed => decide_eq_false (head_of_normal (normal_of_seed seed))
  have closed : ∀ target, rooted target = false →
      ∀ importer ∈ (ImporterIndex.ofImports scanned).importersOf target,
        rooted importer = false := by
    intro target _ importer imports
    exact not_rooted_of_scans ((mem_importers_iff scan importer target).1 imports).1
  have same : ∀ target, rooted target = false →
      (ImporterIndex.ofImports scanned).importersOf target =
        (ImporterIndex.ofImports others).importersOf target := by
    intro target unrooted
    have kept : (!rooted target) = true := by simp [unrooted]
    rw [← ImporterIndex.importers_of_kept (!rooted ·) kept scanned, agreed,
      ImporterIndex.importers_of_kept (!rooted ·) kept others]
  rw [Neighbourhood.search_congr start closed same depth, length]

theorem crawl_congr (seen : repository.SeenAlike other) (changed : List String) (depth : Nat) :
    (repository.onSystem other).crawl changed depth = repository.crawl changed depth := by
  rw [crawl, crawl]
  split
  · rfl
  · apply bind_congr_view (scanned_imports_congr seen)
    intro scanned others scan agreed
    rw [crawl_of_scans scan agreed changed depth]

end Reverse

end ImportImpact.Repository

namespace ImportImpact

theorem Repository.of_settings_ok {system : FileSystem} {root : Path} {settings : Settings}
    {repository : Repository} (made : Repository.ofSettings system root settings = .ok repository) :
    repository.system = system ∧ repository.root = root ∧ repository.settings = settings := by
  obtain ⟨extractor, -, made⟩ := Outcome.bind_ok_iff.1 made
  rw [Outcome.pure_ok_iff] at made
  subst made
  exact ⟨rfl, rfl, rfl⟩

theorem Request.stages_of_repository {request : Request} {system : FileSystem}
    {settings : Settings} {repository : Repository}
    (made : Repository.ofSettings system request.root settings = .ok repository) :
    request.runStages system settings = ⟨repository.forwardEdges request.paths,
      if request.options.includeReverse.truthy then
        some (repository.crawl request.paths request.options.maxDepth)
      else none⟩ := by
  rw [runStages, made]
  rfl

theorem Request.stages_over {request : Request} {system other : FileSystem} {settings : Settings}
    (same : ∀ repository, Repository.ofSettings system request.root settings = .ok repository →
      (repository.onSystem other).forwardEdges request.paths =
          repository.forwardEdges request.paths ∧
        (repository.onSystem other).crawl request.paths request.options.maxDepth =
          repository.crawl request.paths request.options.maxDepth) :
    request.runStages other settings = request.runStages system settings := by
  cases extracted : Extractor.ofSettings settings with
  | error fault =>
      have failed (tree : FileSystem) :
          Repository.ofSettings tree request.root settings = .error fault := by
        rw [Repository.ofSettings, extracted]
        rfl
      rw [runStages, runStages, failed, failed]
  | ok extractor =>
      have made (tree : FileSystem) : Repository.ofSettings tree request.root settings =
          .ok ⟨tree, request.root, settings, extractor⟩ := by
        rw [Repository.ofSettings, extracted]
        rfl
      obtain ⟨forward, reverse⟩ := same _ (made system)
      dsimp only [Repository.onSystem] at forward reverse
      rw [stages_of_repository (made other), stages_of_repository (made system), forward, reverse]

end ImportImpact
