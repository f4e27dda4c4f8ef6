import ImportImpact.Platform.Ordinary
import ImportImpact.Proofs.Analysis.Enclosure
import ImportImpact.Proofs.Analysis.Errors
import ImportImpact.Proofs.Journal.WithoutFile
import Mathlib.Logic.Function.Basic

/-!
A process with several analyzers. An analyzer finds its settings once, in its first analysis, and
whatever happens to the process later does not reach them: what it finds depends on the files alone,
and if its settings keep to the repository, on the files of the repository alone.
-/

namespace ImportImpact

open FileSystem ImportImpact.Path Outcome Written

theorem Host.shared_settings_silent {host found : Host} {settings : Settings}
    (loaded : host.sharedSettings = .ok (settings, found)) :
    found.files = host.files ∧ found.journal = host.journal := by
  unfold sharedSettings at loaded
  split at loaded
  · cases loaded
    exact ⟨rfl, rfl⟩
  · obtain ⟨discovered, -, loaded⟩ := bind_ok_iff.1 loaded
    cases loaded
    exact ⟨rfl, rfl⟩

namespace Analyzer

variable {analyzer : Analyzer} {host : Host}

/-- An analyzer that was used before analyzes the files as they are, and reports nothing else. -/
theorem findings_of_used {settings : Settings} (used : analyzer = ⟨some settings, true⟩)
    (changes : Changes) (root : Path) (options : GivenOptions) :
    (analyzer.analyze host changes root options).findings =
      ImportImpact.analyze host.files settings changes root options [] := by
  rw [used]
  rfl

theorem used_again {settings : Settings} (used : analyzer = ⟨some settings, true⟩)
    (changes : Changes) (root : Path) (options : GivenOptions) :
    (analyzer.analyze host changes root options).analyzer = analyzer := by
  rw [used]
  rfl

theorem find_settings_silent (analyzer : Analyzer) (unfiled : host.journal.file = none) :
    (analyzer.findSettings host).host.files = host.files ∧
      (analyzer.findSettings host).host.journal = host.journal := by
  unfold findSettings
  split
  · exact ⟨rfl, rfl⟩
  · split
    next settings found loaded => exact Host.shared_settings_silent loaded
    · exact ⟨Host.log_files unfiled _, rfl⟩

theorem prepare_settings (analyzer : Analyzer) (host : Host) :
    (analyzer.prepare host).settings = (analyzer.findSettings host).settings := by
  unfold prepare
  split
  · rfl
  · exact (prepare_journal_eq _).1

theorem prepare_journal_silent {prepared : Prepared}
    (unnamed : (prepared.settings.value .logFile).truthy = false) :
    (prepareJournal prepared).host.files = prepared.host.files ∧
      (prepareJournal prepared).host.journal.file = none := by
  have named : (journalConfiguration prepared.settings
      prepared.host.terminal).file.truthy = false := unnamed
  obtain ⟨system, kept⟩ := Journal.configure_without_file named prepared.host.files
    prepared.host.clock.logTime
  refine ⟨(prepare_journal_eq prepared).2.1.trans system, ?_⟩
  unfold prepareJournal Host.configureJournal
  dsimp only
  split
  next host given =>
    cases (Prod.mk.inj given).1
    exact kept
  next host fault given =>
    cases (Prod.mk.inj given).1
    exact kept

theorem analyze_silent (unfiled : host.journal.file = none)
    (unnamed : ((analyzer.prepare host).settings.value .logFile).truthy = false)
    (changes : Changes) (root : Path) (options : GivenOptions) :
    (analyzer.analyze host changes root options).host.files = host.files ∧
      (analyzer.analyze host changes root options).host.journal.file = none := by
  obtain ⟨files, journal⟩ := find_settings_silent analyzer unfiled
  have prepared : (analyzer.prepare host).host.files = host.files ∧
      (analyzer.prepare host).host.journal.file = none := by
    rw [prepare_settings] at unnamed
    unfold prepare
    split
    · exact ⟨files, journal ▸ unfiled⟩
    · obtain ⟨kept, silent⟩ := prepare_journal_silent unnamed
      exact ⟨kept.trans files, silent⟩
  obtain ⟨written, left⟩ := Host.log_all_files prepared.2
    ((Run.ofInput (analyzer.prepare host).host.files (analyzer.prepare host).settings changes root
      options).records (analyzer.prepare host).host.files (analyzer.prepare host).settings
        ((analyzer.prepare host).settings.value .deduplicateEdges).truthy)
  exact ⟨written.trans prepared.1, (congrArg Journal.file left).trans prepared.2⟩

theorem missing_settings {fault : Fault} (unset : analyzer.settings = none)
    (failed : host.sharedSettings = .error fault) :
    (analyzer.prepare host).settings = .initial ∧
      ∃ others, (analyzer.prepare host).errors = ("config: " ++ fault.message) :: others ∧
        ∀ error ∈ others, ¬FromSettings error := by
  have found : (analyzer.findSettings host).settings = .initial ∧
      (analyzer.findSettings host).errors = ["config: " ++ fault.message] := by
    unfold findSettings
    rw [unset, failed]
    exact ⟨rfl, rfl⟩
  refine ⟨(prepare_settings analyzer host).trans found.1, ?_⟩
  unfold prepare
  split
  · exact ⟨[], found.2, by simp⟩
  · obtain ⟨-, -, errors⟩ := prepare_journal_eq (analyzer.findSettings host)
    refine ⟨_, errors.trans (by rw [found.2]; rfl), fun error member => ?_⟩
    obtain ⟨other, -, rfl⟩ := Option.map_eq_some_iff.1 (Option.mem_toList.1 member)
    exact (BeginsApart.append (by decide) _).not_from_settings

end Analyzer

/-- A host, and the analyzers that were started on it, each under a name. -/
structure Process where
  host : Host
  analyzers : String → Analyzer

namespace Process

/-- What can happen to a process. -/
inductive Step where
  | clock (clock : Clock)
  | environment (environment : Environment) (home : Path)
  | files (files : FileSystem)
  | share (settings : Option Settings)
  | askShared
  | start (name : String) (settings : Option Settings)
  | analyze (name : String) (changes : Changes) (root : Path) (options : GivenOptions)

def findings (process : Process) (name : String) (changes : Changes) (root : Path)
    (options : GivenOptions) : Findings :=
  ((process.analyzers name).analyze process.host changes root options).findings

def after (process : Process) : Step → Process
  | .clock clock => { process with host := { process.host with clock } }
  | .environment environment home =>
      { process with host := { process.host with environment, home } }
  | .files files => { process with host := { process.host with files } }
  | .share settings => { process with host := process.host.setShared settings }
  | .askShared => match process.host.sharedSettings with
    | .ok (_, host) => { process with host }
    | .error _ => process
  | .start name settings =>
      { process with analyzers := Function.update process.analyzers name (.ofSettings settings) }
  | .analyze name changes root options =>
      let done := (process.analyzers name).analyze process.host changes root options
      ⟨done.host, Function.update process.analyzers name done.analyzer⟩

def run (process : Process) (steps : List Step) : Process := steps.foldl after process

/-- The analyzer of this name goes on being the one that it was. -/
def Step.Spares (name : String) : Step → Prop
  | .start other _ => other ≠ name
  | _ => True

/-- The step spares the analyzer and leaves the repository alone: files change elsewhere only, and
analyses keep no log file. -/
def Leaves (process : Process) (name : String) (root : Path) : Step → Prop
  | .start other _ => other ≠ name
  | .files files => SameAround process.host.files files root
  | .analyze other _ _ _ =>
      ((((process.analyzers other).prepare process.host).settings.value .logFile).truthy) = false
  | _ => True

def LeavesAll (process : Process) (name : String) (root : Path) : List Step → Prop
  | [] => True
  | step :: rest => process.Leaves name root step ∧ (process.after step).LeavesAll name root rest

variable {process : Process} {name : String} {kept : Settings}

theorem spares_of_leaves {root : Path} {step : Step} (leaves : process.Leaves name root step) :
    step.Spares name := by
  cases step with
  | start other settings => exact leaves
  | _ => trivial

theorem used_after {step : Step} (used : process.analyzers name = ⟨some kept, true⟩)
    (spares : step.Spares name) : (process.after step).analyzers name = ⟨some kept, true⟩ := by
  cases step with
  | clock | environment | files | share => exact used
  | askShared =>
      unfold after
      dsimp only
      split <;> exact used
  | start other settings => exact (Function.update_of_ne (Ne.symm spares) _ _).trans used
  | analyze other changes root options =>
      dsimp only [after]
      by_cases own : name = other
      · subst own
        rw [Function.update_self, Analyzer.used_again used, used]
      · rw [Function.update_of_ne own, used]

theorem used_run {steps : List Step} (used : process.analyzers name = ⟨some kept, true⟩)
    (spared : ∀ step ∈ steps, step.Spares name) :
    (process.run steps).analyzers name = ⟨some kept, true⟩ := by
  induction steps generalizing process with
  | nil => exact used
  | cons step rest induction =>
      exact induction (used_after used (spared step List.mem_cons_self))
        fun later member => spared later (List.mem_cons_of_mem step member)

section Undisturbed

variable {root : Path}

theorem undisturbed_after {step : Step} (unfiled : process.host.journal.file = none)
    (leaves : process.Leaves name root step) :
    SameAround process.host.files (process.after step).host.files root ∧
      (process.after step).host.journal.file = none := by
  have still {host : Host} (files : host.files = process.host.files)
      (silent : host.journal.file = none) :
      SameAround process.host.files host.files root ∧ host.journal.file = none := by
    rw [files]
    exact ⟨.refl _ _, silent⟩
  cases step with
  | clock | environment | share | start => exact still rfl unfiled
  | files files => exact ⟨leaves, unfiled⟩
  | askShared =>
      dsimp only [after]
      split
      next settings host loaded =>
        obtain ⟨files, journal⟩ := Host.shared_settings_silent loaded
        exact still files (journal ▸ unfiled)
      · exact still rfl unfiled
  | analyze other changes place options =>
      obtain ⟨files, silent⟩ := Analyzer.analyze_silent unfiled leaves changes place options
      exact still files silent

theorem undisturbed_run {steps : List Step} (unfiled : process.host.journal.file = none)
    (leaves : process.LeavesAll name root steps) :
    SameAround process.host.files (process.run steps).host.files root ∧
      ∀ step ∈ steps, step.Spares name := by
  -- A step is judged by the host that it meets, so the process changes along the induction.
  induction steps generalizing process with
  | nil => exact ⟨.refl _ _, by simp⟩
  | cons step rest induction =>
      obtain ⟨here, later⟩ := leaves
      obtain ⟨same, silent⟩ := undisturbed_after unfiled here
      obtain ⟨onward, spared⟩ := induction silent later
      refine ⟨same.trans onward, fun other member => ?_⟩
      rcases List.mem_cons.1 member with rfl | follows
      · exact spares_of_leaves here
      · exact spared other follows

end Undisturbed

/-- The analyzer goes by these settings, and no step reaches them: it finds what they give for the
files as they are, the same as long as the repository is left alone, and reports nothing about
settings any more. -/
structure Steady (process : Process) (name : String) (kept : Settings) : Prop where
  found : ∀ changes root options, process.findings name changes root options =
    ImportImpact.analyze process.host.files kept changes root options []
  undisturbed : ∀ changes root options steps, process.host.journal.file = none →
    process.LeavesAll name root steps → PlainAround process.host.files root →
      kept.KeepsTo (process.host.files.realPath root) →
        changes.KeepTo (process.host.files.realPath root) →
          (process.run steps).findings name changes root options =
            process.findings name changes root options
  settled : ∀ changes root options, ∀ error ∈ (process.findings name changes root options).errors,
    ¬FromSettings error

theorem steady_of_used (used : process.analyzers name = ⟨some kept, true⟩) :
    process.Steady name kept where
  found changes root options := Analyzer.findings_of_used used changes root options
  undisturbed changes root options steps unfiled leaves plain keeps within := by
    obtain ⟨same, spared⟩ := undisturbed_run unfiled leaves
    rw [findings, findings, Analyzer.findings_of_used (used_run used spared),
      Analyzer.findings_of_used used, ImportImpact.analyze, ImportImpact.analyze,
      Run.of_input_elsewhere same plain keeps within]
  settled changes root options error member := by
    rw [findings, Analyzer.findings_of_used used, ImportImpact.analyze] at member
    obtain ⟨added, errors, other⟩ := Run.errors_added process.host.files kept changes root options
      (kept.value .deduplicateEdges).truthy []
    rw [errors, List.nil_append] at member
    exact other error member

theorem used_of_analyzed (process : Process) (name : String) (changes : Changes) (root : Path)
    (options : GivenOptions) :
    (process.after (.analyze name changes root options)).analyzers name =
      ⟨some ((process.analyzers name).prepare process.host).settings, true⟩ :=
  Function.update_self name _ process.analyzers

/-- From its first analysis on an analyzer goes by the settings that it found then. If none could be
loaded, these are the initial ones, and the first of its results is the only one that says so. -/
theorem steady_from_first_analysis (process : Process) (name : String) (changes : Changes)
    (root : Path) (options : GivenOptions) {earlier : List Step}
    (spared : ∀ step ∈ earlier, step.Spares name) :
    ((process.after (.analyze name changes root options)).run earlier).Steady name
        ((process.analyzers name).prepare process.host).settings ∧
      ∀ fault, (process.analyzers name).settings = none →
        process.host.sharedSettings = .error fault →
          ((process.analyzers name).prepare process.host).settings = .initial ∧
            ∃ others, (process.findings name changes root options).errors =
              ("config: " ++ fault.message) :: others ∧ ∀ error ∈ others, ¬FromSettings error := by
  constructor
  · have used := used_of_analyzed process name changes root options
    exact steady_of_used (used_run used spared)
  · intro fault unset failed
    obtain ⟨initial, others, reported, quiet⟩ := Analyzer.missing_settings unset failed
    obtain ⟨added, errors, other⟩ := Run.errors_added
      ((process.analyzers name).prepare process.host).host.files
      ((process.analyzers name).prepare process.host).settings changes root options
      (((process.analyzers name).prepare process.host).settings.value .deduplicateEdges).truthy
      ((process.analyzers name).prepare process.host).errors
    refine ⟨initial, others ++ added, errors.trans (by rw [reported]; rfl), fun error member => ?_⟩
    exact (List.mem_append.1 member).elim (quiet error) (other error)

end Process

namespace SheetOutside

def change : Changes := .list [.record (.ofPath "a.css")]

def oneDeep : GivenOptions := .record options

theorem root_down : ∀ name ∈ root.names, Downward name := by
  intro name member
  rw [List.mem_singleton.1 member]
  exact ⟨by decide, by decide, by decide⟩

theorem change_within : change.KeepTo root := by
  apply changes_keep (by decide) root_down
  intro changed normal file member
  have listed : change.normalized = .ok [.ofPath "a.css"] := rfl
  rw [listed, Except.ok.injEq] at normal
  subst normal
  rw [List.mem_singleton.1 member]
  decide

end SheetOutside

/-! The settings file in the working directory, beside the repository, is no text. Later it is
removed, other settings are shared, and another analyzer uses them. -/

namespace BrokenSettings

open SheetOutside (root change oneDeep)

def files : FileSystem := SheetOutside.around [([".prgraph.yaml"], .file [0xff])]

def mended : FileSystem := files.removeAt [".prgraph.yaml"]

def process : Process := ⟨SheetOutside.host files, fun _ => .ofSettings none⟩

def later : List Process.Step :=
  [.files mended, .share (some (Settings.initial.set .maxDepth (.int 0))), .start "other" none,
    .analyze "other" change root oneDeep]

def bad : BadBytes := ⟨0xff, 0, 1, "invalid start byte"⟩

theorem plain : files.PlainTree :=
  plain_tree_of_entries (by simp [files, SheetOutside.around]) (by decide)
    (by simp [files, SheetOutside.around])

theorem real_root : files.realPath root = root := SheetOutside.real_root plain

theorem mended_elsewhere : SameAround files mended root := by
  apply same_around_remove
  · rw [real_root]
    decide
  · exact fun place target _ => plain.no_links place target

theorem unreadable : process.host.sharedSettings = .error (.badBytes bad) := by
  have entry : files.entryAt ((⟨.root, []⟩ : Path).child ".prgraph.yaml") = .ok (.file [0xff]) :=
    entry_of_located (locate_name (by decide) (by decide) rfl (by simp)) rfl
  have file : files.isFile ((⟨.root, []⟩ : Path).child ".prgraph.yaml") = .ok true := by
    rw [isFile, ask, entry]
    rfl
  have found : Settings.firstIn? files [⟨.root, []⟩, ⟨.root, []⟩] =
      .ok (some ((⟨.root, []⟩ : Path).child ".prgraph.yaml")) := by
    rw [Settings.firstIn?, Settings.fileNames, Settings.fileIn?, file]
    rfl
  have document : Settings.readDocument files ((⟨.root, []⟩ : Path).child ".prgraph.yaml") =
      .error (.badBytes bad) := by
    have bytes : files.readBytes ((⟨.root, []⟩ : Path).child ".prgraph.yaml") = .ok [0xff] := by
      rw [readBytes, if_neg (by decide), entry]
    have broken : Utf8.decode [0xff] = .error bad := by
      rw [Utf8.decode, Utf8.decodeFrom]
      rfl
    rw [Settings.readDocument, exists?, ask, entry, Settings.readPlainText, bytes]
    dsimp only [bind, Except.bind]
    rw [broken]
    rfl
  have discovered : Settings.discover files ⟨.root, []⟩ [] none = .error (.badBytes bad) := by
    rw [Settings.discover]
    change (Settings.firstIn? files [⟨.root, []⟩, ⟨.root, []⟩] >>= _) = _
    rw [found]
    dsimp only [bind, Except.bind]
    rw [Settings.load, document]
    rfl
  change (Settings.discover files ⟨.root, []⟩ [] none >>= _) = _
  rw [discovered]
  rfl

/-- The analyzer that could not load its settings says so in its first result, and the repaired
settings and the other analyzer change nothing of what it finds. -/
theorem mended_settings_change_nothing :
    let before := process.after (.analyze "one" change root oneDeep)
    process.host.sharedSettings = .error (.badBytes bad) ∧
      before.LeavesAll "one" root later ∧
      (process.findings "one" change root oneDeep).errors.head? =
        some ("config: " ++ Fault.message (.badBytes bad)) ∧
      (before.run later).findings "one" change root oneDeep =
        before.findings "one" change root oneDeep := by
  intro before
  have spared : ∀ step ∈ ([] : List Process.Step), step.Spares "one" := by simp
  obtain ⟨steady, missing⟩ :=
    Process.steady_from_first_analysis process "one" change root oneDeep spared
  obtain ⟨initial, others, reported, -⟩ := missing _ rfl unreadable
  have unnamed : (((process.analyzers "one").prepare process.host).settings.value
      .logFile).truthy = false := by
    rw [initial]
    rfl
  obtain ⟨still, silent⟩ : before.host.files = files ∧ before.host.journal.file = none :=
    Analyzer.analyze_silent (rfl : process.host.journal.file = none) unnamed change root oneDeep
  have leaves : before.LeavesAll "one" root later := by
    refine ⟨?_, trivial, (by decide : "other" ≠ "one"), ?_, trivial⟩
    · change SameAround before.host.files mended root
      rw [still]
      exact mended_elsewhere
    · change (Settings.value (Analyzer.prepare _ _).settings .logFile).truthy = false
      rw [Analyzer.prepare_settings]
      rfl
  have around : PlainAround before.host.files root := by
    rw [still]
    exact plain.around root
  have real : before.host.files.realPath root = root := by
    rw [still, real_root]
  have keeps : ((process.analyzers "one").prepare process.host).settings.KeepsTo
      (before.host.files.realPath root) := by
    rw [initial, real]
    exact initial_keeps (by decide) SheetOutside.root_down
  have within : change.KeepTo (before.host.files.realPath root) := by
    rw [real]
    exact SheetOutside.change_within
  have same := steady.undisturbed change root oneDeep later silent leaves around keeps within
  refine ⟨unreadable, leaves, ?_, same⟩
  rw [reported]
  rfl

end BrokenSettings

/-! The settings name the working directory, which lies beside the repository, as a source root, and
let YAML files be scanned: a settings file that is added there is one of them. -/

namespace RootElsewhere

open SheetOutside (root change oneDeep)

def tree (settingsFile : List (Location × Entry)) : FileSystem where
  entries := (["repo"], .directory) :: (["cwd"], .directory) :: settingsFile
  workingDirectory := ["cwd"]
  platform := .ordinary

def files : FileSystem := tree []

def configured : FileSystem := files.put ["cwd", ".prgraph.yaml"] (.file [])

def folder : Path := ⟨.root, ["repo", "..", "cwd"]⟩

def settings : Settings :=
  (Settings.initial.set .sourceRoots (.list [.str "../cwd"])).set .scriptExtensions
    (.list [.str ".yaml"])

def repository (system : FileSystem) : Repository where
  system
  root
  settings
  extractor := ⟨[".yaml"], [".css", ".scss", ".sass", ".less"], Form.scriptForms, Form.styleForms⟩

def rules : WalkRules :=
  ⟨[".yaml", ".css", ".scss", ".sass", ".less"],
    ["node_modules", ".git", "dist", "build", ".next", "coverage"], false⟩

def request : Request := ⟨[.ofPath "a.css"], SheetOutside.options, root⟩

theorem plain : files.PlainTree :=
  plain_tree_of_entries (by simp [files, tree]) (by decide) (by
    intro name member
    rw [List.mem_singleton.1 member]
    exact ⟨by decide, by decide, by decide⟩)

theorem configured_plain : configured.PlainTree :=
  plain_tree_of_entries (by simp [configured, files, tree, put, put.place]) (by decide)
    plain.working

theorem real_root {system : FileSystem} (links : system.NoLinks) : system.realPath root = root := by
  rw [real_path_eq links]
  rfl

section Scanned

variable {held : List (Location × Entry)} {names : List String}

theorem follow_folder (held : List (Location × Entry)) (rest : List String) :
    (tree held).follow true mostLinks [] ("repo" :: ".." :: "cwd" :: rest) =
      (tree held).follow true mostLinks ["cwd"] rest := by
  have repo : (tree held).lookup? ["repo"] = some .directory := rfl
  have cwd : (tree held).lookup? ["cwd"] = some .directory := rfl
  rw [follow_name rfl (by decide) (by decide) repo (by simp), follow_up rfl]
  exact follow_name rfl (by decide) (by decide) cwd (by simp) rest

theorem folder_place (held : List (Location × Entry)) :
    (tree held).locate folder = .ok ["cwd"] := by
  refine located_iff.2 ⟨by decide, ?_⟩
  change (tree held).follow true mostLinks [] ["repo", "..", "cwd"] = _
  rw [follow_folder]
  exact follow_nothing true mostLinks ["cwd"]

theorem listed (inside : (tree held).names ["cwd"] = names)
    (files : ∀ name ∈ names, ∃ content, (tree held).lookup? ["cwd", name] = some (.file content)) :
    (repository (tree held)).sourceFiles = .ok (((names.filter rules.wants).map
      folder.child).eraseDups.filterMap fun place =>
        (Path.below? root place).map fun path => (place, path)) := by
  have there : (tree held).isDirectory folder = .ok true :=
    directory_of_located (folder_place held) rfl
  have named : ((repository (tree held)).settings.value .sourceRoots).elements =
      .ok [.str "../cwd"] := rfl
  have searched := Repository.search_root_of_name named there
  exact Repository.source_files_of_root searched rfl
    (walk_files there (folder_place held) inside files)

end Scanned

theorem counted {system : FileSystem} (links : system.NoLinks)
    {scanned : List (String × List String)}
    (scan : (repository system).scannedImports = .ok scanned) :
    (ImportImpact.analyze system settings change root oneDeep []).stats.map
      (·.counts.filesScanned) = some scanned.length := by
  have normal : change.normalized = .ok request.changed := rfl
  have accepted : Request.ofInput system settings change root oneDeep = .ok request := by
    rw [Request.ofInput, normal, settle_eq links, real_root links]
    rfl
  have made : Repository.ofSettings system request.root settings = .ok (repository system) := rfl
  have paths : request.paths = ["a.css"] := by decide
  have crawled : (repository system).crawl request.paths request.options.maxDepth =
      .ok ⟨.search (.ofImports scanned) (seeds ["a.css"]) 1, scanned.length⟩ := by
    rw [paths, Repository.crawl, if_neg (by decide), scan]
    rfl
  have found : (request.runStages system settings).crawl? =
      some ⟨.search (.ofImports scanned) (seeds ["a.css"]) 1, scanned.length⟩ := by
    change ((Repository.ofSettings system request.root settings).bind
      (·.crawl request.paths request.options.maxDepth)).toOption = _
    rw [made]
    change ((repository system).crawl request.paths request.options.maxDepth).toOption = _
    rw [crawled]
    rfl
  rw [ImportImpact.analyze, Run.completed_iff.2 ⟨accepted, rfl⟩]
  change some (Assembly.make _ _ (((request.runStages system settings).crawl?.map
    Crawl.findings).getD .none) request.paths).counts.filesScanned = _
  rw [found]
  rfl

theorem nothing_scanned : (repository files).scannedImports = .ok [] := by
  have empty : files.names ["cwd"] = [] := names_of_written (by decide) (by decide)
  have sources : (repository files).sourceFiles = .ok [] := listed empty (by simp)
  exact Repository.scanned_imports_ok_iff.2 ⟨[], sources, rfl⟩

theorem settings_file_scanned :
    (repository configured).scannedImports = .ok [("../cwd/.prgraph.yaml", [])] := by
  have one : configured.names ["cwd"] = [".prgraph.yaml"] :=
    names_of_written (by decide) (by decide)
  have there : configured.lookup? ["cwd", ".prgraph.yaml"] = some (.file []) := rfl
  have sources : (repository configured).sourceFiles =
      .ok [(folder.child ".prgraph.yaml", "../cwd/.prgraph.yaml")] := by
    have wanted : [".prgraph.yaml"].filter rules.wants = [".prgraph.yaml"] := by decide
    have files : ∀ name ∈ [".prgraph.yaml"], ∃ content,
        configured.lookup? ["cwd", name] = some (.file content) := by
      intro name member
      rw [List.mem_singleton.1 member]
      exact ⟨[], there⟩
    have found := listed one files
    rw [wanted] at found
    exact found
  have entry : configured.entryAt (folder.child ".prgraph.yaml") = .ok (.file []) := by
    refine entry_of_located (located_iff.2 ⟨by decide, ?_⟩) there
    change (tree _).follow true mostLinks [] ["repo", "..", "cwd", ".prgraph.yaml"] = _
    rw [follow_folder]
    exact (follow_name rfl (by decide) (by decide) there (by simp) []).trans
      (follow_nothing true mostLinks _)
  have text : (repository configured).text? (folder.child ".prgraph.yaml") = .ok (some "") :=
    Repository.text_of_file entry rfl rfl rfl
  have none : (repository configured).extractor.extract "" "../cwd/.prgraph.yaml" = [] := by
    change (repository files).extractor.extract "" "../cwd/.prgraph.yaml" = []
    decide +kernel
  have imports : (repository configured).imports (folder.child ".prgraph.yaml")
      "../cwd/.prgraph.yaml" = .ok [] := Repository.imports_of_text text none
  refine Repository.scanned_imports_ok_iff.2 ⟨_, sources, ?_⟩
  rw [List.mapM_cons, Repository.scan, imports]
  rfl

def process : Process := ⟨{ SheetOutside.host files with home := ⟨.root, ["cwd"]⟩ },
  fun _ => .ofSettings (some settings)⟩

/-- The settings file lies outside the repository, and adding it is all that happens between two
analyses; but the second of them scans it. -/
theorem added_settings_file_is_scanned :
    let before := process.after (.analyze "one" change root oneDeep)
    let later := [Process.Step.files configured]
    before.host.journal.file = none ∧ before.LeavesAll "one" root later ∧
      PlainAround before.host.files root ∧
      change.KeepTo (before.host.files.realPath root) ∧
      (before.findings "one" change root oneDeep).stats.map (·.counts.filesScanned) =
        some 0 ∧
      ((before.run later).findings "one" change root oneDeep).stats.map
        (·.counts.filesScanned) = some 1 := by
  intro before later
  have kept : ((process.analyzers "one").prepare process.host).settings = settings := by
    rw [Analyzer.prepare_settings]
    rfl
  have unnamed : (((process.analyzers "one").prepare process.host).settings.value
      .logFile).truthy = false := by
    rw [kept]
    rfl
  obtain ⟨still, silent⟩ : before.host.files = files ∧ before.host.journal.file = none :=
    Analyzer.analyze_silent (rfl : process.host.journal.file = none) unnamed change root oneDeep
  have used : before.analyzers "one" = ⟨some settings, true⟩ :=
    kept ▸ Process.used_of_analyzed process "one" change root oneDeep
  have usedToo : (before.run later).analyzers "one" = ⟨some settings, true⟩ :=
    Process.used_run used (by simp [later, Process.Step.Spares])
  have same : SameAround files configured root := by
    apply same_around_put
    · rw [real_root plain.no_links]
      decide
    · exact plain.no_links _
  refine ⟨silent, ⟨?_, trivial⟩, ?_, ?_, ?_, ?_⟩
  · change SameAround before.host.files configured root
    rw [still]
    exact same
  · rw [still]
    exact plain.around root
  · rw [still, real_root plain.no_links]
    exact SheetOutside.change_within
  · rw [Process.findings, Analyzer.findings_of_used used, still]
    exact counted plain.no_links nothing_scanned
  · rw [Process.findings, Analyzer.findings_of_used usedToo]
    exact counted configured_plain.no_links settings_file_scanned

end RootElsewhere

end ImportImpact
