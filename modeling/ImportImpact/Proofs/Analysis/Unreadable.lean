import ImportImpact.Platform.Ordinary
import ImportImpact.Proofs.Analysis.Locality
import ImportImpact.Proofs.FileSystem.Emptied

/-!
Files that cannot be read. An analysis passes over the text of a file that is too large or that no
encoding fits, and takes it for what it is otherwise: a file that is scanned, changed or imported.
So it finds the same where such files are empty, as long as empty files can be read at all.
-/

namespace ImportImpact

open FileSystem Outcome

section Reading

variable {system : FileSystem} {rules : ReadingRules} {content : List UInt8} {place : Path}

theorem exceeds_defined {size : Nat} {megabytes : Value} {larger : Bool}
    (given : exceeds size megabytes = .ok larger) (other : Nat) :
    ∃ answer, exceeds other megabytes = .ok answer := by
  cases megabytes with
  | null => exact ⟨_, rfl⟩
  | bool truth => exact ⟨_, rfl⟩
  | int number => exact ⟨_, rfl⟩
  | float number => exact ⟨_, rfl⟩
  | _ => cases given

theorem exceeds_fault {size : Nat} {megabytes : Value} {fault : Fault}
    (failed : exceeds size megabytes = .error fault) : fault.ofReading = false := by
  cases megabytes <;> cases failed <;> rfl

theorem fallback_names_fault {fallbacks : Value} {fault : Fault}
    (failed : fallbackNames fallbacks = .error fault) : fault.ofReading = false := by
  cases fallbacks <;> cases failed <;> rfl

theorem decode_fault {platform : Platform} {encodings : List Value} {fault : Fault}
    (failed : decodeFirst platform content encodings = .error fault) :
    fault.ofReading = false := by
  induction encodings with
  | nil => cases failed
  | cons encoding rest induction =>
      cases encoding with
      | str name =>
          rw [decodeFirst] at failed
          split at failed
          · cases failed
            rfl
          · split at failed
            · cases failed
            · split at failed
              · cases failed
              · exact induction failed
              · cases failed
                rfl
      | _ =>
          cases failed
          rfl

/-- A file is refused for its content, or it can be read, or the settings are of no use. -/
theorem refuses_iff (held : system.contentAt place = .ok content) :
    rules.Refuses system.platform content ↔
      ∃ fault, system.readText rules place = .error fault ∧ fault.ofReading = true := by
  rw [readText, held, ReadingRules.Refuses]
  simp only [bind, Except.bind]
  cases exceeded : exceeds content.length rules.largest with
  | error fault => simp [exceeds_fault exceeded]
  | ok larger =>
      cases larger with
      | true => simp [throw, throwThe, MonadExceptOf.throw, Fault.ofReading]
      | false =>
          cases listed : fallbackNames rules.fallbacks with
          | error fault => simp [fallback_names_fault listed]
          | ok fallbacks =>
              cases decoded : decodeFirst system.platform content (rules.encoding :: fallbacks) with
              | error fault => simp [decoded, decode_fault decoded]
              | ok text =>
                  cases text <;>
                    simp [decoded, pure, Except.pure, throw, throwThe, MonadExceptOf.throw,
                      Fault.ofReading]

theorem read_of_nothing {name : String} {fallbacks : List Value}
    (held : system.contentAt place = .ok []) (refuses : rules.Refuses system.platform content)
    (named : rules.encoding = .str name) (plain : name.toList.contains '\x00' = false)
    (listed : fallbackNames rules.fallbacks = .ok fallbacks) :
    system.readText rules place = .ok "" ∨
      system.readText rules place = .error (.tooLarge place.text) := by
  have compared : ∃ larger, exceeds ([] : List UInt8).length rules.largest = .ok larger := by
    rcases refuses with larger | ⟨small, -⟩
    · exact exceeds_defined larger _
    · exact exceeds_defined small _
  obtain ⟨larger, compared⟩ := compared
  rw [readText, held]
  simp only [bind, Except.bind, compared]
  cases larger with
  | true => exact Or.inr rfl
  | false =>
      left
      rw [listed, named]
      dsimp only [decodeFirst]
      rw [plain]
      rfl

end Reading

def Settings.readingRules (settings : Settings) : ReadingRules where
  encoding := settings.value .encoding
  fallbacks := settings.value .fallbackEncodings
  largest := settings.value .maxFileSize

/-- The encodings are texts, and an empty file can be read in the first of them. -/
structure Settings.ReadEmptyFiles (settings : Settings) : Prop where
  encoding : ∃ name, settings.value .encoding = .str name ∧ name.toList.contains '\x00' = false
  fallbacks : ∃ fallbacks, fallbackNames (settings.value .fallbackEncodings) = .ok fallbacks

namespace Repository

variable {repository : Repository} {other : FileSystem}

theorem specifiers_of_nothing (extractor : Extractor) (path : String) :
    extractor.extract "" path = [] := by
  have none (form : Form) : form.specifiers [] = [] := by
    rw [Form.specifiers, Form.specifiersFrom]
  unfold Extractor.extract
  split
  · rfl
  · simp [none]

/-- The text of a file is the same in both trees, or there are no imports in it in either. -/
theorem text_cases (reads : repository.settings.ReadEmptyFiles)
    (emptied : EmptiedTo repository.readingRules.Refuses repository.system other) (place : Path) :
    (repository.onSystem other).text? place = repository.text? place ∨
      repository.text? place = .ok none ∧
        ((repository.onSystem other).text? place = .ok none ∨
          (repository.onSystem other).text? place = .ok (some "")) := by
  rcases emptied.content_cases place with same | ⟨content, refused, held, nothing⟩
  · exact Or.inl (text_congr emptied.platform.symm same)
  · right
    obtain ⟨fault, failed, passed⟩ := (refuses_iff held).1 refused
    obtain ⟨⟨name, named, plain⟩, fallbacks, listed⟩ := reads
    have unread : repository.text? place = .ok none := by
      rw [text?, failed]
      exact if_pos passed
    refine ⟨unread, ?_⟩
    have read : (repository.onSystem other).system.readText
        (repository.onSystem other).readingRules place = .ok "" ∨
          (repository.onSystem other).system.readText
            (repository.onSystem other).readingRules place = .error (.tooLarge place.text) :=
      read_of_nothing nothing (emptied.platform ▸ refused) named plain listed
    rw [text?]
    rcases read with read | large
    · rw [read]
      exact Or.inr rfl
    · rw [large]
      exact Or.inl rfl

theorem resolve_all_over (shape : SameShape repository.system other) (importer : String)
    (specifiers : List String) :
    resolveAll (repository.onSystem other).resolver importer specifiers =
      resolveAll repository.resolver importer specifiers := by
  have files (path : String) :
      (repository.onSystem other).resolver.hasFile path = repository.resolver.hasFile path := by
    rw [Bool.eq_iff_iff, Resolver.has_file_iff, Resolver.has_file_iff]
    change other.isFile (repository.root.join path) = _ ↔
      repository.system.isFile (repository.root.join path) = _
    rw [shape.file_asked]
  have led (specifier : String) :
      (repository.onSystem other).resolver.resolve specifier importer =
        repository.resolver.resolve specifier importer := by
    apply Resolver.resolve_over
    · rfl
    · rfl
    · exact files
  induction specifiers with
  | nil => rfl
  | cons specifier rest induction => rw [resolveAll, resolveAll, led, induction]

theorem imports_over (reads : repository.settings.ReadEmptyFiles)
    (emptied : EmptiedTo repository.readingRules.Refuses repository.system other) (place : Path)
    (path : String) :
    (repository.onSystem other).imports place path = repository.imports place path := by
  have resolved := resolve_all_over emptied.shape path
  rw [imports, imports]
  rcases text_cases reads emptied place with same | ⟨refused, nothing | empty⟩
  · rw [same]
    cases repository.text? place with
    | error fault => rfl
    | ok read =>
        cases read with
        | none => rfl
        | some text => exact resolved (repository.extractor.extract text path)
  · rw [refused, nothing]
    rfl
  · rw [refused, empty]
    change resolveAll _ path ((repository.onSystem other).extractor.extract "" path) = _
    rw [specifiers_of_nothing]
    rfl

variable (reads : repository.settings.ReadEmptyFiles)
  (emptied : EmptiedTo repository.readingRules.Refuses repository.system other)

include reads emptied

theorem forward_edges_over (changed : List String) :
    (repository.onSystem other).forwardEdges changed = repository.forwardEdges changed := by
  have linked (path : String) : (repository.onSystem other).forwardEdgesOf changed path =
      repository.forwardEdgesOf changed path := by
    have imported := imports_over reads emptied (repository.root.join path) path
    rw [forwardEdgesOf, forwardEdgesOf]
    dsimp only [onSystem] at imported ⊢
    rw [imported]
  rw [forwardEdges, forwardEdges, map_all_congr fun path _ => linked path]

theorem scanned_imports_over :
    (repository.onSystem other).scannedImports = repository.scannedImports := by
  have roots : (repository.onSystem other).searchRoots = repository.searchRoots :=
    search_roots_congr fun directory _ => emptied.shape.directory_asked directory
  have scans (file : Path × String) :
      (repository.onSystem other).scan file = repository.scan file := by
    rw [scan, scan, imports_over reads emptied]
  have names (places : List Path) :
      (repository.onSystem other).named places = repository.named places := rfl
  rw [scannedImports, scannedImports, roots]
  apply bind_congr_ok
  intro found _
  have walks : (repository.onSystem other).walked found = repository.walked found :=
    walked_congr fun rules directory _ => emptied.shape.walked rules directory
  dsimp only
  rw [walks, names, map_all_congr fun file _ => scans file]

theorem crawl_over (changed : List String) (depth : Nat) :
    (repository.onSystem other).crawl changed depth = repository.crawl changed depth := by
  rw [crawl, crawl, scanned_imports_over reads emptied]

end Repository

section Analysis

variable {settings : Settings}

theorem Run.of_input_over {first second : FileSystem} (reads : settings.ReadEmptyFiles)
    (emptied : EmptiedTo settings.readingRules.Refuses first second) (changes : Changes)
    (root : Path) (options : GivenOptions) :
    Run.ofInput second settings changes root options =
      Run.ofInput first settings changes root options := by
  have accepted : Request.ofInput second settings changes root options =
      Request.ofInput first settings changes root options := by
    rw [Request.ofInput, Request.ofInput, emptied.shape.settled]
  rw [Run.ofInput, Run.ofInput, accepted]
  cases Request.ofInput first settings changes root options with
  | error fault => rfl
  | ok request =>
      have same : request.runStages second settings = request.runStages first settings := by
        apply Request.stages_over
        intro repository made
        obtain ⟨rfl, -, rfl⟩ := Repository.of_settings_ok made
        exact ⟨Repository.forward_edges_over reads emptied _,
          Repository.crawl_over reads emptied _ _⟩
      dsimp only
      rw [same]

namespace Analyzer

variable {analyzer : Analyzer} {host : Host}

theorem find_settings_known (known : analyzer.settings.or host.shared = some settings) :
    analyzer.findSettings host = ⟨settings, host, []⟩ := by
  unfold findSettings
  cases own : analyzer.settings with
  | some given =>
      rw [own, Option.some_or, Option.some.injEq] at known
      rw [known]
  | none =>
      rw [own, Option.none_or] at known
      dsimp only
      rw [Host.sharedSettings, known]

theorem prepare_over (known : analyzer.settings.or host.shared = some settings)
    {refused : Platform → List UInt8 → Prop} {other : FileSystem}
    (emptied : EmptiedTo refused host.files other) :
    (analyzer.prepare host).settings = settings ∧
      (analyzer.prepare { host with files := other }).settings = settings ∧
      (analyzer.prepare { host with files := other }).errors = (analyzer.prepare host).errors ∧
      EmptiedTo refused (analyzer.prepare host).host.files
        (analyzer.prepare { host with files := other }).host.files := by
  have knownToo : analyzer.settings.or { host with files := other }.shared = some settings := known
  unfold prepare
  rw [find_settings_known known, find_settings_known knownToo]
  dsimp only
  split
  · exact ⟨rfl, rfl, rfl, emptied⟩
  · obtain ⟨kept, files, errors⟩ := prepare_journal_eq ⟨settings, host, []⟩
    obtain ⟨keptToo, filesToo, errorsToo⟩ :=
      prepare_journal_eq ⟨settings, { host with files := other }, []⟩
    obtain ⟨fault, grown⟩ := emptied.configured host.clock.logTime
      (journalConfiguration settings host.terminal)
    refine ⟨kept, keptToo, ?_, ?_⟩
    · rw [errors, errorsToo, fault]
    · rw [files, filesToo]
      exact grown

end Analyzer

/-- A file that is refused, for its size or because no encoding fits, gives an analysis nothing but
its place: emptying such files changes nothing that is found, as long as the name of the first
encoding can be looked up at all, which is not the case for a name with a NUL in it. -/
theorem refused_files_keep_their_place (analyzer : Analyzer) (host : Host)
    (known : analyzer.settings.or host.shared = some settings) (reads : settings.ReadEmptyFiles)
    {chosen : Location → Bool}
    (refused : ∀ location content, chosen location = true →
      host.files.lookup? location = some (.file content) →
        settings.readingRules.Refuses host.files.platform content)
    (changes : Changes) (root : Path) (options : GivenOptions) :
    (analyzer.analyze { host with files := host.files.emptied chosen } changes root
        options).findings =
      (analyzer.analyze host changes root options).findings := by
  obtain ⟨kept, keptToo, errors, emptied⟩ :=
    Analyzer.prepare_over known (emptied_to_of_refused refused)
  rw [Analyzer.analyze, Analyzer.analyze]
  simp only [kept, keptToo, errors, Run.of_input_over reads emptied]

end Analysis

namespace PairOfSheets

def spoiled : FileSystem where
  entries := [(["a.css"], .file [0xff]), (["b.css"], .file (Utf8.ofString "@use '/a.css'"))]
  workingDirectory := []
  platform := .ordinary

def strict : Settings := settings.set .fallbackEncodings (.list [])

def used (location : Location) : Bool := location = ["a.css"]

/-- The other sheet finds the used one, whether or not that can be read. -/
theorem spoiled_sheet_keeps_its_place :
    strict.readingRules.Refuses .ordinary [0xff] ∧ strict.ReadEmptyFiles ∧
      spoiled.emptied used = files ∧
      ((⟨some strict, true⟩ : Analyzer).analyze host changes ⟨.root, []⟩
          (.record request.options)).findings =
        ((⟨some strict, true⟩ : Analyzer).analyze { host with files := spoiled } changes ⟨.root, []⟩
          (.record request.options)).findings := by
  have spoils : strict.readingRules.Refuses .ordinary [0xff] := Or.inr ⟨rfl, [], rfl, rfl⟩
  have reads : strict.ReadEmptyFiles := ⟨⟨"ascii", rfl, by decide⟩, [], rfl⟩
  have refused : ∀ location content, used location = true →
      spoiled.lookup? location = some (.file content) →
        strict.readingRules.Refuses .ordinary content := by
    intro location content picked there
    rw [of_decide_eq_true picked] at there
    cases there
    exact spoils
  have emptied : spoiled.emptied used = files := rfl
  have same := refused_files_keep_their_place (⟨some strict, true⟩ : Analyzer)
    { host with files := spoiled } rfl reads refused changes ⟨.root, []⟩ (.record request.options)
  rw [emptied] at same
  exact ⟨spoils, reads, emptied, same⟩

end PairOfSheets

namespace UnusableEncoding

def files (content : List UInt8) : FileSystem where
  entries := [(["a.js"], .file content)]
  workingDirectory := []
  platform := .ordinary

/-- The name of the first encoding cannot be looked up, and files must be empty to be read. -/
def settings : Settings :=
  (Settings.initial.set .encoding (.str "\x00")).set .maxFileSize (.int 0)

def host (content : List UInt8) : Host := { PairOfSheets.host with files := files content }

def analyzer : Analyzer := ⟨some settings, true⟩

def changes : Changes := .list [.record (.ofPath "a.js")]

def request : Request := ⟨[.ofPath "a.js"], ⟨.bool false, 2⟩, ⟨.root, []⟩⟩

def repository (content : List UInt8) : Repository where
  system := files content
  root := ⟨.root, []⟩
  settings
  extractor := ⟨[".js", ".ts", ".jsx", ".tsx", ".svelte", ".mjs", ".cjs", ".vue"],
    [".css", ".scss", ".sass", ".less"], Form.scriptForms, Form.styleForms⟩

theorem held (content : List UInt8) :
    (files content).contentAt ⟨.root, ["a.js"]⟩ = .ok content := by
  have place : (files content).locate ⟨.root, ["a.js"]⟩ = .ok ["a.js"] :=
    locate_name (by decide) (by decide) rfl (by simp)
  rw [contentAt, entry_of_located place rfl]

theorem linked {content : List UInt8} {outcome : Outcome (Option String)}
    (read : (repository content).text? ⟨.root, ["a.js"]⟩ = outcome)
    (none : ∀ text, outcome ≠ .ok (some text)) :
    (repository content).forwardEdges ["a.js"] = outcome.map fun _ => [] := by
  have script : (repository content).extractor.categorize "a.js" = some .script := by
    change Extractor.categorize (repository []).extractor "a.js" = _
    decide
  have place : (repository content).root.join "a.js" = ⟨.root, ["a.js"]⟩ := rfl
  rw [Repository.forwardEdges, List.mapM_cons, Repository.forwardEdgesOf, script]
  dsimp only
  rw [place, Repository.imports, read]
  cases outcome with
  | error fault => rfl
  | ok text =>
      cases text with
      | none => rfl
      | some text => exact absurd rfl (none text)

theorem large_linked : (repository [0x78]).forwardEdges ["a.js"] = .ok [] := by
  have large : (repository [0x78]).system.readText (repository [0x78]).readingRules
      ⟨.root, ["a.js"]⟩ = .error (.tooLarge "/a.js") := by
    change (files [0x78]).readText settings.readingRules ⟨.root, ["a.js"]⟩ = _
    rw [readText, held]
    rfl
  have read : (repository [0x78]).text? ⟨.root, ["a.js"]⟩ = .ok none := by
    rw [Repository.text?, large]
    rfl
  exact linked read (by simp)

theorem empty_not_linked : (repository []).forwardEdges ["a.js"] = .error .nulCharacter := by
  have failed : (repository []).system.readText (repository []).readingRules
      ⟨.root, ["a.js"]⟩ = .error .nulCharacter := by
    change (files []).readText settings.readingRules ⟨.root, ["a.js"]⟩ = _
    rw [readText, held]
    rfl
  have read : (repository []).text? ⟨.root, ["a.js"]⟩ = .error .nulCharacter := by
    rw [Repository.text?, failed]
    rfl
  exact linked read (by simp)

theorem analyzed (content : List UInt8) :
    (analyzer.analyze (host content) changes ⟨.root, []⟩
        (.record request.options)).findings.errors =
      faultText "forward" ((repository content).forwardEdges ["a.js"]) := by
  have normal : changes.normalized = .ok request.changed := rfl
  have accepted : Request.ofInput (files content) settings changes ⟨.root, []⟩
      (.record request.options) = .ok request := by
    rw [Request.ofInput, normal]
    change ((files content).settle ⟨.root, []⟩ >>= fun root =>
      (pure ⟨request.changed, request.options, root⟩ : Outcome Request)) = _
    rw [settle_root]
    rfl
  have completed := Run.completed_iff.2 ⟨accepted, rfl⟩
  have paths : request.paths = ["a.js"] := by decide
  change ((Run.ofInput (files content) settings changes ⟨.root, []⟩
    (.record request.options)).findings true []).errors = _
  rw [completed]
  change [] ++ (faultText "forward" ((repository content).forwardEdges request.paths) ++ []) = _
  rw [paths, List.nil_append, List.append_nil]

/-- The file is refused for its size, and the analysis passes over it; emptied, it is small enough
to be read, and the linking stops at the name of the encoding. -/
theorem emptied_file_stops_linking :
    settings.readingRules.Refuses .ordinary [0x78] ∧
      (files [0x78]).emptied (fun _ => true) = files [] ∧
      (analyzer.analyze (host [0x78]) changes ⟨.root, []⟩
        (.record request.options)).findings.errors = [] ∧
      (analyzer.analyze (host []) changes ⟨.root, []⟩
        (.record request.options)).findings.errors = ["forward: embedded null character"] := by
  refine ⟨Or.inl rfl, rfl, ?_, ?_⟩
  · rw [analyzed, large_linked]
    rfl
  · rw [analyzed, empty_not_linked]
    rfl

end UnusableEncoding

end ImportImpact
