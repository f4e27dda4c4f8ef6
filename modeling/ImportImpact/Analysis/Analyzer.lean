import ImportImpact.Analysis.Basic
import ImportImpact.Host

/-!
An analyzer keeps the settings of its first analysis: those it was made with, else the shared
ones, else the initial ones with the fault reported. It sets up the journal once. An analysis
never fails; what went wrong is among its findings.
-/

namespace ImportImpact

namespace Run

def engine : String := "prgraph.engine"

def crawler : String := "prgraph.dependencies.reverse"

def rootMissing (system : FileSystem) (settings : Settings) (root : Path) : Bool :=
  match (Repository.ofSettings system root settings).bind Repository.searchRoots with
  | .ok [] => true
  | _ => false

def forwardRecords : Outcome (List Edge) → List Record
  | .ok _ => []
  | .error fault => [⟨engine, Level.error, s!"Forward linking failed: {fault.message}"⟩]

def foundRecord (crawl : Crawl) (depth : Nat) : Record :=
  let affected := crawl.found.affected.length
  let edges := crawl.found.edges.length
  ⟨crawler, Level.info,
    s!"Reverse crawl found {affected} affected files ({edges} edges, depth <= {depth})"⟩

/-- With nothing to start from, or no depth, a crawl says nothing unless it fails. -/
def reverseRecords (system : FileSystem) (settings : Settings) (request : Request) :
    Option (Outcome Crawl) → List Record
  | none => []
  | some outcome =>
      let searched := !(seeds request.paths).isEmpty && request.options.maxDepth ≠ 0
      let missing :=
        if searched && rootMissing system settings request.root then
          [⟨crawler, Level.warning, s!"Repository root does not exist: {request.root.text}"⟩]
        else []
      missing ++ match outcome with
        | .ok crawl => if searched then [foundRecord crawl request.options.maxDepth] else []
        | .error fault => [⟨engine, Level.error, s!"Reverse crawl failed: {fault.message}"⟩]

def records (system : FileSystem) (settings : Settings) (deduplicate : Bool) :
    Run → List Record
  | .rejected fault => [⟨engine, Level.error, s!"Invalid analysis input: {fault.message}"⟩]
  | .completed request stages =>
      let findings := stages.findings request deduplicate
      let changed := request.changed.length
      let root := request.root.text
      let edges := findings.edges.length
      let affected := findings.affected.length
      ⟨engine, Level.info, s!"Analyzing {changed} changed files in {root}"⟩ ::
        forwardRecords stages.forward ++
        reverseRecords system settings request stages.reverse ++
        [⟨engine, Level.info, s!"Analysis complete: {edges} edges, {affected} affected files"⟩]

end Run

structure Analyzer where
  settings : Option Settings
  journalReady : Bool

namespace Analyzer

def ofSettings (settings : Option Settings) : Analyzer := ⟨settings, false⟩

/-- The state before an analysis: settings that hold, the host, and faults so far. -/
structure Prepared where
  settings : Settings
  host : Host
  errors : List String

/-- Finds the settings. Without any that can be loaded the initial ones hold. -/
def findSettings (analyzer : Analyzer) (host : Host) : Prepared :=
  match analyzer.settings with
  | some settings => ⟨settings, host, []⟩
  | none => match host.sharedSettings with
    | .ok (settings, host) => ⟨settings, host, []⟩
    | .error fault =>
        let message := s!"Could not load configuration, using defaults: {fault.message}"
        ⟨.initial, host.log ⟨Run.engine, Level.error, message⟩, ["config: " ++ fault.message]⟩

def journalConfiguration (settings : Settings) (terminal : Bool) : Journal.Configuration :=
  { level := settings.value .logLevel
    layout := settings.value .logFormat
    file := settings.value .logFile
    megabytes := settings.value .logFileSize
    backups := settings.value .logBackups
    terminal }

def prepareJournal (prepared : Prepared) : Prepared :=
  let configuration := journalConfiguration prepared.settings prepared.host.terminal
  match prepared.host.configureJournal configuration with
  | (host, none) => { prepared with host }
  | (host, some fault) =>
      let message := s!"Could not configure logging: {fault.message}"
      { prepared with
        host := host.log ⟨Run.engine, Level.error, message⟩
        errors := prepared.errors ++ ["logging: " ++ fault.message] }

def prepare (analyzer : Analyzer) (host : Host) : Prepared :=
  let prepared := analyzer.findSettings host
  if analyzer.journalReady then prepared else prepareJournal prepared

structure Analyzed where
  findings : Findings
  analyzer : Analyzer
  settings : Settings
  host : Host

def analyze (analyzer : Analyzer) (host : Host) (changes : Changes) (root : Path)
    (options : GivenOptions) : Analyzed :=
  let prepared := analyzer.prepare host
  let settings := prepared.settings
  let deduplicate := (settings.value .deduplicateEdges).truthy
  let run := Run.ofInput prepared.host.files settings changes root options
  { findings := run.findings deduplicate prepared.errors
    analyzer := ⟨some settings, true⟩
    settings
    host := prepared.host.logAll (run.records prepared.host.files settings deduplicate) }

end Analyzer

end ImportImpact
