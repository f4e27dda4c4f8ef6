import ImportImpact.Analysis.Options
import ImportImpact.Analysis.Repository
import ImportImpact.FileSystem.RealPath

/-!
One analysis: the edges among the changed files, the files affected by them, and the faults of
the two stages. A stage that fails costs its own findings only. Input that makes no sense is
rejected before any stage runs.
-/

namespace ImportImpact

structure Stats where
  counts : Counts
  changedFiles : Nat
  maxDepth : Nat

/-- The findings of an analysis; without stats the input was rejected. -/
structure Findings where
  edges : List Edge
  affected : List String
  stats : Option Stats
  errors : List String

namespace Findings

structure Summary where
  changedFiles : Nat
  affectedFiles : Nat
  dependencies : Nat
  filesScanned : Nat
  errors : Nat
  deriving DecidableEq

def summary (findings : Findings) : Summary :=
  { changedFiles := (findings.stats.map Stats.changedFiles).getD 0
    affectedFiles := findings.affected.length
    dependencies := findings.edges.length
    filesScanned := (findings.stats.map fun stats => stats.counts.filesScanned).getD 0
    errors := findings.errors.length }

end Findings

structure Request where
  changed : List ChangedFile
  options : Options
  root : Path

def Request.ofInput (system : FileSystem) (settings : Settings) (changes : Changes) (root : Path)
    (options : GivenOptions) : Outcome Request := do
  let changed ← changes.normalized
  let options ← options.complete settings
  let root ← system.settle root
  pure ⟨changed, options, root⟩

structure Stages where
  forward : Outcome (List Edge)
  reverse : Option (Outcome Crawl)

namespace Request

def paths (request : Request) : List String := request.changed.map ChangedFile.path

def runStages (request : Request) (system : FileSystem) (settings : Settings) : Stages :=
  let repository := Repository.ofSettings system request.root settings
  { forward := repository.bind (·.forwardEdges request.paths)
    reverse :=
      if request.options.includeReverse.truthy then
        some (repository.bind (·.crawl request.paths request.options.maxDepth))
      else none }

end Request

def faultText {α : Type} (stage : String) : Outcome α → List String
  | .ok _ => []
  | .error fault => [stage ++ ": " ++ fault.message]

namespace Stages

def errors (stages : Stages) : List String :=
  faultText "forward" stages.forward ++
    (stages.reverse.map (faultText "reverse")).getD []

def forwardEdges (stages : Stages) : List Edge := stages.forward.toOption.getD []

def crawl? (stages : Stages) : Option Crawl := stages.reverse.bind Except.toOption

def findings (stages : Stages) (request : Request) (deduplicate : Bool) : Findings :=
  let reverse := (stages.crawl?.map Crawl.findings).getD .none
  let assembly := Assembly.make deduplicate stages.forwardEdges reverse request.paths
  { edges := assembly.edges
    affected := assembly.affected
    stats := some ⟨assembly.counts, request.changed.length, request.options.maxDepth⟩
    errors := stages.errors }

end Stages

inductive Run where
  | rejected (fault : Fault)
  | completed (request : Request) (stages : Stages)

namespace Run

def ofInput (system : FileSystem) (settings : Settings) (changes : Changes) (root : Path)
    (options : GivenOptions) : Run :=
  match Request.ofInput system settings changes root options with
  | .error fault => .rejected fault
  | .ok request => .completed request (request.runStages system settings)

/-- The findings; `errors` come from the preparation of the analysis. -/
def findings (deduplicate : Bool) (errors : List String) : Run → Findings
  | .rejected fault => ⟨[], [], none, errors ++ [fault.message]⟩
  | .completed request stages =>
      let findings := stages.findings request deduplicate
      { findings with errors := errors ++ findings.errors }

end Run

def analyze (system : FileSystem) (settings : Settings) (changes : Changes) (root : Path)
    (options : GivenOptions) (errors : List String) : Findings :=
  (Run.ofInput system settings changes root options).findings
    (settings.value .deduplicateEdges).truthy errors

end ImportImpact
