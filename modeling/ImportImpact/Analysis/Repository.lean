import ImportImpact.Change.ChangedFile
import ImportImpact.FileSystem.ReadText
import ImportImpact.FileSystem.Walk
import ImportImpact.Graph.Assembly
import ImportImpact.Graph.Neighbourhood
import ImportImpact.Import.Extractor
import ImportImpact.Import.Resolver

/-!
The imports of a repository: of one file, among changed files, and of all files below the source
roots. A file that cannot be read as text imports nothing.
-/

namespace ImportImpact

/-- A directory tree seen with one set of settings. -/
structure Repository where
  system : FileSystem
  root : Path
  settings : Settings
  extractor : Extractor

namespace Repository

def ofSettings (system : FileSystem) (root : Path) (settings : Settings) :
    Outcome Repository := do
  pure ⟨system, root, settings, ← Extractor.ofSettings settings⟩

def resolver (repository : Repository) : Resolver :=
  .ofSettings repository.system repository.root repository.settings

def readingRules (repository : Repository) : FileSystem.ReadingRules :=
  { encoding := repository.settings.value .encoding
    fallbacks := repository.settings.value .fallbackEncodings
    largest := repository.settings.value .maxFileSize }

def text? (repository : Repository) (place : Path) : Outcome (Option String) :=
  match repository.system.readText repository.readingRules place with
  | .ok text => .ok (some text)
  | .error fault => if fault.ofReading then .ok none else .error fault

def resolveAll (resolver : Resolver) (importer : String) : List String → Outcome (List String)
  | [] => .ok []
  | specifier :: rest => do
      let target ← resolver.resolve specifier importer
      let others ← resolveAll resolver importer rest
      pure (target.toList ++ others)

def imports (repository : Repository) (place : Path) (path : String) :
    Outcome (List String) := do
  match ← repository.text? place with
  | none => pure []
  | some text =>
      resolveAll repository.resolver path (repository.extractor.extract text path)

def forwardEdgesOf (repository : Repository) (changed : List String) (path : String) :
    Outcome (List Edge) :=
  match repository.extractor.categorize path with
  | none => .ok []
  | some _ => do
      let targets ← repository.imports (repository.root.join path) path
      pure ((targets.filter fun target => changed.contains target && target ≠ path).map
        fun target => ⟨path, target⟩)

def forwardEdges (repository : Repository) (changed : List String) : Outcome (List Edge) := do
  pure (← changed.mapM (repository.forwardEdgesOf changed)).flatten

def sourceRoot? (repository : Repository) : Value → Outcome (Option Path)
  | .str name => do
      let path := repository.root.join name
      pure (if ← repository.system.isDirectory path then some path else none)
  | other => Value.misused (.operands "/" "PosixPath" other.kindName)

/-- The directories to walk: the source roots that are there, else the root itself. -/
def searchRoots (repository : Repository) : Outcome (List Path) := do
  let names ← (repository.settings.value .sourceRoots).elements
  let found := (← names.mapM repository.sourceRoot?).filterMap id
  if !found.isEmpty then pure found
  else if ← repository.system.isDirectory repository.root then pure [repository.root]
  else pure []

end Repository

def Settings.scanExtensions (settings : Settings) : Outcome (List Value) := do
  let scripts ← (settings.value .scriptExtensions).members
  let styles ← (settings.value .styleExtensions).members
  pure (scripts ++ styles)

namespace Repository

/-- The rules of the walk; nothing is asked of the settings before there is a root to walk. -/
def walkRules (repository : Repository) : Outcome FileSystem.WalkRules := do
  let extensions ← repository.settings.scanExtensions
  FileSystem.WalkRules.ofValues (.list extensions) (repository.settings.value .ignoredDirectories)
    (repository.settings.value .followLinks)

def walked (repository : Repository) : List Path → FileSystem.Walked
  | [] => .nothing
  | roots@(_ :: _) => match repository.walkRules with
    | .error fault => ⟨[], some fault⟩
    | .ok rules => (roots.map (repository.system.walked rules)).foldr .andThen .nothing

def walkAll (repository : Repository) (roots : List Path) : Outcome (List Path) :=
  (repository.walked roots).complete

/-- The distinct files that lie below the root, with their repository paths. -/
def named (repository : Repository) (places : List Path) : List (Path × String) :=
  places.eraseDups.filterMap fun place =>
    (Path.below? repository.root place).map fun path => (place, path)

def sourceFiles (repository : Repository) : Outcome (List (Path × String)) := do
  let places ← repository.walkAll (← repository.searchRoots)
  pure (repository.named places)

/-- A scanned file with its imports, without those of itself. -/
def scan (repository : Repository) (file : Path × String) :
    Outcome (String × List String) := do
  let targets ← repository.imports file.1 file.2
  pure (file.2, targets.filter (· ≠ file.2))

/-- Every scanned file with its imports, in walk order. Files are scanned while the walk goes on, so
those that come before its fault have been scanned by then. -/
def scannedImports (repository : Repository) : Outcome (List (String × List String)) := do
  let walked := repository.walked (← repository.searchRoots)
  let scanned ← (repository.named walked.files).mapM repository.scan
  let _ ← walked.complete
  pure scanned

end Repository

structure Crawl where
  found : Neighbourhood
  filesScanned : Nat

namespace Crawl

def nothing : Crawl := ⟨.start [], 0⟩

def findings (crawl : Crawl) : ReverseFindings :=
  ⟨crawl.found.affected, crawl.found.edges, crawl.filesScanned⟩

end Crawl

def seeds (paths : List String) : List String :=
  (paths.map Written.repositoryPath).eraseDups.filter fun path => !path.isEmpty

/-- The unchanged files that reach a changed one by at most `depth` imports. With nothing to
start from, or no depth, no file is scanned. What was found is reported together with the depth, so
in the end this must have a text. -/
def Repository.crawl (repository : Repository) (changed : List String) (depth : Nat) :
    Outcome Crawl :=
  let seeds := seeds changed
  if seeds.isEmpty || depth = 0 then .ok .nothing
  else do
    let scanned ← repository.scannedImports
    (Value.int depth).demandWritable
    pure ⟨.search (.ofImports scanned) seeds depth, scanned.length⟩

end ImportImpact
