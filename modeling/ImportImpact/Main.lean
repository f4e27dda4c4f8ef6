import ImportImpact.CommandLine.Run
import ImportImpact.CommandLine.Usage
import ImportImpact.Impact.Moment
import ImportImpact.Platform.Ordinary
import Std.Data.HashMap
import Std.Data.HashSet
import Std.Time.Zoned

/-!
The program. The part of the disk that a command line can touch is taken over as a file system,
the command line runs on that value, and the files that have changed are written back. Places that
cannot be read count as missing.
-/

namespace ImportImpact.Program

abbrev Entries := List (Location × Entry)

def diskName (location : Location) : String := "/" ++ "/".intercalate location

def locationFrom (here : Location) (written : String) : Location :=
  FileSystem.evaluate ((if Written.rooted written then [] else here) ++ FileSystem.steps written)

def orNothing (reading : IO Entries) : IO Entries := do
  try reading catch _ => pure []

/-- One place; what a link leads to stands for the link. -/
def takePlace (location : Location) : IO Entries := orNothing do
  let place ← IO.FS.realPath (diskName location)
  if ← place.isDir then pure [(location, .directory)]
  else pure [(location, .file (← IO.FS.readBinFile place).toList)]

/-- A place and all places below it whose names are wanted. -/
partial def takeTree (wanted : String → Bool) (location : Location) : IO Entries := orNothing do
  let place ← IO.FS.realPath (diskName location)
  if !(← place.isDir) then takePlace location
  else
    let below ← (← place.readDir).toList.mapM fun entry => orNothing do
      let name := location ++ [entry.fileName]
      if !wanted entry.fileName then pure []
      else match (← entry.path.symlinkMetadata).type with
        | .symlink => pure [(name, .link (← IO.FS.realPath entry.path).toString)]
        | .dir => takeTree wanted name
        | .file => takePlace name
        | .other => pure []
    pure ((location, .directory) :: below.flatten)

/-- A whole tree, at the place where it really lies and at the one where it is named. -/
def takeRepository (location : Location) : IO Entries := orNothing do
  let real := (← IO.FS.realPath (diskName location)).toString
  let tree ← takeTree (fun _ => true) (locationFrom [] real)
  pure (if locationFrom [] real = location then tree else tree ++ [(location, .link real)])

def distinct (entries : Entries) : Entries :=
  let kept := entries.foldl
    (fun (known, kept) (location, entry) =>
      if known.contains location then (known, kept)
      else (known.insert location, (location, entry) :: kept))
    ((∅ : Std.HashSet Location), [])
  kept.2.reverse

def fileSystem (here : Location) (entries : Entries) : FileSystem :=
  let locations := here :: entries.map fun entry => entry.1.dropLast
  let above := (distinct (locations.map fun location => (location, .directory))).map Prod.fst
  let empty : FileSystem := ⟨[], here, .ordinary⟩
  let grown := above.foldl (fun system location => system.plant location .directory) empty
  { grown with entries := distinct (entries ++ grown.entries) }

def directoriesOf (settings : Settings) : List String :=
  match settings.value .sourceRoots with
  | .list roots => roots.filterMap fun root => match root with
    | .str root => some root
    | _ => none
  | _ => []

def logFileOf (settings : Settings) : Option String :=
  match settings.value .logFile with
  | .str name => some name
  | _ => none

def namedFiles (here home : Location) (command : Command) : List Location :=
  let settingsFiles := [here, home].flatMap fun directory =>
    Settings.fileNames.map fun name => directory ++ [name]
  let named := match command with
    | .analyze command => command.changesFile.toList ++ command.output.toList
    | _ => []
  let locations := named.map (locationFrom here)
  settingsFiles ++ locations ++ locations.map List.dropLast

def takeNamedBySettings (here root : Location) (settings : Settings) : IO Entries := do
  let roots := (directoriesOf settings).map (locationFrom root)
  let outside := roots.filter fun location => !root.isPrefixOf location
  let trees ← outside.mapM takeRepository
  let logs ← (logFileOf settings).toList.mapM fun name => do
    let location := locationFrom here name
    takeTree (fun other => other.startsWith (location.getLast?.getD "")) location.dropLast
  pure (trees.flatten ++ logs.flatten)

def knownVariables : List String := ["LOG_LEVEL", "MAX_DEPTH", "INCLUDE_REVERSE_DEPS"]

def environment : IO Environment := do
  let found ← knownVariables.mapM fun name => do
    let name := Settings.variableOpening ++ name
    pure ((← IO.getEnv name).map fun value => (name, value))
  pure (found.filterMap id)

def moment (time : Std.Time.PlainDateTime) (offset : Option Int) : Moment :=
  { year := time.year.toInt.toNat, month := time.month.toNat, day := time.day.toNat
    hour := time.hour.toNat, minute := time.minute.toNat, second := time.second.toNat
    microsecond := time.nanosecond.toNat / 1000, offset }

/-- Documents write universal time, log lines the time of the place with thousandths. -/
def clock : IO Clock := do
  let universal := Std.Time.DateTime.ofTimestampWithZone (← Std.Time.Timestamp.now) .UTC
  let here := moment (← Std.Time.PlainDateTime.now) none
  let day := { here with microsecond := 0 }.text.map fun c => if c = 'T' then ' ' else c
  pure ⟨day ++ "," ++ Moment.padded 3 (here.microsecond / 1000),
    (moment universal.toPlainDateTime (some 0)).text⟩

def host (command : Command) : IO Host := do
  let here := locationFrom [] (← IO.currentDir).toString
  let home := locationFrom here ((← IO.getEnv "HOME").getD "/")
  let named ← (namedFiles here home command).mapM takePlace
  let host : Host :=
    { files := fileSystem here named.flatten, home := ⟨.root, home⟩
      environment := ← environment, shared := none, journal := .initial, clock := ← clock
      terminal := ← (← IO.getStderr).isTty, shown := "" }
  match command with
  | .analyze command =>
      let root := locationFrom here command.repository
      let tree ← takeRepository root
      let files := fileSystem here (tree ++ named.flatten)
      let further ← match Settings.discover files host.home host.environment
          (some (.parse command.repository)) with
        | .ok settings => takeNamedBySettings here root settings
        | .error _ => pure []
      pure { host with files := fileSystem here (tree ++ named.flatten ++ further) }
  | _ => pure host

def writeBack (before after : FileSystem) : IO Unit := do
  let known := Std.HashMap.ofList before.entries
  let kept := Std.HashMap.ofList after.entries
  for (location, _) in before.entries do
    if !kept.contains location then IO.FS.removeFile (diskName location)
  for (location, entry) in after.entries do
    match entry with
    | .directory => if !known.contains location then IO.FS.createDirAll (diskName location)
    | .file content =>
        if known[location]? != some entry then
          IO.FS.writeBinFile (diskName location) ⟨content.toArray⟩
    | .link _ => pure ()

def usage : String := "\n".intercalate CommandLine.usageLines

def status : Ending → UInt32
  | .status code => code.toUInt32
  | .stopped stop => stop.status.toUInt32
  | .escaped _ => 1

def run (arguments : List String) : IO UInt32 := do
  let command := match CommandLine.understand arguments with
    | .ok command => command
    | .error _ => .help
  let host ← host command
  let done := runCommandLine host arguments
  writeBack host.files done.session.host.files
  (← IO.getStderr).putStr (done.session.host.shown ++ done.session.console)
  (← IO.getStdout).putStr done.session.output
  match done.ending with
  | .escaped (.fault fault) => (← IO.getStderr).putStrLn fault.message
  | .stopped .misused => (← IO.getStderr).putStrLn usage
  | _ => if done.needsHelp then (← IO.getStdout).putStrLn usage
  pure (status done.ending)

end ImportImpact.Program

def main (arguments : List String) : IO UInt32 := ImportImpact.Program.run arguments
