import ImportImpact.Journal.Basic

/-!
Setting up the journal. The threshold is set first and the old outputs are closed, so both have
changed even when the rest fails. A log file that cannot be opened is reported and left out.
-/

namespace ImportImpact.Journal

structure Configuration where
  level : Value
  layout : Value
  file : Value
  megabytes : Value
  backups : Value
  terminal : Bool

/-- The journal after a change, the file system, what the console shows, and the fault that
stopped the change. -/
structure Configured where
  journal : Journal
  system : FileSystem
  shown : String
  fault : Option Fault

/-- An empty layout stands for the usual one. -/
def checkLayout (layout : Value) : Outcome String :=
  if !layout.truthy then .ok defaultLayout
  else match layout with
    | .str text => if Layout.valid text then .ok text else .error (.logFormat text)
    | other => Value.misused (.patternText other.kindName)

def sizeLimit (megabytes : Value) : Outcome SizeLimit :=
  match megabytes with
  | .int number => .ok (.whole (number * 0x100000))
  | .bool truth => .ok (.whole (if truth then 0x100000 else 0))
  | .float number => .ok (.fractional (number * 1048576.0))
  | .null | .dict _ => Value.misused (.operands "*" megabytes.kindName "int")
  | other => Value.misused (.notOrdered ">" other.kindName "int")

def absolute (system : FileSystem) (path : Path) : Path :=
  let names := match path.anchor with
    | .relative => system.workingDirectory ++ path.names
    | _ => path.names
  ⟨.root, FileSystem.evaluate names⟩

def openFile (system : FileSystem) (configuration : Configuration) (layout : String) :
    FileSystem × Outcome LogFile :=
  match configuration.file with
  | .str name =>
      let path := Path.parse name
      match system.ensureDirectories path.parent with
      | .error fault => (system, .error fault)
      | .ok grown => match sizeLimit configuration.megabytes with
        | .error fault => (grown, .error fault)
        | .ok limit =>
            let place := absolute grown path
            match grown.writable place with
            | .error fault => (grown, .error fault)
            | .ok location =>
                let file : LogFile := ⟨⟨.root, location⟩, layout, limit, configuration.backups⟩
                match grown.lookup? location with
                | some _ => (grown, .ok file)
                | none => (grown.put location (.file []), .ok file)
  | other => (system, Value.misused (.pathName other.kindName))

/-- Faults of the file system are reported in the journal itself. -/
def configure (system : FileSystem) (time : String) (configuration : Configuration) :
    Configured :=
  let threshold := Level.ofValue configuration.level
  match checkLayout configuration.layout with
  | .error fault => ⟨⟨threshold, none, none⟩, system, "", some fault⟩
  | .ok layout =>
      let console : Console := ⟨layout, configuration.terminal⟩
      let journal : Journal := ⟨threshold, some console, none⟩
      if !configuration.file.truthy then ⟨journal, system, "", none⟩
      else match openFile system configuration layout with
        | (grown, .ok file) => ⟨{ journal with file := some file }, grown, "", none⟩
        | (grown, .error (.refused refusal path)) =>
            let message :=
              s!"Cannot open log file {configuration.file.text}: {refusal.message path}"
            let (after, shown) :=
              journal.log time ⟨rootLogger, Level.warning, message⟩ grown
            ⟨journal, after, shown, none⟩
        | (grown, .error fault) => ⟨journal, grown, "", some fault⟩

end ImportImpact.Journal
