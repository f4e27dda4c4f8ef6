import ImportImpact.FileSystem.Edit
import ImportImpact.Encoding.Utf8
import ImportImpact.Journal.Layout
import ImportImpact.Journal.Level

/-!
The journal: where log records go, and what it takes to be written. The console shows every
record, in colour on a terminal. A log file grows at its end; before a record that would reach
the size limit the file is moved aside, as long as backups are kept.
-/

namespace ImportImpact

structure Record where
  logger : String
  level : Nat
  message : String

namespace Journal

structure Console where
  layout : String
  coloured : Bool

/-- The size limit in bytes; a limit of zero or less is none. -/
inductive SizeLimit where
  | whole (bytes : Int)
  | fractional (bytes : Float)

structure LogFile where
  path : Path
  layout : String
  limit : SizeLimit
  backups : Value

end Journal

structure Journal where
  threshold : Nat
  console : Option Journal.Console
  file : Option Journal.LogFile

namespace Journal

def rootLogger : String := "prgraph"

def defaultLayout : String := "%(asctime)s | %(levelname)s | %(name)s | %(message)s"

def initial : Journal := ⟨Level.warning, some ⟨defaultLayout, false⟩, none⟩

def handlers (journal : Journal) : Nat :=
  journal.console.toList.length + journal.file.toList.length

/-- The logger that a name asks for: below the root logger, unless it starts like it. -/
def loggerName (name : String) : String :=
  if rootLogger.toList.isPrefixOf name.toList then name else rootLogger ++ "." ++ name

def belowRoot (logger : String) : Bool :=
  logger = rootLogger || (rootLogger ++ ".").toList.isPrefixOf logger.toList

def accepts (journal : Journal) (record : Record) : Bool :=
  belowRoot record.logger &&
    (if journal.threshold = 0 then Level.warning else journal.threshold) ≤ record.level

def fields (layout time levelName : String) (record : Record) : Layout.Fields :=
  (if Layout.showsTime layout then [("asctime", .text time)] else []) ++
    [("name", .text record.logger), ("levelname", .text levelName),
     ("levelno", .number record.level), ("message", .text record.message),
     ("msg", .text record.message), ("args", .text "()"), ("exc_info", .nothing),
     ("exc_text", .nothing), ("stack_info", .nothing), ("threadName", .text "MainThread"),
     ("processName", .text "MainProcess")]

def colourOf (level : Nat) : String :=
  if level = Level.debug then "\x1b[36m"
  else if level = Level.info then "\x1b[32m"
  else if level = Level.warning then "\x1b[33m"
  else if level = Level.error then "\x1b[31m"
  else if level = Level.critical then "\x1b[35m"
  else ""

/-- What the console shows of a record. A record that the layout cannot write is not shown. -/
def Console.line (console : Console) (time : String) (record : Record) : String :=
  let name := Level.nameOf record.level
  let levelName := if console.coloured then colourOf record.level ++ name ++ "\x1b[0m" else name
  match Layout.write? console.layout (fields console.layout time levelName record) with
  | some line => line ++ "\n"
  | none => ""

def SizeLimit.reached (limit : SizeLimit) (size : Nat) : Bool :=
  match limit with
  | .whole bytes => 0 < bytes && bytes ≤ size
  | .fractional bytes => 0 < bytes && bytes ≤ Float.ofNat size

def backupName (path : Path) (number : Nat) : Path :=
  { path with names := path.names.dropLast ++ [path.lastName ++ "." ++ toString number] }

def contentOf (system : FileSystem) (path : Path) : Option (List UInt8) :=
  match system.lookup? path.names with
  | some (.file bytes) => some bytes
  | _ => none

def present (system : FileSystem) (path : Path) : Bool :=
  (system.exists? path).toOption.getD false

def move (system : FileSystem) (source target : Path) : FileSystem :=
  if present system source then system.rename source.names target.names else system

/-- A directory that stands where a backup would be lost cannot be replaced. -/
def blocked (system : FileSystem) (path : Path) (backups : Nat) : Bool :=
  system.isDirectoryAt (backupName path backups).names &&
    (backups = 1 || present system (backupName path (backups - 1)))

/-- Each backup moves up by one, the last one is lost, and the file becomes the first. -/
def rotate (system : FileSystem) (path : Path) (backups : Nat) : FileSystem :=
  let shifted := (List.range (backups - 1)).reverse.foldl (fun system count =>
    move system (backupName path (count + 1)) (backupName path (count + 2))) system
  (move shifted path (backupName path 1)).put path.names (.file [])

/-- Appends a record. When the file is full, the record is not written if the number of backups
is no whole number or the backups cannot be moved. -/
def LogFile.write (file : LogFile) (time : String) (record : Record) (system : FileSystem) :
    FileSystem :=
  match Layout.write? file.layout
      (fields file.layout time (Level.nameOf record.level) record) with
  | none => system
  | some text =>
      let line := text ++ "\n"
      let bytes := (contentOf system file.path).getD []
      let append (system : FileSystem) : FileSystem :=
        let held := (contentOf system file.path).getD []
        system.put file.path.names (.file (held ++ Utf8.ofString line))
      if file.limit.reached (bytes.length + line.length) then
        match file.backups.whole? with
        | none => system
        | some backups =>
            if backups ≤ 0 then append system
            else if blocked system file.path backups.toNat then system
            else append (rotate system file.path backups.toNat)
      else append system

def log (journal : Journal) (time : String) (record : Record) (system : FileSystem) :
    FileSystem × String :=
  if journal.accepts record then
    ((journal.file.map fun file => file.write time record system).getD system,
     (journal.console.map fun console => console.line time record).getD "")
  else (system, "")

end Journal

end ImportImpact
