import ImportImpact.Journal.Configure
import ImportImpact.Settings.Store

/-!
The host of the program: its file system, the home directory, the environment, the journal and
the settings that all analyses without settings of their own share. Shared settings are loaded
once, on first use, and kept until they are replaced or forgotten. Time is given from outside.
-/

namespace ImportImpact

structure Clock where
  logTime : String
  documentTime : String

structure Host where
  files : FileSystem
  home : Path
  environment : Environment
  shared : Option Settings
  journal : Journal
  clock : Clock
  terminal : Bool
  /-- What the journal has shown on the console so far. -/
  shown : String

namespace Host

def discover (host : Host) (start : Option Path) : Outcome Settings :=
  Settings.discover host.files host.home host.environment start

def sharedSettings (host : Host) : Outcome (Settings × Host) :=
  match host.shared with
  | some settings => .ok (settings, host)
  | none => do
      let settings ← host.discover none
      pure (settings, { host with shared := some settings })

def setShared (host : Host) (settings : Option Settings) : Host :=
  { host with shared := settings }

def log (host : Host) (record : Record) : Host :=
  let (files, shown) := host.journal.log host.clock.logTime record host.files
  { host with files, shown := host.shown ++ shown }

def logAll (host : Host) (records : List Record) : Host := records.foldl log host

/-- Sets up the journal; the fault is one that the journal could not report itself. -/
def configureJournal (host : Host) (configuration : Journal.Configuration) :
    Host × Option Fault :=
  let done := Journal.configure host.files host.clock.logTime configuration
  ({ host with files := done.system, journal := done.journal, shown := host.shown ++ done.shown },
   done.fault)

end Host

end ImportImpact
