import ImportImpact.Analysis.Analyzer

/-!
A journal without a log file. It writes on the console only, so records leave the files alone; and
setting it up leaves them alone as well if the settings name no log file.
-/

namespace ImportImpact

namespace Journal

variable {journal : Journal} {configuration : Configuration}

theorem log_without_file (unfiled : journal.file = none) (time : String) (record : Record)
    (system : FileSystem) : (journal.log time record system).1 = system := by
  unfold log
  split
  · rw [unfiled]
    rfl
  · rfl

theorem configure_without_file (unnamed : configuration.file.truthy = false) (system : FileSystem)
    (time : String) : (configure system time configuration).system = system ∧
      (configure system time configuration).journal.file = none := by
  unfold configure
  cases checkLayout configuration.layout with
  | error fault => exact ⟨rfl, rfl⟩
  | ok layout =>
      dsimp only
      rw [unnamed]
      exact ⟨rfl, rfl⟩

theorem file_of_configure_fault {system : FileSystem} {time : String} {fault : Fault}
    (failed : (configure system time configuration).fault = some fault) :
    (configure system time configuration).journal.file = none := by
  unfold configure at failed ⊢
  cases layout : checkLayout configuration.layout with
  | error fault => rfl
  | ok text =>
      rw [layout] at failed
      dsimp only at failed ⊢
      split at failed
      next unnamed => rw [if_pos unnamed]
      next named =>
        rw [if_neg named]
        split at failed
        · cases failed
        · cases failed
        · rfl

end Journal

namespace Host

variable {host : Host}

theorem log_files (unfiled : host.journal.file = none) (record : Record) :
    (host.log record).files = host.files :=
  Journal.log_without_file unfiled _ record host.files

/-- All that a record leaves of a host without a log file is what the console has shown. -/
theorem log_all_files (unfiled : host.journal.file = none) (records : List Record) :
    (host.logAll records).files = host.files ∧ (host.logAll records).journal = host.journal := by
  unfold logAll
  induction records generalizing host with
  | nil => exact ⟨rfl, rfl⟩
  | cons record rest induction =>
      have silent : (host.log record).journal.file = none := unfiled
      obtain ⟨files, journal⟩ := induction silent
      exact ⟨files.trans (log_files unfiled record), journal⟩

end Host

/-- Setting up the journal changes the files as far as that makes its file, and a fault is reported
without a further change. -/
theorem Analyzer.prepare_journal_eq (prepared : Prepared) :
    let configured := Journal.configure prepared.host.files prepared.host.clock.logTime
      (journalConfiguration prepared.settings prepared.host.terminal)
    (prepareJournal prepared).settings = prepared.settings ∧
      (prepareJournal prepared).host.files = configured.system ∧
      (prepareJournal prepared).errors =
        prepared.errors ++ (configured.fault.map ("logging: " ++ ·.message)).toList := by
  intro configured
  unfold prepareJournal Host.configureJournal
  dsimp only
  cases given : configured.fault with
  | none => exact ⟨rfl, rfl, (List.append_nil _).symm⟩
  | some fault =>
      exact ⟨rfl, Host.log_files (Journal.file_of_configure_fault given) _, rfl⟩

end ImportImpact
