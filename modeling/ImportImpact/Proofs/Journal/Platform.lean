import ImportImpact.Analysis.Analyzer
import ImportImpact.Proofs.Outcome

/-!
What a journal does to the files does nothing to the platform below them: entries come, go and move,
and after an analysis the same libraries are called in the same room as before.
-/

namespace ImportImpact

open Outcome

namespace FileSystem

variable {system made : FileSystem} {path : Path}

@[simp]
theorem put_platform (system : FileSystem) (location : Location) (entry : Entry) :
    (system.put location entry).platform = system.platform := rfl

theorem make_directory_platform (done : system.makeDirectory path = .ok made) :
    made.platform = system.platform := by
  unfold makeDirectory at done
  cases arrived : system.arrive false path with
  | error refusal =>
      rw [arrived] at done
      cases done
  | ok arrival =>
      rw [arrived] at done
      cases arrival with
      | free location =>
          cases done
          rfl
      | entry location => cases done

theorem ensure_directory_platform (done : system.ensureDirectory path = .ok made) :
    made.platform = system.platform := by
  unfold ensureDirectory at done
  split at done
  next there =>
    cases done
    exact make_directory_platform there
  · obtain ⟨known, -, done⟩ := bind_ok_iff.1 done
    split at done
    · cases done
      rfl
    · cases done

theorem ensure_above_platform {above : Nat} (done : system.ensureAbove path above = .ok made) :
    made.platform = system.platform := by
  induction above generalizing path made with
  | zero => exact ensure_directory_platform done
  | succ above induction =>
      rw [ensureAbove] at done
      split at done
      · obtain ⟨grown, before, here⟩ := bind_ok_iff.1 done
        exact (ensure_directory_platform here).trans (induction before)
      · exact ensure_directory_platform done

theorem ensure_directories_platform (done : system.ensureDirectories path = .ok made) :
    made.platform = system.platform := by
  unfold ensureDirectories at done
  split at done
  · cases done
  · exact ensure_above_platform done

end FileSystem

namespace Journal

theorem move_platform (system : FileSystem) (source target : Path) :
    (move system source target).platform = system.platform := by
  unfold move
  split <;> rfl

theorem rotate_platform (system : FileSystem) (path : Path) (backups : Nat) :
    (rotate system path backups).platform = system.platform := by
  rw [rotate, FileSystem.put_platform, move_platform]
  induction (List.range (backups - 1)).reverse generalizing system with
  | nil => rfl
  | cons count rest induction => exact (induction _).trans (move_platform ..)

theorem write_platform (file : LogFile) (time : String) (record : Record) (system : FileSystem) :
    (file.write time record system).platform = system.platform := by
  unfold LogFile.write
  split
  · rfl
  · dsimp only
    split
    · split
      · rfl
      · split
        · rfl
        · split
          · rfl
          · exact rotate_platform ..
    · rfl

theorem log_platform (journal : Journal) (time : String) (record : Record)
    (system : FileSystem) : (journal.log time record system).1.platform = system.platform := by
  unfold log
  split
  · cases journal.file with
    | none => rfl
    | some file => exact write_platform file time record system
  · rfl

theorem open_file_platform (system : FileSystem) (configuration : Configuration)
    (layout : String) : (openFile system configuration layout).1.platform = system.platform := by
  unfold openFile
  split
  next name _ =>
    dsimp only
    cases made : system.ensureDirectories (Path.parse name).parent with
    | error fault => rfl
    | ok grown =>
        have kept := FileSystem.ensure_directories_platform made
        cases sizeLimit configuration.megabytes with
        | error fault => exact kept
        | ok limit =>
            dsimp only
            split
            · exact kept
            · split <;> exact kept
  · rfl

theorem configure_platform (system : FileSystem) (time : String) (configuration : Configuration) :
    (configure system time configuration).system.platform = system.platform := by
  unfold configure
  split
  · rfl
  next layout _ =>
    have kept := open_file_platform system configuration layout
    dsimp only
    split
    · rfl
    · split
      next made =>
        rw [made] at kept
        exact kept
      next made =>
        rw [made] at kept
        exact (log_platform ..).trans kept
      next made =>
        rw [made] at kept
        exact kept

end Journal

namespace Host

theorem log_all_platform (host : Host) (records : List Record) :
    (host.logAll records).files.platform = host.files.platform := by
  unfold logAll
  induction records generalizing host with
  | nil => rfl
  | cons record rest induction => exact (induction _).trans (Journal.log_platform ..)

theorem log_platform (host : Host) (record : Record) :
    (host.log record).files.platform = host.files.platform :=
  Journal.log_platform ..

theorem configure_journal_platform (host : Host) (configuration : Journal.Configuration) :
    (host.configureJournal configuration).1.files.platform = host.files.platform :=
  Journal.configure_platform ..

end Host

namespace Analyzer

theorem find_settings_platform (analyzer : Analyzer) (host : Host) :
    (analyzer.findSettings host).host.files.platform = host.files.platform := by
  unfold findSettings
  split
  · rfl
  · split
    next loaded =>
      unfold Host.sharedSettings at loaded
      split at loaded
      · cases loaded
        rfl
      · obtain ⟨settings, -, done⟩ := bind_ok_iff.1 loaded
        cases done
        rfl
    · exact Host.log_platform ..

theorem prepare_journal_platform (prepared : Prepared) :
    (prepareJournal prepared).host.files.platform = prepared.host.files.platform := by
  have kept := prepared.host.configure_journal_platform
    (journalConfiguration prepared.settings prepared.host.terminal)
  unfold prepareJournal
  dsimp only
  split
  next made =>
    rw [made] at kept
    exact kept
  next made =>
    rw [made] at kept
    exact (Host.log_platform ..).trans kept

theorem analyze_platform (analyzer : Analyzer) (host : Host) (changes : Changes) (root : Path)
    (options : GivenOptions) :
    (analyzer.analyze host changes root options).host.files.platform = host.files.platform := by
  have prepared : (analyzer.prepare host).host.files.platform = host.files.platform := by
    unfold prepare
    split
    · exact find_settings_platform analyzer host
    · exact (prepare_journal_platform _).trans (find_settings_platform analyzer host)
  exact (Host.log_all_platform ..).trans prepared

end Analyzer

end ImportImpact
