import ImportImpact.Platform.Ordinary
import ImportImpact.Proofs.FileSystem.Folders
import ImportImpact.Proofs.FileSystem.RealPath
import Mathlib.Data.List.Perm.Subperm

/-!
What a walk finds. It comes to the directories that entries lead to, however links run between them,
and where all links are in reach of a look at them it gives no file of a directory twice. It can
only miss what cannot be looked up under the path by which a directory is met first: that path may
be too long, or take too many links.
-/

namespace ImportImpact.FileSystem

variable {system : FileSystem} {rules : WalkRules}

/-- The directories that entries lead to from a first one. An ignored name hides what it leads to
there, not what another name does. -/
inductive Reached (system : FileSystem) (rules : WalkRules) (start : Location) : Location → Prop
  | start : Reached system rules start start
  | entry {directory location : Location} {name : String}
      (above : Reached system rules start directory) (shown : system.Shown rules directory name)
      (leads : system.LeadsTo directory name location)
      (there : system.lookup? location = some .directory)
      (kept : rules.ignored.contains name = false) : Reached system rules start location

/-- An entry of the directory is a file to give. -/
structure Wanted (system : FileSystem) (rules : WalkRules) (directory : Location) (name : String) :
    Prop where
  shown : system.Shown rules directory name
  suffix : rules.wants name = true
  file : ∃ location content, system.LeadsTo directory name location ∧
    system.lookup? location = some (.file content)

/-- An entry of a directory that the walk reaches, under a path of this directory. -/
structure EntryOf (system : FileSystem) (rules : WalkRules) (start : Location) (path folder : Path)
    (directory : Location) (name : String) : Prop where
  path_eq : path = folder.child name
  located : system.locate folder = .ok directory
  listed : name ∈ system.names directory
  shown : system.Shown rules directory name
  reached : system.Reached rules start directory

def folders (system : FileSystem) (rules : WalkRules) (directory : Path) (start : Location) :
    List Folder :=
  ⟨directory, start⟩ :: system.foldersFrom rules [system.realNames directory]
    (system.visible rules directory start)

def metBelow (system : FileSystem) (rules : WalkRules) (directory : Path) (start : Location) :
    List Path :=
  system.metFrom rules [system.realNames directory] (system.visible rules directory start)

section Whole

variable {directory path folder : Path} {start location other : Location} {name : String}

theorem EntryOf.leads (entry : system.EntryOf rules start path folder location name)
    (placed : system.place path = .ok other) : system.LeadsTo location name other := by
  obtain ⟨rfl, located, listed, -, -⟩ := entry
  exact leads_of_placed located listed placed

theorem EntryOf.located_placed (entry : system.EntryOf rules start path folder location name)
    {placed : Location} (given : system.place path = .ok placed)
    (found : system.locate path = .ok other) : other = placed := by
  have leads := entry.leads given
  obtain ⟨rfl, located, listed, -, -⟩ := entry
  exact (leads_of_located located listed found).unique leads

theorem EntryOf.entered (entry : system.EntryOf rules start path folder location name)
    {placed : Location} (enters : system.Enters rules path placed) :
    system.Reached rules start placed ∧
      ∀ listed, system.locate path = .ok listed → listed = placed := by
  obtain ⟨given, there, kept⟩ := enters
  refine ⟨?_, fun listed found => entry.located_placed given found⟩
  rw [entry.path_eq, Path.last_name_child] at kept
  exact .entry entry.reached entry.shown (entry.leads given) there kept

theorem entry_of_visible (reached : system.Reached rules start location)
    (located : ∀ listed, system.locate folder = .ok listed → listed = location) :
    ∀ child ∈ system.visible rules folder location,
      ∃ name, system.EntryOf rules start child folder location name := by
  intro child member
  obtain ⟨⟨listed, found⟩, name, named, shown, rfl⟩ := mem_visible_iff.1 member
  rw [located listed found] at found
  exact ⟨name, rfl, found, named, shown, reached⟩

/-- What the walk enters are directories that are reached, and what it looks at are entries of
these. -/
theorem entries_of_walk (rules : WalkRules) (located : system.locate directory = .ok start)
    (there : system.lookup? start = some .directory) :
    (∀ folder ∈ system.folders rules directory start,
      system.lookup? folder.location = some .directory ∧
        system.Reached rules start folder.location ∧
        ∀ listed, system.locate folder.path = .ok listed → listed = folder.location) ∧
    ∀ path ∈ system.metBelow rules directory start,
      ∃ folder location name, system.EntryOf rules start path folder location name := by
  have top : ∀ listed, system.locate directory = .ok listed → listed = start := by
    intro listed found
    rw [located] at found
    cases found
    rfl
  have first : ∀ path ∈ system.visible rules directory start,
      ∃ folder location name, system.EntryOf rules start path folder location name :=
    fun path member => ⟨directory, start, entry_of_visible .start top path member⟩
  have down : ∀ path location,
      (∃ folder directory name, system.EntryOf rules start path folder directory name) →
        system.Enters rules path location → ∀ child ∈ system.visible rules path location,
          ∃ folder directory name, system.EntryOf rules start child folder directory name := by
    rintro path location ⟨folder, directory, name, entry⟩ enters child member
    obtain ⟨reached, same⟩ := entry.entered enters
    exact ⟨path, location, entry_of_visible reached same child member⟩
  obtain ⟨folders, met⟩ := met_holds [system.realNames directory] first down
  refine ⟨fun folder member => ?_, met⟩
  rcases List.mem_cons.1 member with rfl | later
  · exact ⟨there, .start, top⟩
  · obtain ⟨⟨above, location, name, entry⟩, enters⟩ := folders folder later
    exact ⟨enters.there, entry.entered enters⟩

theorem folders_nodup :
    ((system.folders rules directory start).map (system.realNames ·.path)).Nodup := by
  obtain ⟨distinct, outside⟩ := folders_fresh system rules [system.realNames directory]
    (system.visible rules directory start)
  rw [folders, List.map_cons, List.nodup_cons]
  refine ⟨fun again => ?_, distinct⟩
  obtain ⟨folder, member, same⟩ := List.mem_map.1 again
  exact outside folder member (by simp [same])

variable (system rules) in
theorem length_folders_from (entered : List Location) (pending : List Path) :
    (system.foldersFrom rules entered pending).length ≤ system.loads pending := by
  induction entered, pending using run_induction system rules with
  | ends entered => simp [foldersFrom, visitsFrom]
  | passes entered path pending known induction =>
      rw [folders_of_passed known, loads]
      exact Nat.le_trans induction (Nat.le_add_left _ _)
  | enters entered path pending location enters fresh induction =>
      have less := system.loads_visible rules path location
      rw [folders_of_enters enters fresh, List.length_cons, loads]
      rw [loads_append] at induction
      omega

/-- So many directories are the most, whatever links there are. -/
theorem length_folders_le :
    (system.folders rules directory start).length ≤ system.load directory := by
  have fewer := system.length_folders_from rules [system.realNames directory]
    (system.visible rules directory start)
  have less := system.loads_visible rules directory start
  rw [folders, List.length_cons]
  omega

theorem met_eq : system.metBelow rules directory start =
    (system.folders rules directory start).flatMap fun folder =>
      system.visible rules folder.path folder.location := by
  rw [metBelow, metFrom, folders, List.flatMap_cons]

theorem child_met_iff (located : system.locate directory = .ok start)
    (there : system.lookup? start = some .directory) :
    folder.child name ∈ system.metBelow rules directory start ↔
      ∃ location, ⟨folder, location⟩ ∈ system.folders rules directory start ∧
        system.locate folder = .ok location ∧ name ∈ system.names location ∧
          system.Shown rules location name := by
  have folders := (entries_of_walk rules located there).1
  rw [met_eq, List.mem_flatMap]
  constructor
  · rintro ⟨entered, member, child⟩
    obtain ⟨⟨listed, found⟩, last, named, shown, same⟩ := mem_visible_iff.1 child
    obtain ⟨rfl, rfl⟩ := Path.child_inj.1 same
    rw [(folders entered member).2.2 listed found] at found
    exact ⟨entered.location, member, found, named, shown⟩
  · rintro ⟨location, member, found, named, shown⟩
    exact ⟨_, member, mem_visible_iff.2 ⟨⟨location, found⟩, name, named, shown, rfl⟩⟩

theorem visible_nodup (folder : Path) (location : Location) :
    (system.visible rules folder location).Nodup := by
  unfold visible
  cases system.locate folder with
  | error refusal => exact List.nodup_nil
  | ok listed =>
      exact ((names_nodup system location).filter _).map fun _ _ same => (Path.child_inj.1 same).2

theorem met_nodup : (system.metBelow rules directory start).Nodup := by
  rw [met_eq, List.nodup_flatMap]
  refine ⟨fun folder member => visible_nodup folder.path folder.location, ?_⟩
  have distinct : (system.folders rules directory start).Pairwise
      fun first second => system.realNames first.path ≠ system.realNames second.path :=
    List.pairwise_map.1 folders_nodup
  refine distinct.imp fun {first second} different path child again => different ?_
  obtain ⟨-, name, -, -, rfl⟩ := mem_visible_iff.1 child
  obtain ⟨-, last, -, -, same⟩ := mem_visible_iff.1 again
  -- One path of an entry is the child of one path only.
  rw [(Path.child_inj.1 same).1]

theorem mem_files_iff : path ∈ system.filesBelow rules directory start ↔
    path ∈ system.metBelow rules directory start ∧ system.Gives rules path := by
  classical
  rw [filesBelow, files_perm.mem_iff, List.mem_filter, decide_eq_true_iff]
  rfl

section Reach

variable (reach : system.LinksInReach) (located : system.locate directory = .ok start)
  (there : system.lookup? start = some .directory)

include reach located there

/-- Where all links are in reach, directories are told apart by where they lie. -/
theorem real_of_folder {folder : Folder} (member : folder ∈ system.folders rules directory start) :
    system.realNames folder.path = folder.location := by
  rw [realNames]
  rcases List.mem_cons.1 member with rfl | later
  · rw [real_path_of_located reach located]
  · obtain ⟨above, met⟩ := entries_of_walk rules located there
    have first : ∀ path ∈ system.visible rules directory start,
        ∃ folder name, isName name = true ∧ path = Path.child folder name := by
      intro path visible
      obtain ⟨-, name, named, -, rfl⟩ := mem_visible_iff.1 visible
      exact ⟨directory, name, name_of_mem_names named, rfl⟩
    obtain ⟨⟨outer, name, named, shape⟩, enters⟩ :=
      (met_holds [system.realNames directory] first fun path location _ _ child visible => by
        obtain ⟨-, name, named, -, rfl⟩ := mem_visible_iff.1 visible
        exact ⟨path, name, name_of_mem_names named, rfl⟩).1 folder later
    have placed := enters.placed
    rw [shape] at placed ⊢
    rw [real_path_of_placed reach named placed]

theorem locations_nodup : ((system.folders rules directory start).map Folder.location).Nodup := by
  have same : (system.folders rules directory start).map Folder.location =
      (system.folders rules directory start).map (system.realNames ·.path) :=
    List.map_congr_left fun folder member => (real_of_folder reach located there member).symm
  rw [same]
  exact folders_nodup

theorem folder_unique {first second : Folder}
    (here : first ∈ system.folders rules directory start)
    (after : second ∈ system.folders rules directory start)
    (same : first.location = second.location) : first = second :=
  List.inj_on_of_nodup_map (locations_nodup reach located there) here after same

end Reach

end Whole

/-- Under this path of a directory no entry is refused that can be looked up from the directory
itself. -/
def Unrefused (system : FileSystem) (rules : WalkRules) (folder : Folder) : Prop :=
  ∀ name location, system.Shown rules folder.location name →
    system.LeadsTo folder.location name location →
      ∃ placed, system.place (folder.path.child name) = .ok placed

/-- What a walk from a directory comes to. -/
structure Survey (system : FileSystem) (rules : WalkRules) (directory : Path) (start : Location)
    (found : List Path) : Prop where
  bounded : (system.folders rules directory start).length ≤ system.load directory
  distinct : found.Nodup
  sound : ∀ path ∈ found, ∃ folder location name, path = folder.child name ∧
    system.locate folder = .ok location ∧ system.Reached rules start location ∧
      system.Wanted rules location name
  entered_once : system.LinksInReach →
    ((system.folders rules directory start).map Folder.location).Nodup
  one_path : system.LinksInReach →
    ∀ folder other name, folder.child name ∈ found → other.child name ∈ found →
      system.locate folder = system.locate other → folder = other
  complete : system.LinksInReach →
    (∀ folder ∈ system.folders rules directory start, system.Unrefused rules folder) →
      ∀ location name, system.Reached rules start location → system.Wanted rules location name →
        ∃! folder, folder.child name ∈ found ∧ system.locate folder = .ok location

section Survey

variable {directory : Path} {start : Location} (located : system.locate directory = .ok start)
  (there : system.lookup? start = some .directory)

include located there

theorem met_of_unrefused {folder : Folder} {name : String} {location : Location}
    (member : folder ∈ system.folders rules directory start)
    (unrefused : system.Unrefused rules folder)
    (shown : system.Shown rules folder.location name)
    (leads : system.LeadsTo folder.location name location) :
    system.locate folder.path = .ok folder.location ∧
      folder.path.child name ∈ system.metBelow rules directory start ∧
      system.place (folder.path.child name) = .ok location := by
  obtain ⟨placed, given⟩ := unrefused name location shown leads
  obtain ⟨listed, found⟩ := located_of_placed given
  have folders := (entries_of_walk rules located there).1
  rw [(folders folder member).2.2 listed found] at found
  refine ⟨found, (child_met_iff located there).2 ⟨_, member, found, leads.listed, shown⟩, ?_⟩
  rw [given, (leads_of_placed found leads.listed given).unique leads]

/-- By induction on the way: every directory that is reached has been entered. -/
theorem folder_of_reached (reach : system.LinksInReach)
    (unrefused : ∀ folder ∈ system.folders rules directory start, system.Unrefused rules folder)
    {location : Location} (reached : system.Reached rules start location) :
    ∃ folder ∈ system.folders rules directory start, folder.location = location := by
  induction reached with
  | start => exact ⟨_, List.mem_cons_self, rfl⟩
  | @entry above location name reached shown leads directoryThere kept induction =>
      obtain ⟨folder, member, rfl⟩ := induction
      obtain ⟨-, met, placed⟩ :=
        met_of_unrefused located there member (unrefused folder member) shown leads
      have enters : system.Enters rules (folder.path.child name) location :=
        ⟨placed, directoryThere, by rwa [Path.last_name_child]⟩
      have real : system.realNames (folder.path.child name) = location := by
        rw [realNames, real_path_of_placed reach (name_of_mem_names leads.listed) placed]
      -- What the walk looks at and may enter it has entered, under this path or before.
      rcases met_closed _ met location enters with first | ⟨other, entered, same⟩
      · refine ⟨_, List.mem_cons_self, ?_⟩
        rw [real, List.mem_singleton] at first
        rw [first, realNames, real_path_of_located reach located]
      · have inside := List.mem_cons_of_mem (⟨directory, start⟩ : Folder) entered
        rw [real, real_of_folder reach located there inside] at same
        exact ⟨other, inside, same⟩

theorem one_path_of_reach (reach : system.LinksInReach) {folder other : Path} {name : String}
    (first : folder.child name ∈ system.filesBelow rules directory start)
    (second : other.child name ∈ system.filesBelow rules directory start)
    (same : system.locate folder = system.locate other) : folder = other := by
  obtain ⟨here, entered, found, -, -⟩ := (child_met_iff located there).1 (mem_files_iff.1 first).1
  obtain ⟨place, enteredToo, foundToo, -, -⟩ :=
    (child_met_iff located there).1 (mem_files_iff.1 second).1
  rw [found, foundToo] at same
  exact congrArg Folder.path
    (folder_unique reach located there entered enteredToo (Except.ok.inj same))

theorem survey_of_walk :
    system.Survey rules directory start (system.filesBelow rules directory start) where
  bounded := length_folders_le
  distinct := by
    classical
    exact files_perm.nodup_iff.2 (met_nodup.filter _)
  sound := by
    intro path member
    obtain ⟨looked, wanted, placed, content, given, file⟩ := mem_files_iff.1 member
    obtain ⟨folder, location, name, entry⟩ := (entries_of_walk rules located there).2 path looked
    refine ⟨folder, location, name, entry.path_eq, entry.located, entry.reached, entry.shown, ?_,
      placed, content, entry.leads given, file⟩
    rwa [entry.path_eq, Path.last_name_child] at wanted
  entered_once := fun reach => locations_nodup reach located there
  one_path := fun reach _ _ _ => one_path_of_reach located there reach
  complete := by
    intro reach unrefused location name reached wanted
    obtain ⟨shown, suffix, placed, content, leads, file⟩ := wanted
    obtain ⟨folder, member, rfl⟩ := folder_of_reached located there reach unrefused reached
    obtain ⟨found, met, given⟩ :=
      met_of_unrefused located there member (unrefused folder member) shown leads
    have listed := mem_files_iff.2
      ⟨met, by rwa [Path.last_name_child], placed, content, given, file⟩
    exact ⟨folder.path, ⟨listed, found⟩, fun other ⟨again, foundToo⟩ =>
      one_path_of_reach located there reach again listed (foundToo.trans found.symm)⟩

end Survey

namespace Looped

/-- A link in a directory leads back to it. -/
def files : FileSystem where
  entries := [(["s"], .directory), (["s", "f.js"], .file []), (["s", "loop"], .link ".")]
  workingDirectory := []
  platform := .ordinary

def scripts : WalkRules := ⟨[".js"], [], true⟩

def directory : Path := ⟨.root, ["s"]⟩

theorem top : files.locate directory = .ok ["s"] :=
  locate_name (by decide) (by decide) rfl (by simp)

theorem there : files.isDirectory directory = .ok true := directory_of_located top rfl

theorem file_place : files.place (directory.child "f.js") = .ok ["s", "f.js"] :=
  place_plain top rfl (by simp)

theorem loop_place : files.place (directory.child "loop") = .ok ["s"] := by
  have target : steps "." = ["."] := by decide
  have relative : Written.rooted "." = false := by decide
  have followed : files.follow true mostLinks [] ["s", "loop"] = .ok (.entry ["s"]) := by
    rw [follow_name rfl (by decide) (by decide) rfl (by simp)]
    change files.follow true (39 + 1) ["s"] ["loop"] = _
    rw [follow_link rfl (by decide) (by decide) rfl]
    simp only [target, relative, Bool.false_eq_true, if_false, List.singleton_append]
    rw [follow_idle rfl (Or.inr rfl)]
    exact follow_nothing true 39 ["s"]
  rw [place_link top rfl]
  exact located_iff.2 ⟨by decide, followed⟩

theorem listed : files.names ["s"] = ["f.js", "loop"] :=
  names_of_written (by decide) (by decide)

theorem reach : files.LinksInReach := links_in_reach (by decide)

theorem loop_known : files.realNames (directory.child "loop") ∈ [files.realNames directory] := by
  have back : files.locate (directory.child "loop") = .ok ["s"] :=
    (place_link top rfl).symm.trans loop_place
  rw [realNames, realNames, real_path_of_located reach top, real_path_of_located reach back]
  exact List.mem_singleton_self _

theorem visits : files.visitsFrom scripts [files.realNames directory]
    (files.visible scripts directory ["s"]) =
      [.file (directory.child "f.js"), .known (directory.child "loop")] := by
  have visible : files.visible scripts directory ["s"] =
      [directory.child "f.js", directory.child "loop"] := by
    rw [visible, top, listed]
    rfl
  have opens : files.Enters scripts (directory.child "loop") ["s"] := ⟨loop_place, rfl, by decide⟩
  have file : files.lookup? ["s", "f.js"] = some (.file []) := rfl
  rw [visible, visitsFrom, file_place]
  simp only [file]
  rw [if_pos (by decide), visits_of_known opens loop_known, visitsFrom]

theorem entered : files.folders scripts directory ["s"] = [⟨directory, ["s"]⟩] := by
  rw [folders, foldersFrom, visits]
  rfl

end Looped

namespace LongWay

/-- A target that leads to a name beside the directory, through twenty-nine links. -/
def roundabout (name : String) : String :=
  "/".intercalate ([".."] ++ List.replicate 29 "o" ++ [name])

/-- Two links lead to one directory, the first of them a long way; and a link in this directory goes
a long way too. -/
def files : FileSystem where
  entries := [(["o"], .link "."), (["s"], .directory), (["s", "a"], .link (roundabout "d")),
    (["s", "b"], .link "../d"), (["d"], .directory), (["d", "n"], .link (roundabout "x")),
    (["x"], .directory), (["x", "f.js"], .file [])]
  workingDirectory := []
  platform := .ordinary

def scripts : WalkRules := ⟨[".js"], [], true⟩

def directory : Path := ⟨.root, ["s"]⟩

theorem steps_written : steps "." = ["."] ∧ steps "../d" = ["..", "d"] ∧
    steps (roundabout "d") = ".." :: (List.replicate 29 "o" ++ ["d"]) ∧
      steps (roundabout "x") = ".." :: (List.replicate 29 "o" ++ ["x"]) := by
  decide +kernel

theorem targets_relative : Written.rooted "." = false ∧ Written.rooted "../d" = false ∧
    Written.rooted (roundabout "d") = false ∧ Written.rooted (roundabout "x") = false := by
  decide

theorem paths_short : (directory.child "a").text.utf8ByteSize < longestPath ∧
    (directory.child "b").text.utf8ByteSize < longestPath ∧
      ((directory.child "a").child "n").text.utf8ByteSize < longestPath := by
  decide +kernel

theorem follow_back (links : Nat) (rest : List String) :
    files.follow true (links + 1) [] ("o" :: rest) = files.follow true links [] rest := by
  obtain ⟨target, -⟩ := steps_written
  obtain ⟨relative, -⟩ := targets_relative
  rw [follow_link rfl (by decide) (by decide) rfl]
  simp only [target, relative, Bool.false_eq_true, if_false, List.singleton_append]
  exact follow_idle rfl (Or.inr rfl) rest

theorem follow_around (count links : Nat) (rest : List String) :
    files.follow true (links + count) [] (List.replicate count "o" ++ rest) =
      files.follow true links [] rest := by
  induction count with
  | zero => rfl
  | succ count induction =>
      rw [List.replicate_succ, List.cons_append, ← Nat.add_assoc, follow_back, induction]

theorem follow_around_refused (count links : Nat) (fewer : links < count) (rest : List String) :
    files.follow true links [] (List.replicate count "o" ++ rest) = .error .tooManyLinks := by
  induction links generalizing count with
  | zero =>
      obtain ⟨more, rfl⟩ := Nat.exists_eq_add_of_lt fewer
      rw [Nat.zero_add, List.replicate_succ, List.cons_append,
        follow_link rfl (by decide) (by decide) rfl]
  | succ links induction =>
      obtain ⟨more, rfl⟩ := Nat.exists_eq_add_of_lt fewer
      rw [List.replicate_succ, List.cons_append, follow_back]
      exact induction _ (by omega)

/-- A long way starts with a link and a step up. -/
theorem follow_long {parent name target : String}
    (directory : files.isDirectoryAt [parent] = true) (named : isName name = true)
    (short : name.utf8ByteSize ≤ longestName)
    (there : files.lookup? [parent, name] = some (.link (roundabout target)))
    (relative : Written.rooted (roundabout target) = false)
    (written : steps (roundabout target) = ".." :: (List.replicate 29 "o" ++ [target]))
    (links : Nat) (rest : List String) :
    files.follow true (links + 1) [parent] (name :: rest) =
      files.follow true links [] (List.replicate 29 "o" ++ (target :: rest)) := by
  rw [follow_link directory named short there]
  simp only [relative, Bool.false_eq_true, if_false, written, List.cons_append, List.append_assoc]
  rw [follow_up directory]
  rfl

theorem follow_first (links : Nat) (rest : List String) :
    files.follow true (links + 30) ["s"] ("a" :: rest) = files.follow true links ["d"] rest := by
  obtain ⟨-, -, target, -⟩ := steps_written
  obtain ⟨-, -, relative, -⟩ := targets_relative
  rw [follow_long rfl (by decide) (by decide) rfl relative target, follow_around,
    follow_name rfl (by decide) (by decide) rfl (by simp)]
  rfl

theorem follow_second (links : Nat) (rest : List String) :
    files.follow true (links + 1) ["s"] ("b" :: rest) = files.follow true links ["d"] rest := by
  obtain ⟨-, target, -⟩ := steps_written
  obtain ⟨-, relative, -⟩ := targets_relative
  rw [follow_link rfl (by decide) (by decide) rfl]
  simp only [target, relative, Bool.false_eq_true, if_false, List.cons_append, List.nil_append]
  rw [follow_up rfl]
  exact follow_name rfl (by decide) (by decide) rfl (by simp) rest

theorem follow_last : files.follow true mostLinks ["d"] ["n"] = .ok (.entry ["x"]) := by
  obtain ⟨-, -, -, target⟩ := steps_written
  obtain ⟨-, -, -, relative⟩ := targets_relative
  change files.follow true (10 + 29 + 1) ["d"] ["n"] = _
  rw [follow_long rfl (by decide) (by decide) rfl relative target, follow_around,
    follow_name rfl (by decide) (by decide) rfl (by simp)]
  exact follow_nothing true 10 ["x"]

theorem follow_last_refused : files.follow true 10 ["d"] ["n"] = .error .tooManyLinks := by
  obtain ⟨-, -, -, target⟩ := steps_written
  obtain ⟨-, -, -, relative⟩ := targets_relative
  change files.follow true (9 + 1) ["d"] ["n"] = _
  rw [follow_long rfl (by decide) (by decide) rfl relative target]
  exact follow_around_refused 29 9 (by decide) ["x"]

theorem top : files.locate directory = .ok ["s"] :=
  locate_name (by decide) (by decide) rfl (by simp)

theorem follow_top (rest : List String) :
    files.follow true mostLinks [] ("s" :: rest) = files.follow true mostLinks ["s"] rest :=
  follow_name rfl (by decide) (by decide) rfl (by simp) rest

theorem first_place : files.locate (directory.child "a") = .ok ["d"] :=
  located_iff.2 ⟨paths_short.1, (follow_top ["a"]).trans
    ((follow_first 10 []).trans (follow_nothing true 10 ["d"]))⟩

theorem second_place : files.locate (directory.child "b") = .ok ["d"] :=
  located_iff.2 ⟨paths_short.2.1, (follow_top ["b"]).trans
    ((follow_second 39 []).trans (follow_nothing true 39 ["d"]))⟩

theorem last_refused :
    files.locate ((directory.child "a").child "n") = .error .tooManyLinks := by
  have followed : files.follow true mostLinks [] ["s", "a", "n"] = .error .tooManyLinks :=
    (follow_top ["a", "n"]).trans ((follow_first 10 ["n"]).trans follow_last_refused)
  exact locate_refused paths_short.2.2 followed

theorem top_names : files.names ["s"] = ["a", "b"] :=
  names_of_written (by decide) (by decide)

theorem inner_names : files.names ["d"] = ["n"] :=
  names_of_written (by decide) (by decide)

theorem reach : files.LinksInReach := links_in_reach (by decide)

theorem visits : files.visitsFrom scripts [files.realNames directory]
    (files.visible scripts directory ["s"]) =
      [.entered (directory.child "a") ["d"], .known (directory.child "b")] := by
  have first : files.Enters scripts (directory.child "a") ["d"] :=
    ⟨(place_link top rfl).trans first_place, rfl, by decide⟩
  have second : files.Enters scripts (directory.child "b") ["d"] :=
    ⟨(place_link top rfl).trans second_place, rfl, by decide⟩
  have last : files.place ((directory.child "a").child "n") = .error .tooManyLinks :=
    (place_link first_place rfl).trans last_refused
  have outer : files.visible scripts directory ["s"] =
      [directory.child "a", directory.child "b"] := by
    rw [visible, top, top_names]
    rfl
  have inner : files.visible scripts (directory.child "a") ["d"] =
      [(directory.child "a").child "n"] := by
    rw [visible, first_place, inner_names]
    rfl
  have start : files.realNames directory = ["s"] := by
    rw [realNames, real_path_of_located reach top]
  have real : files.realNames (directory.child "a") = ["d"] := by
    rw [realNames, real_path_of_located reach first_place]
  have again : files.realNames (directory.child "b") = ["d"] := by
    rw [realNames, real_path_of_located reach second_place]
  rw [outer, visits_of_enters first (by rw [real, start]; decide), inner, List.singleton_append,
    visitsFrom, last]
  simp only []
  rw [visits_of_known second (by rw [real, again]; exact List.mem_cons_self), visitsFrom]

theorem nothing_found : files.walk scripts directory = .ok [] := by
  have there : files.isDirectory directory = .ok true := directory_of_located top rfl
  rw [walk, walked_of_located there top, visits]
  rfl

end LongWay

/-- Folders of one name, each inside the one before. -/
def nested (name : String) (depth : Nat) : List (Location × Entry) :=
  (List.range depth).map fun count => (List.replicate (count + 1) name, .directory)

theorem lookup_nested (name : String) {count depth : Nat} (few : count < depth) :
    (nested name depth).lookup (List.replicate (count + 1) name) = some .directory := by
  obtain ⟨more, rfl⟩ := Nat.exists_eq_add_of_lt few
  have shape : nested name (count + more + 1) = nested name count ++
      (List.replicate (count + 1) name, .directory) ::
        ((List.range more).map (count + 1 + ·)).map
          fun other => (List.replicate (other + 1) name, .directory) := by
    have before : List.range (count + more + 1) =
        List.range count ++ count :: (List.range more).map (count + 1 + ·) := by
      rw [← List.singleton_append, ← List.append_assoc, ← List.range_succ, ← List.range_add]
      congr 1
      omega
    rw [nested, before, List.map_append, List.map_cons, nested]
  refine List.lookup_eq_some_iff.2 ⟨_, _, shape, fun entry member => ?_⟩
  obtain ⟨other, less, rfl⟩ := List.mem_map.1 member
  have different := List.mem_range.1 less
  rw [bne_iff_ne]
  intro same
  have length := congrArg List.length same
  simp only [List.length_replicate] at length
  omega

theorem names_in_nested {name : String} {depth : Nat} {directory : Location}
    (apart : ∀ count < depth, List.replicate count name ≠ directory) :
    (nested name depth).filterMap (fun entry => nameIn? directory entry.1) = [] := by
  rw [List.filterMap_eq_nil_iff]
  intro entry member
  obtain ⟨count, less, rfl⟩ := List.mem_map.1 member
  rw [nameIn?, List.dropLast_replicate, Nat.add_sub_cancel,
    if_neg (apart count (List.mem_range.1 less))]

theorem lookup_of_last {Found : Type} {entries : List (Location × Found)} {location : Location}
    (others : ∀ entry ∈ entries, entry.1.getLast? ≠ location.getLast?) :
    entries.lookup location = none := by
  rw [List.lookup_eq_none_iff]
  intro entry member
  rw [bne_iff_ne]
  exact fun same => others entry member (congrArg List.getLast? same).symm

namespace OutOfReach

/-- A name of the greatest length. -/
def long (letter : Char) : String := String.ofList (List.replicate 255 letter)

def deep (count : Nat) : Location := List.replicate count (long 'n')

def others : List (Location × Entry) :=
  [(["a"], .link (long 'n')), (["d"], .directory), (["d", "f.js"], .file []),
    ([long 'n', "d"], .link "."), (deep 15 ++ ["e"], .link "/d"),
    (deep 15 ++ [long 'k'], .link "/d")]

/-- Fifteen folders inside one another, which are reached through a link with a short name. In the
last one are two links to one folder, the first of them at a place whose path is too long for a look
at it. And a link with the name of this folder lies in the first of the fifteen. -/
def files : FileSystem where
  entries := others ++ nested (long 'n') 15
  workingDirectory := []
  platform := .ordinary

theorem size_of_repeated (letter : Char) (count : Nat) :
    (String.ofList (List.replicate count letter)).utf8ByteSize = letter.utf8Size * count := by
  induction count with
  | zero => rfl
  | succ count induction =>
      rw [List.replicate_succ, String.ofList_cons, String.utf8ByteSize_append,
        String.utf8ByteSize_singleton, induction, Nat.mul_succ, Nat.add_comm]

theorem long_sizes : (long 'n').utf8ByteSize = 255 ∧ (long 'k').utf8ByteSize = 255 :=
  ⟨size_of_repeated 'n' 255, size_of_repeated 'k' 255⟩

theorem ne_long {name : String} (other : name.utf8ByteSize ≠ 255) :
    name ≠ long 'n' ∧ name ≠ long 'k' :=
  ⟨fun same => other (same ▸ long_sizes.1), fun same => other (same ▸ long_sizes.2)⟩

theorem is_name_long {letter : Char} (other : '/' ≠ letter) : isName (long letter) = true := by
  have apart {segment : Segment} (short : segment.length < 255) :
      List.replicate 255 letter ≠ segment := by
    rintro rfl
    exact absurd List.length_replicate (Nat.ne_of_lt short)
  have absent : '/' ∉ List.replicate 255 letter := fun member =>
    other (List.eq_of_mem_replicate member)
  have filled : List.replicate 255 letter ≠ [] := apart (by decide)
  have still : List.replicate 255 letter ≠ ['.'] := apart (by decide)
  have moves : List.replicate 255 letter ≠ ['.', '.'] := apart (by decide)
  rw [isName, long, String.toList_ofList, Segment.idle, Segment.up]
  generalize List.replicate 255 letter = letters at *
  simp [filled, still, moves, absent]

theorem long_names : isName (long 'n') = true ∧ isName (long 'k') = true :=
  ⟨is_name_long (by decide), is_name_long (by decide)⟩

theorem others_there : (∀ entry ∈ others, entry.1.getLast? ≠ some (long 'n')) ∧
    others.filterMap (fun entry => nameIn? (deep 15) entry.1) = ["e", long 'k'] ∧
      others.filterMap (fun entry => nameIn? ["d"] entry.1) = ["f.js"] := by
  decide +kernel

theorem folder_there (count : Nat) (few : count < 15) :
    files.lookup? (deep (count + 1)) = some .directory := by
  have unlisted : others.lookup (deep (count + 1)) = none := by
    refine lookup_of_last fun entry member => ?_
    rw [deep, List.getLast?_replicate, if_neg (Nat.succ_ne_zero count)]
    exact others_there.1 entry member
  change (others ++ nested (long 'n') 15).lookup (deep (count + 1)) = _
  rw [List.lookup_append, unlisted, deep, lookup_nested _ few]
  rfl

theorem links_there : others.lookup (deep 15 ++ [long 'k']) = some (.link "/d") ∧
    others.lookup (deep 15 ++ ["e"]) = some (.link "/d") ∧
      others.lookup (deep 1 ++ ["d"]) = some (.link ".") := by
  decide +kernel

theorem steps_written : steps (long 'n') = [long 'n'] ∧ steps "/d" = ["", "d"] := by
  have whole : Text.split '/' (List.replicate 255 'n') = [List.replicate 255 'n'] :=
    Text.split_of_absent fun member => absurd (List.eq_of_mem_replicate member) (by decide)
  rw [steps, long, String.toList_ofList, whole]
  exact ⟨rfl, by decide⟩

theorem long_relative : Written.rooted (long 'n') = false := by
  rw [Written.rooted, long, String.toList_ofList]
  decide

theorem deep_size (name : String) :
    (Path.text ⟨.root, deep 15 ++ [name]⟩).utf8ByteSize = 3841 + name.utf8ByteSize := by
  rw [Path.text_size_of_root (by simp), Path.slashed_size_append, deep,
    Path.slashed_size_replicate, long_sizes.1, Path.slashedSize, Path.slashedSize]
  omega

theorem lookup_link {location : Location} {target : String} (filled : location ≠ [])
    (there : others.lookup location = some (.link target)) :
    files.lookup? location = some (.link target) := by
  obtain ⟨name, names, rfl⟩ := List.exists_cons_of_ne_nil filled
  change (others ++ nested (long 'n') 15).lookup (name :: names) = _
  rw [List.lookup_append, there]
  rfl

theorem far_link_unseen : files.linkAt? (deep 15 ++ [long 'k']) = none := by
  have size := deep_size (long 'k')
  rw [long_sizes.2] at size
  rw [linkAt?, if_pos (by rw [size]; decide)]

theorem near_links_seen : files.linkAt? ([] ++ ["a"]) = some (long 'n') ∧
    files.linkAt? (deep 1 ++ ["d"]) = some "." ∧ files.linkAt? (deep 15 ++ ["e"]) = some "/d" := by
  refine ⟨link_at_iff.2 ⟨by decide, rfl⟩, link_at_iff.2 ⟨?_, ?_⟩, link_at_iff.2 ⟨?_, ?_⟩⟩
  · rw [Path.text_size_of_root (by simp), Path.slashed_size_append, deep,
      Path.slashed_size_replicate, long_sizes.1]
    decide
  · exact lookup_link (by simp) links_there.2.2
  · rw [deep_size]
    decide
  · exact lookup_link (by simp) links_there.2.1

theorem deep_next (count : Nat) : deep (count + 1) = deep count ++ [long 'n'] :=
  List.replicate_succ'

section Follow

variable (links : Nat) (rest : List String)

theorem follow_down {count : Nat} (few : count < 15) :
    files.follow true links (deep 1) (deep count ++ rest) =
      files.follow true links (deep (count + 1)) rest := by
  induction count generalizing rest with
  | zero => rfl
  | succ count induction =>
      have above := folder_there count (Nat.lt_of_succ_lt few)
      have below := folder_there (count + 1) few
      rw [deep_next (count + 1)] at below ⊢
      rw [deep_next count, List.append_assoc, List.singleton_append,
        induction _ (Nat.lt_of_succ_lt few), ← deep_next]
      exact follow_name (by simp [isDirectoryAt, above]) long_names.1
        (long_sizes.1 ▸ Nat.le_refl _) below (by simp) rest

theorem follow_top :
    files.follow true (links + 1) [] ("a" :: (deep 14 ++ rest)) =
      files.follow true links (deep 15) rest := by
  have first : files.lookup? ([] ++ [long 'n']) = some .directory := folder_there 0 (by decide)
  rw [follow_link rfl (by decide) (by decide) rfl]
  simp only [steps_written.1, long_relative, Bool.false_eq_true, if_false, List.singleton_append]
  rw [follow_name rfl long_names.1 (long_sizes.1 ▸ Nat.le_refl _) first (by simp)]
  exact follow_down links rest (by decide)

theorem follow_to_folder {name : String} (named : isName name = true)
    (short : name.utf8ByteSize ≤ longestName)
    (there : others.lookup (deep 15 ++ [name]) = some (.link "/d")) :
    files.follow true (links + 1) (deep 15) (name :: rest) =
      files.follow true links ["d"] rest := by
  have directory : files.isDirectoryAt (deep 15) = true := by
    simp [isDirectoryAt, folder_there 14 (by decide)]
  have rooted : Written.rooted "/d" = true := by decide
  rw [follow_link directory named short (lookup_link (by simp) there)]
  simp only [steps_written.2, rooted, if_true, List.cons_append, List.nil_append]
  rw [follow_idle rfl (Or.inl rfl)]
  exact follow_name rfl (by decide) (by decide) rfl (by simp) rest

end Follow

section Real

variable (resolved : List (Location × Location)) (opened : List Location) (rest : List Pending)

theorem real_down {count : Nat} (few : count < 15) :
    files.realFrom resolved opened (deep 1) ((deep count).map .step ++ rest) =
      files.realFrom resolved opened (deep (count + 1)) rest := by
  induction count generalizing rest with
  | zero => rfl
  | succ count induction =>
      have below := folder_there (count + 1) few
      have down := downward_of_name long_names.1
      rw [deep_next (count + 1)] at below ⊢
      rw [deep_next count, List.map_append, List.append_assoc, induction _ (Nat.lt_of_succ_lt few),
        ← deep_next]
      exact real_from_plain (by simp [down.filled, down.moves]) down.down
        (link_at_none fun target link => by simp [below] at link)

theorem real_top : files.realFrom [] [] [] (.step "a" :: ((deep 14).map .step ++ rest)) =
    files.realFrom [(["a"], deep 1)] [["a"]] (deep 15) rest := by
  have down := downward_of_name long_names.1
  have there : files.lookup? ([] ++ [long 'n']) = some .directory := folder_there 0 (by decide)
  have first : files.linkAt? ([] ++ [long 'n']) = none :=
    link_at_none fun target link => by cases there.symm.trans link
  rw [real_from_link (by decide) (by decide) near_links_seen.1]
  simp only [List.lookup_nil, List.not_mem_nil, if_false, List.nil_append, long_relative,
    Bool.false_eq_true, steps_written.1, List.map_cons, List.map_nil, List.cons_append]
  rw [real_from_plain (by simp [down.filled, down.moves]) down.down first, realFrom]
  exact real_down _ _ rest (by decide)

end Real

def scripts : WalkRules := ⟨[".js"], [], true⟩

def directory : Path := ⟨.root, "a" :: deep 14⟩

theorem directory_size (names : List String) :
    (directory.extend names).text.utf8ByteSize = 3586 + Path.slashedSize names := by
  have first : Path.slashedSize ["a"] = 2 := by decide
  change (Path.text ⟨.root, "a" :: (deep 14 ++ names)⟩).utf8ByteSize = _
  rw [Path.text_size_of_root (List.cons_ne_nil _ _), ← List.singleton_append,
    Path.slashed_size_append, Path.slashed_size_append, deep, Path.slashed_size_replicate,
    long_sizes.1, first]
  omega

theorem top : files.locate directory = .ok (deep 15) := by
  have size := directory_size []
  rw [Path.extend_nil] at size
  refine located_iff.2 ⟨by rw [size]; decide, ?_⟩
  have followed := follow_top 39 []
  rw [List.append_nil] at followed
  exact followed.trans (follow_nothing true 39 _)

theorem linked {name : String} (named : isName name = true) (short : name.utf8ByteSize ≤ 255)
    (there : others.lookup (deep 15 ++ [name]) = some (.link "/d")) :
    files.Enters scripts (directory.child name) ["d"] := by
  have size : (directory.child name).text.utf8ByteSize = 3586 + Path.slashedSize [name] :=
    directory_size [name]
  refine ⟨(place_link top (lookup_link (by simp) there)).trans (located_iff.2 ⟨?_, ?_⟩), rfl, ?_⟩
  · rw [size, Path.slashedSize, Path.slashedSize, longestPath]
    omega
  · have followed := follow_top 39 [name]
    exact followed.trans
      ((follow_to_folder 38 [] named short there).trans (follow_nothing true 38 _))
  · simp [scripts]

theorem names_of_others {directory : Location} {names : List String}
    (apart : ∀ count < 15, deep count ≠ directory)
    (written : others.filterMap (fun entry => nameIn? directory entry.1) = names)
    (named : names.filter isName = names) (single : names.eraseDups = names)
    (sorted : names.Pairwise fun left right => !decide (right < left)) :
    files.names directory = names := by
  refine names_of_written ?_ sorted
  rw [files, List.filterMap_append, written, names_in_nested apart, List.append_nil, named, single]

theorem long_behind {letter : Char} {name : String}
    (behind : ¬List.replicate 255 letter < name.toList) :
    (!decide (long letter < name)) = true := by
  rw [Bool.not_eq_true', decide_eq_false_iff_not]
  change ¬(long letter).toList < name.toList
  rwa [long, String.toList_ofList]

theorem top_names : files.names (deep 15) = ["e", long 'k'] := by
  have apart : long 'k' ≠ "e" := (ne_long (by decide)).2.symm
  refine names_of_others (fun count less same => ?_) others_there.2.1 ?_ ?_
    (List.pairwise_pair.2 (long_behind (by decide)))
  · exact absurd (congrArg List.length same) (by simp [deep]; omega)
  · simp [long_names.2, show isName "e" = true by decide]
  · simp [List.eraseDups_cons, apart]

theorem folder_names : files.names ["d"] = ["f.js"] := by
  refine names_of_others (fun count less same => ?_) others_there.2.2 (by decide) (by decide)
    (by decide)
  have last : "d" ∈ deep count := same ▸ List.mem_singleton_self "d"
  exact absurd (List.eq_of_mem_replicate last) (ne_long (by decide)).1

theorem entered_path {name : String} (named : isName name = true) (short : name.utf8ByteSize ≤ 255)
    (there : others.lookup (deep 15 ++ [name]) = some (.link "/d")) :
    files.visible scripts (directory.child name) ["d"] = [(directory.child name).child "f.js"] ∧
      files.place ((directory.child name).child "f.js") = .ok ["d", "f.js"] := by
  have located : files.locate (directory.child name) = .ok ["d"] :=
    (place_link top (lookup_link (by simp) there)).symm.trans (linked named short there).placed
  refine ⟨?_, place_plain located rfl (by simp)⟩
  rw [visible, located, folder_names]
  rfl

theorem real_names : files.realNames directory = deep 15 ∧
    files.realNames (directory.child "e") = ["d"] ∧
      files.realNames (directory.child (long 'k')) = deep 15 ++ [long 'k'] := by
  have step : ∀ name, (directory.child name).names.map Pending.step =
      .step "a" :: ((deep 14).map .step ++ [.step name]) := by
    intro name
    simp [directory, Path.child]
  have first := real_top []
  rw [List.append_nil, realFrom] at first
  have rooted : Written.rooted "/d" = true := by decide
  have plain : files.linkAt? ([] ++ ["d"]) = none := by decide
  have down := downward_of_name long_names.2
  refine ⟨first, ?_, ?_⟩
  · change files.realFrom [] [] [] ((directory.child "e").names.map .step) = _
    rw [step, real_top, real_from_link (by decide) (by decide) near_links_seen.2.2]
    have apart : ["a"].getLast? ≠ (deep 15 ++ ["e"]).getLast? := by
      rw [List.getLast?_concat]
      decide
    have unknown : List.lookup (deep 15 ++ ["e"]) [(["a"], deep 1)] = none := by
      refine lookup_of_last fun entry member => ?_
      rw [List.mem_singleton.1 member]
      exact apart
    have unmet : deep 15 ++ ["e"] ∉ [["a"]] := fun member =>
      apart (congrArg List.getLast? (List.mem_singleton.1 member)).symm
    rw [unknown]
    dsimp only
    rw [if_neg unmet, if_pos rooted, steps_written.2]
    simp only [List.map_cons, List.map_nil, List.cons_append, List.nil_append]
    rw [realFrom, if_pos (by decide), real_from_plain (by decide) (by decide) plain, realFrom,
      realFrom]
    rfl
  · change files.realFrom [] [] [] ((directory.child (long 'k')).names.map .step) = _
    rw [step, real_top, real_from_plain (by simp [down.filled, down.moves]) down.down
      far_link_unseen, realFrom]

theorem visits : files.visitsFrom scripts [files.realNames directory]
    (files.visible scripts directory (deep 15)) =
      [.entered (directory.child "e") ["d"], .file ((directory.child "e").child "f.js"),
        .entered (directory.child (long 'k')) ["d"],
        .file ((directory.child (long 'k')).child "f.js")] := by
  obtain ⟨start, real, realToo⟩ := real_names
  have first := linked (by decide) (by decide) links_there.2.1
  have second := linked long_names.2 (Nat.le_of_eq long_sizes.2) links_there.1
  obtain ⟨inner, file⟩ := entered_path (by decide) (by decide) links_there.2.1
  obtain ⟨innerToo, fileToo⟩ :=
    entered_path long_names.2 (Nat.le_of_eq long_sizes.2) links_there.1
  have outer : files.visible scripts directory (deep 15) =
      [directory.child "e", directory.child (long 'k')] := by
    rw [visible, top, top_names]
    rfl
  have content : files.lookup? ["d", "f.js"] = some (.file []) := rfl
  have fresh : files.realNames (directory.child "e") ∉ [files.realNames directory] := by
    rw [real, start, List.mem_singleton]
    exact fun same => absurd (congrArg List.length same) (by decide)
  have freshToo : files.realNames (directory.child (long 'k')) ∉
      [files.realNames (directory.child "e"), files.realNames directory] := by
    have lengths : ∀ place ∈ [["d"], deep 15], place.length ≠ 16 := by decide
    rw [real, realToo, start]
    exact fun member => lengths _ member rfl
  rw [outer, visits_of_enters first fresh, inner, List.singleton_append, visitsFrom, file]
  simp only [content]
  rw [if_pos (by decide), visits_of_enters second freshToo, innerToo, List.singleton_append,
    visitsFrom, fileToo]
  simp only [content]
  rw [if_pos (by decide), visitsFrom]

end OutOfReach

end ImportImpact.FileSystem
