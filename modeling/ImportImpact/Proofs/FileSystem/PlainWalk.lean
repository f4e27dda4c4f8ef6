import ImportImpact.Proofs.FileSystem.Survey
import ImportImpact.Path.Size
import ImportImpact.Proofs.Path.Inside
import ImportImpact.Proofs.Value.Keyed
import ImportImpact.Proofs.Value.Texts
import Mathlib.Data.List.Induction
import Mathlib.Data.List.Lex
import Mathlib.Data.List.Sort
import Mathlib.Data.String.Basic

/-!
A walk that follows no links. It gives the files that lie behind directories with names that are not
ignored, ordered by their names one after another. Only what lies in a directory whose path is too
long to be listed is missing, and a directory that lies too deep breaks the walk off, so what comes
of it can be told from the tree.
-/

namespace ImportImpact

namespace FileSystem

variable {system : FileSystem} {rules : WalkRules}

section Order

/-- One path comes before the other, and neither leads through the other. -/
def Before (first second : Path) : Prop :=
  ∃ shared name other rest others, first.names = shared ++ name :: rest ∧
    second.names = shared ++ other :: others ∧ name < other

variable {first second : Path}

theorem Before.lt (before : Before first second) : first.names < second.names := by
  obtain ⟨shared, name, other, rest, others, here, there, less⟩ := before
  rw [here, there]
  exact List.append_left_lt (List.Lex.rel less)

theorem Before.behind (before : Before first second) {path other : Path}
    (behind : first.names <+: path.names) (behindToo : second.names <+: other.names) :
    Before path other := by
  obtain ⟨shared, name, last, rest, others, here, there, less⟩ := before
  obtain ⟨more, shape⟩ := behind
  obtain ⟨moreToo, shapeToo⟩ := behindToo
  refine ⟨shared, name, last, rest ++ more, others ++ moreToo, ?_, ?_, less⟩
  · rw [← shape, here, List.append_assoc, List.cons_append]
  · rw [← shapeToo, there, List.append_assoc, List.cons_append]

theorem behind_of_visible {folder path : Path} {location : Location}
    (member : path ∈ system.visible rules folder location) : folder.names <+: path.names := by
  obtain ⟨-, name, -, -, rfl⟩ := mem_visible_iff.1 member
  exact List.prefix_append folder.names [name]

theorem visible_ordered (folder : Path) (location : Location) :
    (system.visible rules folder location).Pairwise Before := by
  unfold visible
  split
  · exact List.Pairwise.nil
  · have strict : (system.names location).Pairwise fun left right => left < right :=
      ((names_ordered system location).and (names_nodup system location)).imp fun given =>
        lt_of_le_of_ne given.1 given.2
    exact List.pairwise_map.2 ((strict.filter _).imp fun less =>
      ⟨folder.names, _, _, [], [], rfl, rfl, less⟩)

/-- Every file that a walk comes to lies behind a pending path, and in the order of these paths. -/
theorem files_from_ordered {entered : List Location} {pending : List Path}
    (ordered : pending.Pairwise Before) :
    (system.filesFrom rules entered pending).Pairwise Before ∧
      ∀ path ∈ system.filesFrom rules entered pending, ∃ first ∈ pending,
        first.names <+: path.names := by
  classical
  induction entered, pending using run_induction system rules with
  | ends entered => simp [filesFrom, visitsFrom]
  | passes entered path pending known induction =>
      obtain ⟨here, later⟩ := List.pairwise_cons.1 ordered
      obtain ⟨sorted, behind⟩ := induction later
      have kept : ∀ other ∈ system.filesFrom rules entered pending,
          ∃ first ∈ path :: pending, first.names <+: other.names := by
        intro other member
        obtain ⟨first, inside, begins⟩ := behind other member
        exact ⟨first, List.mem_cons_of_mem path inside, begins⟩
      rw [files_of_passed known]
      split
      · refine ⟨List.pairwise_cons.2 ⟨fun other member => ?_, sorted⟩, ?_⟩
        · obtain ⟨first, inside, begins⟩ := behind other member
          exact (here first inside).behind (List.prefix_refl _) begins
        · exact List.forall_mem_cons.2 ⟨⟨path, by simp, List.prefix_refl _⟩, kept⟩
      · exact ⟨sorted, kept⟩
  | enters entered path pending location enters fresh induction =>
      obtain ⟨here, later⟩ := List.pairwise_cons.1 ordered
      have next : (system.visible rules path location ++ pending).Pairwise Before :=
        List.pairwise_append.2 ⟨visible_ordered path location, later,
          fun child member other inside =>
            (here other inside).behind (behind_of_visible member) (List.prefix_refl _)⟩
      obtain ⟨sorted, behind⟩ := induction next
      rw [files_of_enters enters fresh]
      refine ⟨sorted, fun other member => ?_⟩
      obtain ⟨first, inside, begins⟩ := behind other member
      rcases List.mem_append.1 inside with child | pendingStill
      · exact ⟨path, by simp, (behind_of_visible child).trans begins⟩
      · exact ⟨first, List.mem_cons_of_mem path pendingStill, begins⟩

end Order

/-- Directories lead down by these names, and none of the names is ignored. -/
inductive Opened (system : FileSystem) (ignored : List String) (start : Location) :
    List String → Prop
  | start : Opened system ignored start []
  | down {folders : List String} {name : String} (above : Opened system ignored start folders)
      (named : isName name = true)
      (there : system.lookup? (start ++ folders ++ [name]) = some .directory)
      (kept : name ∉ ignored) : Opened system ignored start (folders ++ [name])

def Listable (directory : Path) (folders : List String) : Prop :=
  (directory.extend folders).text.utf8ByteSize < longestPath ∧
    ∀ name ∈ folders, name.utf8ByteSize ≤ longestName

section Opened

variable {directory : Path} {start location : Location} {folders ignored : List String}
  {name : String}

theorem Listable.above (listable : Listable directory (folders ++ [name]))
    (named : isName name = true) : Listable directory folders := by
  obtain ⟨short, names⟩ := listable
  rw [← Path.extend_child] at short
  exact ⟨Nat.lt_of_le_of_lt (Path.text_size_le_child (downward_of_name named).filled) short,
    fun other member => names other (List.mem_append_left _ member)⟩

theorem Opened.named (opened : system.Opened ignored start folders) :
    ∀ name ∈ folders, isName name = true := by
  induction opened with
  | start => simp
  | down above named found kept induction =>
      exact List.forall_mem_append.2 ⟨induction, List.forall_mem_singleton.2 named⟩

theorem Opened.first {passed : List String} (opened : system.Opened ignored start folders)
    (shorter : passed <+: folders) : system.Opened ignored start passed := by
  induction opened with
  | start => rw [List.prefix_nil.1 shorter]; exact .start
  | down above named there kept induction =>
      rcases List.prefix_concat_iff.1 shorter with rfl | before
      · exact above.down named there kept
      · exact induction before

theorem opened_down_iff : system.Opened ignored start (folders ++ [name]) ↔
    system.Opened ignored start folders ∧ isName name = true ∧
      system.lookup? (start ++ folders ++ [name]) = some .directory ∧ name ∉ ignored := by
  constructor
  · generalize whole : folders ++ [name] = names
    intro opened
    cases opened with
    | start => simp at whole
    | down above named there kept =>
        obtain ⟨rfl, same⟩ := List.append_inj' whole rfl
        obtain rfl := List.singleton_inj.1 same
        exact ⟨above, named, there, kept⟩
  · rintro ⟨above, named, there, kept⟩
    exact above.down named there kept

theorem Opened.is_directory (opened : system.Opened ignored start folders)
    (there : system.lookup? start = some .directory) :
    system.isDirectoryAt (start ++ folders) = true := by
  cases opened with
  | start => simpa [isDirectoryAt] using there
  | down above named found kept => simpa [isDirectoryAt] using found

section Located

variable (located : system.locate directory = .ok start)
  (there : system.lookup? start = some .directory)

include located there

theorem Opened.followed (opened : system.Opened ignored start folders)
    (short : ∀ name ∈ folders, name.utf8ByteSize ≤ longestName) :
    ∃ left, ∀ rest, system.follow true mostLinks (system.start directory)
      (directory.names ++ (folders ++ rest)) = system.follow true left (start ++ folders) rest := by
  induction opened with
  | start =>
      obtain ⟨left, -, same⟩ := follow_append (located_iff.1 located).2
      exact ⟨left, fun rest => by simpa using same 0 rest⟩
  | @down folders name above named found kept induction =>
      obtain ⟨left, same⟩ := induction fun other member =>
        short other (List.mem_append_left _ member)
      refine ⟨left, fun rest => ?_⟩
      rw [List.append_assoc, same, List.singleton_append,
        follow_name (above.is_directory there) named (short name (by simp)) found (by simp),
        List.append_assoc]

theorem Opened.short (opened : system.Opened ignored start folders) {rest : List String}
    {arrival : Arrival} (arrived : system.follow true mostLinks (system.start directory)
      (directory.names ++ (folders ++ rest)) = .ok arrival) :
    ∀ name ∈ folders, name.utf8ByteSize ≤ longestName := by
  induction opened generalizing rest with
  | start => simp
  | @down folders name above named found kept induction =>
      rw [List.append_assoc, List.singleton_append] at arrived
      have before := induction arrived
      obtain ⟨left, same⟩ := above.followed located there before
      rw [same] at arrived
      refine List.forall_mem_append.2 ⟨before, List.forall_mem_singleton.2 ?_⟩
      exact (looks_up_of_followed named arrived).short

/-- An opened directory is found under its path just where this can be listed. -/
theorem Opened.located_iff (opened : system.Opened ignored start folders) :
    system.locate (directory.extend folders) = .ok location ↔
      Listable directory folders ∧ location = start ++ folders := by
  rw [FileSystem.located_iff]
  change _ ∧ system.follow true mostLinks (system.start directory) (directory.names ++ folders) =
    _ ↔ _
  have whole : directory.names ++ folders = directory.names ++ (folders ++ []) := by simp
  rw [whole]
  constructor
  · rintro ⟨size, arrived⟩
    have short := opened.short located there arrived
    obtain ⟨left, same⟩ := opened.followed located there short
    rw [same, follow_nothing] at arrived
    cases arrived
    exact ⟨⟨size, short⟩, rfl⟩
  · rintro ⟨⟨size, short⟩, rfl⟩
    obtain ⟨left, same⟩ := opened.followed located there short
    rw [same, follow_nothing]
    exact ⟨size, rfl⟩

end Located

theorem Opened.real_path (opened : system.Opened ignored start folders)
    (there : system.lookup? start = some .directory)
    (real : system.realPath directory = ⟨.root, start⟩) :
    system.realPath (directory.extend folders) = ⟨.root, start ++ folders⟩ := by
  refine real_path_extend real (fun name member => downward_of_name (opened.named name member))
    fun passed shorter _ target link => ?_
  have found := (opened.first shorter).is_directory there
  rw [isDirectoryAt, decide_eq_true_iff, link] at found
  cases found

end Opened

/-- A file that a walk gives where no links are followed. -/
structure WalksTo (system : FileSystem) (rules : WalkRules) (directory : Path) (start : Location)
    (folders : List String) (name : String) : Prop where
  opened : system.Opened rules.ignored start folders
  listable : Listable directory folders
  named : isName name = true
  wanted : rules.wants name = true
  there : ∃ content, system.lookup? (start ++ folders ++ [name]) = some (.file content)

/-- Of the directories that a walk comes to, in a directory that can be listed, no opened one lies
too deep. -/
def PlainRoom (system : FileSystem) (ignored : List String) (directory : Path) (start : Location) :
    Prop :=
  ∀ folders name, system.Opened ignored start (folders ++ [name]) → Listable directory folders →
    folders.length < system.platform.walkRoom.levels

section Plain

variable {directory path : Path} {start location : Location} {folders : List String}
  (plain : ∀ names target, system.lookup? (start ++ names) = some (.link target) →
    rules.followLinks = false)
  (located : system.locate directory = .ok start) (there : system.lookup? start = some .directory)

def OpenedEntry (system : FileSystem) (rules : WalkRules) (directory : Path) (start : Location)
    (path : Path) : Prop :=
  ∃ folders name entry, path = (directory.extend folders).child name ∧
    system.Opened rules.ignored start folders ∧
    system.locate (directory.extend folders) = .ok (start ++ folders) ∧ isName name = true ∧
    system.lookup? (start ++ folders ++ [name]) = some entry ∧ ∀ target, entry ≠ .link target

include plain

/-- An entry that the walk looks at is no link: where links are followed, there are none. -/
theorem plain_of_shown {name : String} {entry : Entry}
    (shown : system.Shown rules (start ++ folders) name)
    (here : system.lookup? (start ++ folders ++ [name]) = some entry) :
    ∀ target, entry ≠ .link target := by
  rintro target rfl
  rcases shown with links | noLink
  · rw [List.append_assoc] at here
    rw [plain _ target here] at links
    cases links
  · exact noLink target here

omit plain

include located there

theorem met_of_entry {folder : Path} {name : String} {entry : Entry}
    (entered : ⟨folder, location⟩ ∈ system.folders rules directory start)
    (found : system.locate folder = .ok location) (named : isName name = true)
    (here : system.lookup? (location ++ [name]) = some entry)
    (noLink : ∀ target, entry ≠ .link target) :
    folder.child name ∈ system.metBelow rules directory start := by
  refine (child_met_iff located there).2 ⟨location, entered, found, mem_names_iff.2 ⟨named, ?_⟩,
    Or.inr fun target link => ?_⟩
  · rw [here]
    simp
  · rw [here] at link
    exact noLink target (Option.some.inj link)

include plain

theorem opened_entries (opened : system.Opened rules.ignored start folders) :
    ∀ path ∈ system.visible rules (directory.extend folders) (start ++ folders),
      system.OpenedEntry rules directory start path := by
  intro path member
  obtain ⟨⟨listed, found⟩, name, named, shown, rfl⟩ := mem_visible_iff.1 member
  obtain ⟨filled, present⟩ := mem_names_iff.1 named
  obtain ⟨entry, here⟩ := Option.ne_none_iff_exists'.1 present
  rw [((opened.located_iff located there).1 found).2] at found
  exact ⟨folders, name, entry, rfl, opened, found, filled, here, plain_of_shown plain shown here⟩

theorem opened_of_folder : ∀ folder ∈ system.folders rules directory start, ∃ folders,
    folder = ⟨directory.extend folders, start ++ folders⟩ ∧
      system.Opened rules.ignored start folders := by
  have entered : ∀ path location, system.OpenedEntry rules directory start path →
      system.Enters rules path location → ∃ folders, path = directory.extend folders ∧
        location = start ++ folders ∧ system.Opened rules.ignored start folders := by
    rintro path location ⟨folders, name, entry, rfl, opened, found, named, here, noLink⟩
      ⟨placed, directoryHere, kept⟩
    rw [place_plain found here noLink] at placed
    cases placed
    rw [Path.last_name_child] at kept
    exact ⟨folders ++ [name], Path.extend_child _ _ _, by rw [List.append_assoc],
      opened.down named directoryHere (by simpa using kept)⟩
  have first := opened_entries plain located there (.start : system.Opened rules.ignored start [])
  rw [Path.extend_nil, List.append_nil] at first
  have below := (met_holds [system.realNames directory] first fun path location holds enters => by
    obtain ⟨folders, rfl, rfl, opened⟩ := entered path location holds enters
    exact opened_entries plain located there opened).1
  intro folder member
  rcases List.mem_cons.1 member with rfl | later
  · exact ⟨[], by simp [Path.extend_nil], .start⟩
  · obtain ⟨holds, enters⟩ := below folder later
    obtain ⟨folders, path, location, opened⟩ := entered _ _ holds enters
    exact ⟨folders, by rw [← path, ← location], opened⟩

variable (real : system.realPath directory = ⟨.root, start⟩)

include real

/-- By induction on the names: the walk enters a directory that is opened and can be listed. -/
theorem folder_of_opened (opened : system.Opened rules.ignored start folders)
    (listable : Listable directory folders) :
    ⟨directory.extend folders, start ++ folders⟩ ∈ system.folders rules directory start := by
  induction opened with
  | start => simp [FileSystem.folders, Path.extend_nil]
  | @down folders name above named found kept induction =>
      have upper := listable.above named
      have located_above := (above.located_iff located there).2 ⟨upper, rfl⟩
      have met := met_of_entry located there (induction upper) located_above named found (by simp)
      have enters : system.Enters rules ((directory.extend folders).child name)
          (start ++ folders ++ [name]) :=
        ⟨place_plain located_above found (by simp), found, by simpa using kept⟩
      have here : system.realNames ((directory.extend folders).child name) =
          start ++ (folders ++ [name]) := by
        rw [Path.extend_child, realNames, (above.down named found kept).real_path there real]
      rcases met_closed _ met _ enters with first | ⟨folder, entered, same⟩
      · -- Nothing below the start is the start again.
        rw [here, List.mem_singleton, realNames, real] at first
        have length := congrArg List.length first
        simp at length
      · have member := List.mem_cons_of_mem (⟨directory, start⟩ : Folder) entered
        obtain ⟨others, rfl, opened⟩ := opened_of_folder plain located there folder member
        rw [here, realNames, opened.real_path there real] at same
        rw [List.append_cancel_left same] at member
        exact member

theorem child_met_plain_iff {name : String} {folder : Path} :
    folder.child name ∈ system.metBelow rules directory start ↔
      ∃ folders, folder = directory.extend folders ∧ system.Opened rules.ignored start folders ∧
        Listable directory folders ∧ name ∈ system.names (start ++ folders) ∧
          system.Shown rules (start ++ folders) name := by
  rw [child_met_iff located there]
  constructor
  · rintro ⟨location, entered, found, named, shown⟩
    obtain ⟨folders, same, opened⟩ := opened_of_folder plain located there _ entered
    cases same
    exact ⟨folders, rfl, opened, ((opened.located_iff located there).1 found).1, named, shown⟩
  · rintro ⟨folders, rfl, opened, listable, named, shown⟩
    exact ⟨_, folder_of_opened plain located there real opened listable,
      (opened.located_iff located there).2 ⟨listable, rfl⟩, named, shown⟩

theorem mem_plain_files_iff : path ∈ system.filesBelow rules directory start ↔
    ∃ folders name, path = directory.extend (folders ++ [name]) ∧
      system.WalksTo rules directory start folders name := by
  rw [mem_files_iff]
  constructor
  · rintro ⟨met, wanted, placed, content, given, file⟩
    obtain ⟨folder, _, name, entry⟩ := (entries_of_walk rules located there).2 path met
    obtain rfl := entry.path_eq
    obtain ⟨folders, rfl, opened, listable, named, shown⟩ :=
      (child_met_plain_iff plain located there real).1 met
    have found := (opened.located_iff located there).2 ⟨listable, rfl⟩
    obtain ⟨entryHere, here⟩ := Option.ne_none_iff_exists'.1 (mem_names_iff.1 named).2
    rw [place_plain found here (plain_of_shown plain shown here)] at given
    cases given
    rw [Path.last_name_child] at wanted
    exact ⟨folders, name, Path.extend_child _ _ _, opened, listable, (mem_names_iff.1 named).1,
      wanted, content, file⟩
  · rintro ⟨folders, name, rfl, opened, listable, named, wanted, content, file⟩
    have found := (opened.located_iff located there).2 ⟨listable, rfl⟩
    rw [← Path.extend_child]
    have entered := folder_of_opened plain located there real opened listable
    refine ⟨met_of_entry located there entered found named file (by simp), ?_, _, content,
      place_plain found file (by simp), file⟩
    rw [Path.last_name_child, wanted]

theorem mem_plain_directories_iff :
    path ∈ system.directoriesFrom rules [system.realNames directory]
        (system.visible rules directory start) ↔
      ∃ folders name, path = directory.extend (folders ++ [name]) ∧
        system.Opened rules.ignored start (folders ++ [name]) ∧ Listable directory folders := by
  rw [mem_directories_iff]
  constructor
  · rintro ⟨met, location, placed, found, kept⟩
    obtain ⟨folder, _, name, entry⟩ := (entries_of_walk rules located there).2 path met
    obtain rfl := entry.path_eq
    obtain ⟨folders, rfl, opened, listable, named, shown⟩ :=
      (child_met_plain_iff plain located there real).1 met
    obtain ⟨filled, present⟩ := mem_names_iff.1 named
    obtain ⟨entryHere, here⟩ := Option.ne_none_iff_exists'.1 present
    rw [place_plain ((opened.located_iff located there).2 ⟨listable, rfl⟩) here
      (plain_of_shown plain shown here)] at placed
    cases placed
    rw [Path.last_name_child] at kept
    exact ⟨folders, name, Path.extend_child _ _ _,
      opened_down_iff.2 ⟨opened, filled, found, by simpa using kept⟩, listable⟩
  · rintro ⟨folders, name, rfl, opened, listable⟩
    obtain ⟨above, named, found, kept⟩ := opened_down_iff.1 opened
    have listed := (above.located_iff located there).2 ⟨listable, rfl⟩
    rw [← Path.extend_child]
    refine ⟨met_of_entry located there (folder_of_opened plain located there real above listable)
      listed named found (by simp), _, place_plain listed found (by simp), found, ?_⟩
    rw [Path.last_name_child]
    simpa using kept

variable (rules) in
theorem plain_room_iff : system.HasRoom rules directory start ↔
    system.PlainRoom rules.ignored directory start := by
  have length (folders : List String) (name : String) :
      (directory.extend (folders ++ [name])).names.length =
        directory.names.length + (folders.length + 1) := by
    simp [Path.extend]
  constructor
  · intro room folders name opened listable
    have deep := room _ ((mem_plain_directories_iff plain located there real).2
      ⟨folders, name, rfl, opened, listable⟩)
    rw [length] at deep
    omega
  · intro room path member
    obtain ⟨folders, name, rfl, opened, listable⟩ :=
      (mem_plain_directories_iff plain located there real).1 member
    have shallow := room folders name opened listable
    rw [length]
    omega

end Plain

def plainRules (extensions ignored : List String) : WalkRules :=
  ⟨extensions.map Text.lowerCase, ignored, false⟩

section PlainRules

variable {extensions ignored : List String} {directory : Path} {start : Location} {name : String}

/-- Of texts, the rules keep the lowered forms, whatever is ignored and whether links are
followed. -/
theorem rules_of_texts (extensions : List String) (ignored follow : Value) :
    WalkRules.ofValues (.list (extensions.map .str)) ignored follow = (do
      let names ← ignored.members
      pure ⟨extensions.map Text.lowerCase, names.filterMap Value.keyText?, follow.truthy⟩) := by
  have lowered := Value.lowered_texts extensions
  unfold WalkRules.ofValues
  simp only [Value.elements, bind, Except.bind, pure, Except.pure] at lowered ⊢
  rw [lowered]
  rfl

section Real

variable (located : system.locate directory = .ok start)
  (there : system.lookup? start = some .directory)
  (real : system.realPath directory = ⟨.root, start⟩)

include located there real

end Real

theorem opened_congr {other : FileSystem} {place : Location}
    (same : ∀ names, other.lookup? (place ++ names) = system.lookup? (start ++ names))
    {folders : List String} (opened : system.Opened ignored start folders) :
    other.Opened ignored place folders := by
  induction opened with
  | start => exact .start
  | @down folders name above named found kept induction =>
      refine induction.down named ?_ kept
      rw [List.append_assoc, same, ← List.append_assoc, found]

theorem files_ordered (rules : WalkRules) (start : Location) :
    (system.filesBelow rules directory start).Pairwise
      fun first second => first.names < second.names :=
  (files_from_ordered (visible_ordered directory start)).1.imp Before.lt

/-- Paths in order are told by which of them are there. -/
theorem eq_of_ordered {found again : List Path}
    (ordered : found.Pairwise fun first second => first.names < second.names)
    (orderedToo : again.Pairwise fun first second => first.names < second.names)
    (same : ∀ path, path ∈ found ↔ path ∈ again) : found = again := by
  have irreflexive : Std.Irrefl fun first second : Path => first.names < second.names :=
    ⟨fun path => lt_irrefl path.names⟩
  have antisymmetric : Std.Antisymm fun first second : Path => first.names < second.names :=
    ⟨fun first second less more => absurd more (lt_asymm less)⟩
  exact ordered.eq_of_mem_iff orderedToo same

end PlainRules

namespace LongSpelling

def files : FileSystem where
  entries := [(["s"], .directory), (["s", "inner"], .directory), (["s", "inner", "f.js"], .file [])]
  workingDirectory := []
  platform := .ordinary

def scripts : WalkRules := plainRules [".js"] []

/-- The outer folder, left and entered again until its path is nearly too long. -/
def directory : Path := ⟨.root, "s" :: (List.replicate 818 ["..", "s"]).flatten⟩

theorem directory_size (names : List String) :
    (directory.extend names).text.utf8ByteSize = 4092 + Path.slashedSize names := by
  have around : ∀ count,
      Path.slashedSize ((List.replicate count ["..", "s"]).flatten) = 5 * count := by
    intro count
    have once : Path.slashedSize ["..", "s"] = 5 := by decide
    induction count with
    | zero => rfl
    | succ count induction =>
        rw [List.replicate_succ, List.flatten_cons, Path.slashed_size_append, induction, once]
        omega
  have first : Path.slashedSize ["s"] = 2 := by decide
  change (Path.text ⟨.root, "s" :: ((List.replicate 818 ["..", "s"]).flatten ++
    names)⟩).utf8ByteSize = _
  rw [Path.text_size_of_root (List.cons_ne_nil _ _), ← List.singleton_append,
    Path.slashed_size_append, Path.slashed_size_append, around, first]
  omega

theorem follow_around (count : Nat) (rest : List String) :
    files.follow true mostLinks ["s"] ((List.replicate count ["..", "s"]).flatten ++ rest) =
      files.follow true mostLinks ["s"] rest := by
  induction count with
  | zero => rfl
  | succ count induction =>
      rw [List.replicate_succ, List.flatten_cons, List.append_assoc, List.cons_append,
        List.cons_append, List.nil_append, follow_up rfl]
      exact (follow_name rfl (by decide) (by decide) rfl (by simp) _).trans induction

theorem top : files.locate directory = .ok ["s"] := by
  have size := directory_size []
  have around := follow_around 818 []
  rw [Path.extend_nil] at size
  rw [List.append_nil, follow_nothing] at around
  refine located_iff.2 ⟨by rw [size]; decide, ?_⟩
  rw [directory]
  exact (follow_name rfl (by decide) (by decide) rfl (by simp) _).trans around

theorem inner_refused : files.locate (directory.child "inner") = .error .nameTooLong := by
  have size : (directory.child "inner").text.utf8ByteSize = 4098 := directory_size ["inner"]
  exact locate_too_long (by rw [size]; decide)

theorem visits : files.visitsFrom scripts [files.realNames directory]
    (files.visible scripts directory ["s"]) =
      [.entered (directory.child "inner") ["s", "inner"]] := by
  have reach : files.LinksInReach := links_in_reach (by decide)
  have listed : files.names ["s"] = ["inner"] := names_of_written (by decide) (by decide)
  have visible : files.visible scripts directory ["s"] = [directory.child "inner"] := by
    rw [visible, top, listed]
    rfl
  have hidden : files.visible scripts (directory.child "inner") ["s", "inner"] = [] := by
    rw [FileSystem.visible, inner_refused]
  have enters : files.Enters scripts (directory.child "inner") ["s", "inner"] :=
    ⟨place_plain top rfl (by simp), rfl, rfl⟩
  have fresh : files.realNames (directory.child "inner") ∉ [files.realNames directory] := by
    rw [realNames, realNames, real_path_of_located reach top,
      real_path_of_placed reach (by decide) enters.placed]
    decide
  rw [visible, visits_of_enters enters fresh, hidden, List.nil_append, visitsFrom]

theorem nothing_found : files.walk scripts directory = .ok [] := by
  rw [walk, walked_of_located (directory_of_located top rfl) top, visits, go_along_shallow]
  · rfl
  · refine List.forall_mem_singleton.2 ?_
    rw [Path.child, List.length_append]
    exact Nat.add_le_add_left (by decide) _

end LongSpelling

namespace NestedFolders

/-- Folders inside one another, and a file in the last of them. -/
def files (depth : Nat) : FileSystem where
  entries := nested "d" depth ++ [(List.replicate depth "d" ++ ["f.js"], .file [])]
  workingDirectory := []
  platform := .ordinary

def top : Path := ⟨.root, []⟩

variable {depth count : Nat}

variable (count) in
theorem path_size (names : List String) (filled : List.replicate count "d" ++ names ≠ []) :
    (Path.text ⟨.root, List.replicate count "d" ++ names⟩).utf8ByteSize =
      2 * count + Path.slashedSize names := by
  have name : "d".utf8ByteSize = 1 := by decide
  rw [Path.text_size_of_root filled, Path.slashed_size_append, Path.slashed_size_replicate, name]

theorem folder_there (few : count < depth) :
    (files depth).lookup? (List.replicate (count + 1) "d") = some .directory := by
  change (nested "d" depth ++ _).lookup _ = _
  rw [List.lookup_append, lookup_nested "d" few]
  rfl

theorem opened (few : count ≤ depth) : (files depth).Opened [] [] (List.replicate count "d") := by
  induction count with
  | zero => exact .start
  | succ count induction =>
      rw [List.replicate_succ']
      refine .down (induction (Nat.le_of_succ_le few)) (by decide) ?_ (by simp)
      rw [List.nil_append, ← List.replicate_succ']
      exact folder_there few

theorem reach (short : 2 * depth + 5 < longestPath) : (files depth).LinksInReach := by
  refine links_in_reach fun entry member => ?_
  rcases List.mem_append.1 member with folders | last
  · obtain ⟨count, less, rfl⟩ := List.mem_map.1 folders
    have few := List.mem_range.1 less
    have size := path_size (count + 1) [] (by simp)
    rw [List.append_nil, Path.slashedSize] at size
    rw [size]
    omega
  · have file : Path.slashedSize ["f.js"] = 5 := by decide
    rw [List.mem_singleton.1 last, path_size _ _ (by simp), file]
    exact short

end NestedFolders

namespace OutOfReach

theorem follow_up_at_top (links count : Nat) :
    files.follow true links [] (List.replicate count "..") = .ok (.entry []) := by
  induction count with
  | zero => exact follow_nothing true links []
  | succ count induction =>
      rw [List.replicate_succ, follow_up rfl]
      exact induction

theorem real_up (resolved : List (Location × Location)) (opened : List Location)
    (rest : List Pending) (count : Nat) :
    files.realFrom resolved opened (deep (count + 1))
        (List.replicate count (.step "..") ++ rest) =
      files.realFrom resolved opened (deep 1) rest := by
  induction count with
  | zero => rfl
  | succ count induction =>
      rw [List.replicate_succ, List.cons_append, realFrom, if_neg (by decide), if_pos rfl,
        deep_next, List.dropLast_concat]
      exact induction

/-- Through the last folder and one of its links, and up again as often as leads from the place of
the link to the first folder. From where the link leads this is the way to the top. -/
def roundabout : Path :=
  ⟨.root, "a" :: (deep 14 ++ (long 'k' :: List.replicate 15 ".."))⟩

theorem roundabout_size (names : List String) :
    (roundabout.extend names).text.utf8ByteSize = 3887 + Path.slashedSize names := by
  have up : "..".utf8ByteSize = 2 := by decide
  have size : (roundabout.extend names).text.utf8ByteSize = _ :=
    directory_size (long 'k' :: (List.replicate 15 ".." ++ names))
  rw [size, Path.slashedSize, Path.slashed_size_append, Path.slashed_size_replicate, up,
    long_sizes.2]
  omega

theorem roundabout_located : files.locate roundabout = .ok [] := by
  have size := roundabout_size []
  rw [Path.extend_nil] at size
  refine located_iff.2 ⟨by rw [size]; decide, ?_⟩
  have followed := follow_top 39 (long 'k' :: List.replicate 15 "..")
  refine followed.trans ((follow_to_folder 38 _ long_names.2 (Nat.le_of_eq long_sizes.2)
    links_there.1).trans ?_)
  rw [List.replicate_succ, follow_up rfl]
  exact follow_up_at_top 38 14

theorem roundabout_real (rest : List Pending) :
    files.realFrom [] [] [] (roundabout.names.map .step ++ rest) =
      files.realFrom [(["a"], deep 1)] [["a"]] (deep 1) rest := by
  have down := downward_of_name long_names.2
  have steps : roundabout.names.map Pending.step ++ rest = .step "a" :: ((deep 14).map .step ++
      (.step (long 'k') :: .step ".." :: (List.replicate 14 (.step "..") ++ rest))) := by
    simp [roundabout, List.replicate_succ]
  rw [steps, real_top, real_from_plain (by simp [down.filled, down.moves]) down.down
    far_link_unseen, realFrom, if_neg (by decide), if_pos rfl, List.dropLast_concat, real_up]

/-- The first folder has a link of the name of the folder at the top, which leads back to it. -/
theorem folder_known : files.realNames (roundabout.child "d") = files.realNames roundabout := by
  have start : files.realNames roundabout = deep 1 := by
    have real := roundabout_real []
    rwa [List.append_nil, realFrom] at real
  have apart : ["a"].getLast? ≠ (deep 1 ++ ["d"]).getLast? := by decide
  have unknown : List.lookup (deep 1 ++ ["d"]) [(["a"], deep 1)] = none := by
    refine lookup_of_last fun entry member => ?_
    rw [List.mem_singleton.1 member]
    exact apart
  have unmet : deep 1 ++ ["d"] ∉ [["a"]] := fun member =>
    apart (congrArg List.getLast? (List.mem_singleton.1 member)).symm
  have target : steps "." = ["."] ∧ Written.rooted "." = false := by decide
  have names : (roundabout.child "d").names.map Pending.step =
      roundabout.names.map .step ++ [.step "d"] := List.map_append
  rw [start]
  change files.realFrom [] [] [] ((roundabout.child "d").names.map .step) = _
  rw [names, roundabout_real, real_from_link (by decide) (by decide) near_links_seen.2.1, unknown]
  dsimp only
  rw [if_neg unmet, target.1, target.2]
  simp only [Bool.false_eq_true, if_false, List.map_cons, List.map_nil, List.cons_append,
    List.nil_append]
  rw [realFrom, if_pos (by decide), realFrom, realFrom]

def unlinked : WalkRules := plainRules [".js"] [long 'n']

theorem top_folders : files.visible unlinked roundabout [] =
    [roundabout.child "d", roundabout.child (long 'n')] := by
  have there : files.lookup? ([] ++ [long 'n']) = some .directory := folder_there 0 (by decide)
  have few : others.filterMap (fun entry => nameIn? [] entry.1) = ["a", "d"] := by decide
  have first : (nested (long 'n') 15).filterMap (fun entry => nameIn? [] entry.1) =
      [long 'n'] := by rfl
  have apart : long 'n' ≠ "a" ∧ long 'n' ≠ "d" :=
    ⟨(ne_long (by decide)).1.symm, (ne_long (by decide)).1.symm⟩
  have names : files.names [] = ["a", "d", long 'n'] := by
    refine names_of_written ?_ ?_
    · rw [files, List.filterMap_append, few, first]
      simp [long_names.1, apart, List.eraseDups_cons, show isName "a" = true by decide,
        show isName "d" = true by decide]
    · refine .cons (fun right member => ?_) (List.pairwise_pair.2 (long_behind (by decide)))
      rcases List.mem_pair.1 member with rfl | rfl
      · decide
      · exact long_behind (by decide)
  rw [visible, roundabout_located, names]
  simp only [unlinked, plainRules, Bool.false_or, List.filter_cons, there]
  rfl

theorem nothing_found : files.walk unlinked roundabout = .ok [] := by
  have folder : files.Enters unlinked (roundabout.child "d") ["d"] := by
    refine ⟨place_plain roundabout_located rfl (by simp), rfl, ?_⟩
    rw [Path.last_name_child]
    have apart : "d" ≠ long 'n' := (ne_long (by decide)).1
    simp [unlinked, plainRules, apart]
  have there : files.lookup? ([] ++ [long 'n']) = some .directory := folder_there 0 (by decide)
  have placed : files.place (roundabout.child (long 'n')) = .ok ([] ++ [long 'n']) :=
    place_plain roundabout_located there (by simp)
  have visits : files.visitsFrom unlinked [files.realNames roundabout]
      (files.visible unlinked roundabout []) = [.known (roundabout.child "d")] := by
    rw [top_folders, visits_of_known folder (by rw [folder_known]; exact List.mem_cons_self),
      visitsFrom, placed]
    simp only [there]
    rw [if_pos (by rw [Path.last_name_child]; simp [unlinked, plainRules]), visitsFrom]
  rw [walk, walked_of_located (directory_of_located roundabout_located rfl) roundabout_located,
    visits, go_along_shallow]
  · rfl
  · refine List.forall_mem_singleton.2 ?_
    rw [Path.child, List.length_append]
    exact Nat.add_le_add_left (by decide) _

end OutOfReach
end FileSystem

end ImportImpact
