import ImportImpact.Proofs.FileSystem.Entries

/-!
The directories that a walk enters. Each is entered once, under the path by which it is met first;
the walk looks at the entries of those alone, and it gives the files among them. The statements are
about a walk that has entered some directories before and has paths pending, by induction on its
steps.
-/

namespace ImportImpact.FileSystem

variable {system : FileSystem} {rules : WalkRules}

/-- A directory and the path under which it is entered. -/
structure Folder where
  path : Path
  location : Location

namespace Visit

def folder? : Visit → Option Folder
  | .entered path location => some ⟨path, location⟩
  | _ => none

def file? : Visit → Option Path
  | .file path => some path
  | _ => none

/-- The directory that the walk goes into, and be it only to find that it knows it. -/
def directory? : Visit → Option Path
  | .entered path _ | .known path => some path
  | .file _ => none

end Visit

section From

variable (system : FileSystem) (rules : WalkRules) (entered : List Location) (pending : List Path)

def foldersFrom : List Folder :=
  (system.visitsFrom rules entered pending).filterMap Visit.folder?

def filesFrom : List Path :=
  (system.visitsFrom rules entered pending).filterMap Visit.file?

def directoriesFrom : List Path :=
  (system.visitsFrom rules entered pending).filterMap Visit.directory?

end From

/-- All paths that the walk looks at: the pending ones and the entries of what it enters. -/
def metFrom (system : FileSystem) (rules : WalkRules) (entered : List Location)
    (pending : List Path) : List Path :=
  pending ++ (system.foldersFrom rules entered pending).flatMap fun folder =>
    system.visible rules folder.path folder.location

/-- The path leads to a directory that a walk may enter. -/
structure Enters (system : FileSystem) (rules : WalkRules) (path : Path) (location : Location) :
    Prop where
  placed : system.place path = .ok location
  there : system.lookup? location = some .directory
  kept : rules.ignored.contains path.lastName = false

def Gives (system : FileSystem) (rules : WalkRules) (path : Path) : Prop :=
  rules.wants path.lastName = true ∧ ∃ location content,
    system.place path = .ok location ∧ system.lookup? location = some (.file content)

section Step

variable {entered : List Location} {path : Path} {pending : List Path} {location : Location}

theorem not_gives (placed : system.place path = .ok location)
    (there : system.lookup? location = some .directory) : ¬system.Gives rules path := by
  simp [Gives, placed, there]

theorem visits_of_enters (enters : system.Enters rules path location)
    (fresh : system.realNames path ∉ entered) :
    system.visitsFrom rules entered (path :: pending) =
      .entered path location :: system.visitsFrom rules (system.realNames path :: entered)
        (system.visible rules path location ++ pending) := by
  obtain ⟨placed, there, kept⟩ := enters
  rw [visitsFrom, placed]
  simp only [there, kept, Bool.false_eq_true, if_false, if_neg fresh]

theorem visits_of_known (enters : system.Enters rules path location)
    (known : system.realNames path ∈ entered) :
    system.visitsFrom rules entered (path :: pending) =
      .known path :: system.visitsFrom rules entered pending := by
  obtain ⟨placed, there, kept⟩ := enters
  rw [visitsFrom, placed]
  simp only [there, kept, Bool.false_eq_true, if_false, if_pos known]

open Classical in
theorem visits_of_closed (closed : ∀ location, ¬system.Enters rules path location) :
    system.visitsFrom rules entered (path :: pending) =
      if system.Gives rules path then .file path :: system.visitsFrom rules entered pending
      else system.visitsFrom rules entered pending := by
  rw [visitsFrom]
  cases placed : system.place path with
  | error refusal => simp [Gives, placed]
  | ok location =>
      cases there : system.lookup? location with
      | none => simp [Gives, placed, there]
      | some entry =>
          cases entry with
          | link target => simp [Gives, placed, there]
          | file content => simp [Gives, placed, there]
          | directory =>
              rw [if_neg (not_gives placed there)]
              cases ignored : rules.ignored.contains path.lastName with
              | true => simp only [there, if_true]
              | false => exact absurd ⟨placed, there, ignored⟩ (closed location)

theorem folders_of_enters (enters : system.Enters rules path location)
    (fresh : system.realNames path ∉ entered) :
    system.foldersFrom rules entered (path :: pending) =
      ⟨path, location⟩ :: system.foldersFrom rules (system.realNames path :: entered)
        (system.visible rules path location ++ pending) := by
  rw [foldersFrom, visits_of_enters enters fresh]
  rfl

theorem files_of_enters (enters : system.Enters rules path location)
    (fresh : system.realNames path ∉ entered) :
    system.filesFrom rules entered (path :: pending) =
      system.filesFrom rules (system.realNames path :: entered)
        (system.visible rules path location ++ pending) := by
  rw [filesFrom, visits_of_enters enters fresh]
  rfl

theorem directories_of_enters (enters : system.Enters rules path location)
    (fresh : system.realNames path ∉ entered) :
    system.directoriesFrom rules entered (path :: pending) =
      path :: system.directoriesFrom rules (system.realNames path :: entered)
        (system.visible rules path location ++ pending) := by
  rw [directoriesFrom, visits_of_enters enters fresh]
  rfl

section Passed

variable (known : ∀ location, system.Enters rules path location →
  system.realNames path ∈ entered)

include known

theorem folders_of_passed : system.foldersFrom rules entered (path :: pending) =
    system.foldersFrom rules entered pending := by
  classical
  by_cases opens : ∃ location, system.Enters rules path location
  · obtain ⟨location, enters⟩ := opens
    rw [foldersFrom, visits_of_known enters (known location enters)]
    rfl
  · rw [foldersFrom, visits_of_closed (not_exists.1 opens)]
    split <;> rfl

open Classical in
theorem files_of_passed : system.filesFrom rules entered (path :: pending) =
    if system.Gives rules path then path :: system.filesFrom rules entered pending
    else system.filesFrom rules entered pending := by
  by_cases opens : ∃ location, system.Enters rules path location
  · obtain ⟨location, enters⟩ := opens
    rw [filesFrom, visits_of_known enters (known location enters),
      if_neg (not_gives enters.placed enters.there)]
    rfl
  · rw [filesFrom, visits_of_closed (not_exists.1 opens)]
    split <;> rfl

open Classical in
theorem directories_of_passed : system.directoriesFrom rules entered (path :: pending) =
    if ∃ location, system.Enters rules path location then
      path :: system.directoriesFrom rules entered pending
    else system.directoriesFrom rules entered pending := by
  by_cases opens : ∃ location, system.Enters rules path location
  · rw [if_pos opens]
    obtain ⟨location, enters⟩ := opens
    rw [directoriesFrom, visits_of_known enters (known location enters)]
    rfl
  · rw [directoriesFrom, visits_of_closed (not_exists.1 opens), if_neg opens]
    split <;> rfl

end Passed

/-- A run of the walk, by its steps: it enters the directory at the next path, or it goes on. -/
theorem run_induction (system : FileSystem) (rules : WalkRules)
    {motive : List Location → List Path → Prop} (ends : ∀ entered, motive entered [])
    (enters : ∀ entered path pending location, system.Enters rules path location →
      system.realNames path ∉ entered →
        motive (system.realNames path :: entered)
          (system.visible rules path location ++ pending) → motive entered (path :: pending))
    (passes : ∀ entered path pending, (∀ location, system.Enters rules path location →
      system.realNames path ∈ entered) → motive entered pending → motive entered (path :: pending))
    (entered : List Location) (pending : List Path) : motive entered pending := by
  induction entered, pending using visitsFrom.induct system rules with
  | case1 entered => exact ends entered
  | case2 entered path pending fault lost induction =>
      refine passes entered path pending (fun location enters => ?_) induction
      rw [enters.placed] at lost
      cases lost
  | case3 entered path pending location placed there ignored induction =>
      refine passes entered path pending (fun other enters => ?_) induction
      rw [enters.kept] at ignored
      cases ignored
  | case4 entered path pending location placed there kept met induction =>
      exact passes entered path pending (fun _ _ => met) induction
  | case5 entered path pending location placed there kept fresh induction =>
      exact enters entered path pending location ⟨placed, there, by simpa using kept⟩ fresh
        induction
  | case6 entered path pending location placed content there wanted induction
  | case7 entered path pending location placed content there unwanted induction =>
      refine passes entered path pending (fun other enters => ?_) induction
      rw [enters.placed] at placed
      cases placed
      rw [enters.there] at there
      cases there
  | case8 entered path pending location placed noDirectory noFile induction =>
      refine passes entered path pending (fun other enters => ?_) induction
      rw [enters.placed] at placed
      cases placed
      exact absurd enters.there noDirectory

end Step

section Run

variable {entered : List Location} {pending : List Path}

theorem folders_fresh (system : FileSystem) (rules : WalkRules) (entered : List Location)
    (pending : List Path) :
    ((system.foldersFrom rules entered pending).map (system.realNames ·.path)).Nodup ∧
      ∀ folder ∈ system.foldersFrom rules entered pending,
        system.realNames folder.path ∉ entered := by
  induction entered, pending using run_induction system rules with
  | ends entered => simp [foldersFrom, visitsFrom]
  | passes entered path pending known induction =>
      rw [folders_of_passed known]
      exact induction
  | enters entered path pending location enters fresh induction =>
      obtain ⟨distinct, outside⟩ := induction
      rw [folders_of_enters enters fresh]
      constructor
      · rw [List.map_cons, List.nodup_cons]
        refine ⟨fun again => ?_, distinct⟩
        obtain ⟨folder, member, same⟩ := List.mem_map.1 again
        exact outside folder member (same ▸ List.mem_cons_self)
      · intro folder member
        rcases List.mem_cons.1 member with rfl | later
        · exact fresh
        · exact fun known => outside folder later (List.mem_cons_of_mem _ known)

/-- What holds of the pending paths and goes down to the entries of what is entered holds of all
paths that the walk looks at. -/
theorem met_holds (entered : List Location) {holds : Path → Prop}
    (first : ∀ path ∈ pending, holds path)
    (down : ∀ path location, holds path → system.Enters rules path location →
      ∀ child ∈ system.visible rules path location, holds child) :
    (∀ folder ∈ system.foldersFrom rules entered pending,
      holds folder.path ∧ system.Enters rules folder.path folder.location) ∧
    ∀ path ∈ system.metFrom rules entered pending, holds path := by
  have folders : ∀ folder ∈ system.foldersFrom rules entered pending,
      holds folder.path ∧ system.Enters rules folder.path folder.location := by
    induction entered, pending using run_induction system rules with
    | ends entered => simp [foldersFrom, visitsFrom]
    | passes entered path pending known induction =>
        rw [folders_of_passed known]
        exact induction (List.forall_mem_cons.1 first).2
    | enters entered path pending location enters fresh induction =>
        obtain ⟨here, later⟩ := List.forall_mem_cons.1 first
        rw [folders_of_enters enters fresh, List.forall_mem_cons]
        refine ⟨⟨here, enters⟩, induction (List.forall_mem_append.2 ⟨?_, later⟩)⟩
        exact down path location here enters
  refine ⟨folders, fun path member => ?_⟩
  rcases List.mem_append.1 member with here | below
  · exact first path here
  · obtain ⟨folder, inside, child⟩ := List.mem_flatMap.1 below
    obtain ⟨above, enters⟩ := folders folder inside
    exact down folder.path folder.location above enters path child

theorem met_of_passed {path : Path} (known : ∀ location, system.Enters rules path location →
    system.realNames path ∈ entered) : system.metFrom rules entered (path :: pending) =
      path :: system.metFrom rules entered pending := by
  rw [metFrom, metFrom, folders_of_passed known, List.cons_append]

theorem met_of_enters {path : Path} {location : Location}
    (enters : system.Enters rules path location) (fresh : system.realNames path ∉ entered) :
    (system.metFrom rules entered (path :: pending)).Perm
      (path :: system.metFrom rules (system.realNames path :: entered)
        (system.visible rules path location ++ pending)) := by
  rw [metFrom, metFrom, folders_of_enters enters fresh, List.cons_append, List.flatMap_cons,
    ← List.append_assoc]
  exact (List.perm_append_comm.append_right _).cons path

/-- Whatever may be entered has been entered in the end. -/
theorem met_closed : ∀ path ∈ system.metFrom rules entered pending, ∀ location,
    system.Enters rules path location → system.realNames path ∈ entered ∨
      ∃ folder ∈ system.foldersFrom rules entered pending,
        system.realNames folder.path = system.realNames path := by
  induction entered, pending using run_induction system rules with
  | ends entered => simp [metFrom, foldersFrom, visitsFrom]
  | passes entered path pending known induction =>
      rw [met_of_passed known, folders_of_passed known]
      exact List.forall_mem_cons.2
        ⟨fun location enters => Or.inl (known location enters), induction⟩
  | enters entered path pending location enters fresh induction =>
      intro other member found entersToo
      -- The directory entered now is one of those met before, seen from the rest of the run.
      have whole : system.realNames other ∈ system.realNames path :: entered ∨
          ∃ folder ∈ system.foldersFrom rules (system.realNames path :: entered)
            (system.visible rules path location ++ pending),
              system.realNames folder.path = system.realNames other := by
        rcases List.mem_cons.1 ((met_of_enters enters fresh).mem_iff.1 member) with rfl | later
        · exact Or.inl List.mem_cons_self
        · exact induction other later found entersToo
      rw [folders_of_enters enters fresh]
      rcases whole with known | ⟨folder, inside, same⟩
      · rcases List.mem_cons.1 known with now | before
        · exact Or.inr ⟨_, List.mem_cons_self, now.symm⟩
        · exact Or.inl before
      · exact Or.inr ⟨folder, List.mem_cons_of_mem _ inside, same⟩

open Classical in
theorem files_perm : (system.filesFrom rules entered pending).Perm
    ((system.metFrom rules entered pending).filter fun path => system.Gives rules path) := by
  induction entered, pending using run_induction system rules with
  | ends entered => simp [filesFrom, metFrom, foldersFrom, visitsFrom]
  | passes entered path pending known induction =>
      rw [files_of_passed known, met_of_passed known, List.filter_cons]
      by_cases given : system.Gives rules path
      · rw [if_pos given, if_pos (by simpa using given)]
        exact induction.cons path
      · rw [if_neg given, if_neg (by simpa using given)]
        exact induction
  | enters entered path pending location enters fresh induction =>
      have noFile : ¬system.Gives rules path := not_gives enters.placed enters.there
      have looked : ((system.metFrom rules entered (path :: pending)).filter
          fun path => system.Gives rules path).Perm _ := (met_of_enters enters fresh).filter _
      rw [List.filter_cons, if_neg (by simpa using noFile)] at looked
      rw [files_of_enters enters fresh]
      exact induction.trans looked.symm

theorem mem_directories_iff {path : Path} : path ∈ system.directoriesFrom rules entered pending ↔
    path ∈ system.metFrom rules entered pending ∧
      ∃ location, system.Enters rules path location := by
  induction entered, pending using run_induction system rules with
  | ends entered => simp [directoriesFrom, metFrom, foldersFrom, visitsFrom]
  | passes entered next pending known induction =>
      rw [directories_of_passed known, met_of_passed known]
      split
      next enters =>
        rw [List.mem_cons, List.mem_cons, induction]
        constructor
        · rintro (rfl | later)
          · exact ⟨Or.inl rfl, enters⟩
          · exact ⟨Or.inr later.1, later.2⟩
        · rintro ⟨rfl | later, entersToo⟩
          · exact Or.inl rfl
          · exact Or.inr ⟨later, entersToo⟩
      next closed =>
        rw [List.mem_cons, induction, or_and_right, or_iff_right]
        rintro ⟨rfl, enters⟩
        exact closed enters
  | enters entered next pending location enters fresh induction =>
      rw [directories_of_enters enters fresh, (met_of_enters enters fresh).mem_iff, List.mem_cons,
        List.mem_cons, induction]
      constructor
      · rintro (rfl | later)
        · exact ⟨Or.inl rfl, location, enters⟩
        · exact ⟨Or.inr later.1, later.2⟩
      · rintro ⟨rfl | later, entersToo⟩
        · exact Or.inl rfl
        · exact Or.inr ⟨later, entersToo⟩

theorem descends_of_files {directory : Path} (below : ∀ path ∈ pending, Descends directory path) :
    ∀ path ∈ system.filesFrom rules entered pending, Descends directory path := by
  classical
  intro path member
  have met := (List.mem_filter.1 (files_perm.mem_iff.1 member)).1
  exact (met_holds entered below fun folder location above _ =>
    descends_of_visible above location).2 path met

theorem Walked.files_of_complete {walked : Walked} {files : List Path}
    (complete : walked.complete = .ok files) : walked.files = files := by
  unfold Walked.complete at complete
  split at complete
  · cases complete
  · exact Except.ok.inj complete

section Along

variable {spent : Fault} {deepest : Nat} {visits : List Visit}

theorem go_along_shallow
    (shallow : ∀ path ∈ visits.filterMap Visit.directory?, path.names.length ≤ deepest) :
    goAlong spent deepest visits = ⟨visits.filterMap Visit.file?, none⟩ := by
  induction visits with
  | nil => rfl
  | cons visit rest induction =>
      cases visit with
      | file path =>
          rw [goAlong, induction shallow]
          rfl
      | entered path location | known path =>
          obtain ⟨here, later⟩ := List.forall_mem_cons.1 shallow
          rw [goAlong, if_neg (Nat.not_lt.2 here), induction later]
          rfl

theorem go_along_deep
    (deep : ∃ path ∈ visits.filterMap Visit.directory?, deepest < path.names.length) :
    (goAlong spent deepest visits).fault = some spent := by
  induction visits with
  | nil => simp at deep
  | cons visit rest induction =>
      cases visit with
      | file path => exact induction deep
      | entered path location | known path =>
          rw [goAlong]
          split
          · rfl
          next here =>
            obtain ⟨other, member, deep⟩ := deep
            rcases List.mem_cons.1 member with rfl | later
            · exact absurd deep here
            · exact induction ⟨other, later, deep⟩

theorem file_of_go_along {path : Path} (member : path ∈ (goAlong spent deepest visits).files) :
    path ∈ visits.filterMap Visit.file? := by
  induction visits with
  | nil => exact absurd member List.not_mem_nil
  | cons visit rest induction =>
      cases visit with
      | file first =>
          rw [goAlong] at member
          exact (List.mem_cons.1 member).elim (fun here => here ▸ List.mem_cons_self)
            fun later => List.mem_cons_of_mem first (induction later)
      | entered path location | known path =>
          rw [goAlong] at member
          split at member
          · exact absurd member List.not_mem_nil
          · exact induction member

theorem go_along_complete : (goAlong spent deepest visits).complete =
    if ∀ path ∈ visits.filterMap Visit.directory?, path.names.length ≤ deepest then
      .ok (visits.filterMap Visit.file?)
    else .error spent := by
  split
  next shallow =>
    rw [go_along_shallow shallow]
    rfl
  next deep =>
    simp only [not_forall, Nat.not_le] at deep
    obtain ⟨path, member, deep⟩ := deep
    rw [Walked.complete, go_along_deep ⟨path, member, deep⟩]

end Along

section Whole

variable {directory : Path} {start : Location}

/-- There is room on the stack for all directories that a walk goes into. -/
def HasRoom (system : FileSystem) (rules : WalkRules) (directory : Path) (start : Location) :
    Prop :=
  ∀ path ∈ system.directoriesFrom rules [system.realNames directory]
    (system.visible rules directory start),
      path.names.length ≤ directory.names.length + system.platform.walkRoom.levels

def filesBelow (system : FileSystem) (rules : WalkRules) (directory : Path) (start : Location) :
    List Path :=
  system.filesFrom rules [system.realNames directory] (system.visible rules directory start)

variable (rules) in
open Classical in
theorem walk_of_located (there : system.isDirectory directory = .ok true)
    (located : system.locate directory = .ok start) :
    system.walk rules directory =
      if system.HasRoom rules directory start then .ok (system.filesBelow rules directory start)
      else .error system.platform.walkRoom.fault := by
  rw [walk, walked_of_located there located, go_along_complete]
  exact if_congr Iff.rfl rfl rfl

theorem walk_of_no_directory (no : system.isDirectory directory = .ok false) :
    system.walk rules directory = .ok [] := by
  rw [walk, walked, no]
  rfl

theorem walk_of_refused {fault : Fault} (refused : system.isDirectory directory = .error fault) :
    system.walk rules directory = .error fault := by
  rw [walk, walked, refused]
  rfl

theorem descends_of_walked :
    ∀ path ∈ (system.walked rules directory).files, Descends directory path := by
  intro path member
  cases asked : system.isDirectory directory with
  | error fault =>
      rw [walked, asked] at member
      exact absurd member List.not_mem_nil
  | ok answer =>
      cases answer with
      | false =>
          rw [walked, asked] at member
          exact absurd member List.not_mem_nil
      | true =>
          obtain ⟨start, located, -⟩ := located_directory asked
          rw [walked_of_located asked located] at member
          exact descends_of_files (descends_of_visible (descends_refl directory) start) path
            (file_of_go_along member)

end Whole

end Run

/-- Two trees look alike to a walk from all known paths: it may enter the same directories from
them, which have the same real paths, it is given the same files, and what it looks at in a
directory is the same, and known. -/
structure WalksAlike (first second : FileSystem) (rules : WalkRules) (known : Path → Prop) :
    Prop where
  enters : ∀ path, known path → ∀ location,
    second.Enters rules path location ↔ first.Enters rules path location
  real : ∀ path, known path → second.realPath path = first.realPath path
  gives : ∀ path, known path → (second.Gives rules path ↔ first.Gives rules path)
  visible : ∀ path location, known path → first.Enters rules path location →
    second.visible rules path location = first.visible rules path location
  down : ∀ path location, known path → first.Enters rules path location →
    ∀ child ∈ first.visible rules path location, known child

/-- Trees that look alike to a walk let it come to the same, in the same order. -/
theorem WalksAlike.visits_from {first second : FileSystem} {known : Path → Prop}
    (alike : WalksAlike first second rules known) (entered : List Location) {pending : List Path}
    (all : ∀ path ∈ pending, known path) :
    second.visitsFrom rules entered pending = first.visitsFrom rules entered pending := by
  classical
  induction entered, pending using run_induction first rules with
  | ends entered => rw [visitsFrom, visitsFrom]
  | passes entered path pending met induction =>
      obtain ⟨here, later⟩ := List.forall_mem_cons.1 all
      by_cases opens : ∃ location, first.Enters rules path location
      · obtain ⟨location, enters⟩ := opens
        have known := met location enters
        have knownToo : second.realNames path ∈ entered := by
          rwa [realNames, alike.real path here]
        rw [visits_of_known enters known,
          visits_of_known ((alike.enters path here location).2 enters) knownToo, induction later]
      · have closed := not_exists.1 opens
        have closedToo : ∀ location, ¬second.Enters rules path location := fun location enters =>
          closed location ((alike.enters path here location).1 enters)
        rw [visits_of_closed closed, visits_of_closed closedToo, induction later]
        exact if_congr (alike.gives path here) rfl rfl
  | enters entered path pending location enters fresh induction =>
      obtain ⟨here, later⟩ := List.forall_mem_cons.1 all
      have same : second.realNames path = first.realNames path := by
        rw [realNames, alike.real path here, realNames]
      rw [visits_of_enters enters fresh,
        visits_of_enters ((alike.enters path here location).2 enters) (same ▸ fresh), same,
        alike.visible path location here enters]
      exact congrArg _
        (induction (List.forall_mem_append.2 ⟨alike.down path location here enters, later⟩))

end ImportImpact.FileSystem
