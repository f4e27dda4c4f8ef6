import ImportImpact.FileSystem.RealPath
import ImportImpact.Path.Size
import ImportImpact.Text.LowerCase

/-!
The walk over a directory: its files of the wanted kinds, directories entered where their name
comes in the order of code points. No real path is entered twice, whatever links lead to it, and a
path that is too long cannot be listed, so the walk ends on any tree. A link that cannot be followed
is passed over, and so is what lies in a directory that cannot be listed. Where directories lie too
deep inside one another the walk breaks off, and what it has given by then has been given.
-/

namespace ImportImpact.FileSystem

structure WalkRules where
  suffixes : List String
  ignored : List String
  followLinks : Bool

/-- The rules that values of any kind describe. An extension is lowered, so it must be a text;
an ignored name need only be something that can be a member of a set. -/
def WalkRules.ofValues (extensions ignored follow : Value) : Outcome WalkRules := do
  let suffixes ← (← extensions.elements).mapM fun extension => do
    pure (Text.lowerCase (← extension.textFor "lower"))
  let names ← ignored.members
  pure ⟨suffixes, names.filterMap fun name => match name with
    | .str text => some text
    | _ => none, follow.truthy⟩

def WalkRules.wants (rules : WalkRules) (name : String) : Bool :=
  rules.suffixes.contains (Text.lowerCase (Written.suffix name))

/-- The paths of a directory's entries that the walk looks at. It lists the directory under its
path, which may be too long for that. -/
def visible (system : FileSystem) (rules : WalkRules) (path : Path) (location : Location) :
    List Path :=
  match system.locate path with
  | .error _ => []
  | .ok _ =>
      ((system.names location).filter fun name =>
        rules.followLinks || match system.lookup? (location ++ [name]) with
          | some (.link _) => false
          | _ => true).map path.child

/-- Where an entry of a directory leads. Only a link is looked up under its path; what anything else
is, the directory tells. -/
def place (system : FileSystem) (path : Path) : Except Refusal Location := do
  let directory ← system.locate path.parent
  match system.lookup? (directory ++ [path.lastName]) with
  | some (.link _) => system.locate path
  | some _ => pure (directory ++ [path.lastName])
  | none => .error .noEntry

/-- One thing that a walk comes to: a directory that it enters, a directory that it knows already,
or a file of a wanted kind. -/
inductive Visit where
  | entered (path : Path) (location : Location)
  | known (path : Path)
  | file (path : Path)

/-- By its real path a walk tells whether it has met a directory before. -/
def realNames (system : FileSystem) (path : Path) : Location := (system.realPath path).names

/-- How much work a path can make that has room for so many more names: its directory may be
entered, and then there is less of it for every entry. -/
def loadWithin (system : FileSystem) : Nat → Nat
  | 0 => 1
  | further + 1 => (system.entries.length + 1) * system.loadWithin further

def load (system : FileSystem) (path : Path) : Nat :=
  system.loadWithin (longestPath + 1 - path.names.length)

def loads (system : FileSystem) : List Path → Nat
  | [] => 0
  | path :: pending => system.load path + system.loads pending

theorem loads_append (system : FileSystem) (first second : List Path) :
    system.loads (first ++ second) = system.loads first + system.loads second := by
  induction first with
  | nil => simp [loads]
  | cons path rest induction => rw [List.cons_append, loads, loads, induction, Nat.add_assoc]

theorem load_within_pos (system : FileSystem) (further : Nat) : 0 < system.loadWithin further := by
  induction further with
  | zero => exact Nat.one_pos
  | succ further induction => exact Nat.mul_pos (Nat.succ_pos _) induction

theorem load_pos (system : FileSystem) (path : Path) : 0 < system.load path :=
  system.load_within_pos _

theorem length_erase_dups_le (names : List String) : names.eraseDups.length ≤ names.length := by
  match names with
  | [] => simp
  | name :: rest =>
      have shorter := List.length_filter_le (fun other => !other == name) rest
      have := length_erase_dups_le (rest.filter fun other => !other == name)
      rw [List.eraseDups_cons, List.length_cons, List.length_cons]
      omega
  termination_by names.length
  decreasing_by simp only [List.length_cons]; omega

theorem length_names_le (system : FileSystem) (directory : Location) :
    (system.names directory).length ≤ system.entries.length := by
  rw [names, List.length_mergeSort]
  refine Nat.le_trans (length_erase_dups_le _) (Nat.le_trans (List.length_filter_le _ _) ?_)
  exact List.length_filterMap_le _ _

theorem loads_children (system : FileSystem) (path : Path) (names : List String) :
    system.loads (names.map path.child) =
      names.length * system.loadWithin (longestPath - path.names.length) := by
  induction names with
  | nil => simp [loads]
  | cons name rest induction =>
      simp only [List.map_cons, loads, List.length_cons, Nat.succ_mul, induction]
      simp only [load, Path.child, List.length_append, List.length_singleton,
        Nat.add_sub_add_right, Nat.add_comm]

theorem loads_visible (system : FileSystem) (rules : WalkRules) (path : Path)
    (location : Location) :
    system.loads (system.visible rules path location) < system.load path := by
  unfold visible
  split
  · exact system.load_pos path
  next listed located =>
    have short : path.text.utf8ByteSize < longestPath := by
      by_cases long : longestPath ≤ path.text.utf8ByteSize
      · simp [locate, arrive, long, bind, Except.bind] at located
      · exact Nat.not_le.1 long
    have size := path.names_length_le
    have next : longestPath + 1 - path.names.length = longestPath - path.names.length + 1 := by
      omega
    rw [loads_children, load, next, loadWithin]
    refine Nat.mul_lt_mul_of_pos_right ?_ (system.load_within_pos _)
    exact Nat.lt_succ_of_le
      (Nat.le_trans (List.length_filter_le _ _) (system.length_names_le location))

/-- What the walk comes to on its way through the pending paths; `entered` holds the real paths of
the directories met so far. An ignored name hides a directory, but not a file. -/
def visitsFrom (system : FileSystem) (rules : WalkRules) (entered : List Location) :
    List Path → List Visit
  | [] => []
  | path :: pending =>
      match system.place path with
      | .error _ => visitsFrom system rules entered pending
      | .ok location => match system.lookup? location with
        | some .directory =>
            if rules.ignored.contains path.lastName then visitsFrom system rules entered pending
            else if system.realNames path ∈ entered then
              .known path :: visitsFrom system rules entered pending
            else
              .entered path location :: visitsFrom system rules (system.realNames path :: entered)
                (system.visible rules path location ++ pending)
        | some (.file _) =>
            if rules.wants path.lastName then .file path :: visitsFrom system rules entered pending
            else visitsFrom system rules entered pending
        | _ => visitsFrom system rules entered pending
  termination_by pending => system.loads pending
  decreasing_by
    all_goals
      have some_load := load_pos system
      have less := loads_visible system
      simp only [loads_append, loads]
      grind

structure Walked where
  files : List Path
  fault : Option Fault

namespace Walked

def nothing : Walked := ⟨[], none⟩

def andThen (first second : Walked) : Walked :=
  match first.fault with
  | some _ => first
  | none => { second with files := first.files ++ second.files }

def complete (walked : Walked) : Outcome (List Path) :=
  match walked.fault with
  | some fault => .error fault
  | none => .ok walked.files

end Walked

/-- Goes along what a walk comes to. A directory takes room on the stack for as long as the walk is
in it; there is none left for one whose path has more names than `deepest`. -/
def goAlong (spent : Fault) (deepest : Nat) : List Visit → Walked
  | [] => .nothing
  | .file path :: rest =>
      let later := goAlong spent deepest rest
      { later with files := path :: later.files }
  | .entered path _ :: rest | .known path :: rest =>
      if deepest < path.names.length then ⟨[], some spent⟩ else goAlong spent deepest rest

/-- The directory itself may be a link and may have an ignored name. -/
def walked (system : FileSystem) (rules : WalkRules) (directory : Path) : Walked :=
  match system.isDirectory directory with
  | .error fault => ⟨[], some fault⟩
  | .ok false => .nothing
  | .ok true => match system.locate directory with
    | .error _ => .nothing
    | .ok location =>
        let room := system.platform.walkRoom
        goAlong room.fault (directory.names.length + room.levels)
          (system.visitsFrom rules [system.realNames directory]
            (system.visible rules directory location))

def walk (system : FileSystem) (rules : WalkRules) (directory : Path) : Outcome (List Path) :=
  (system.walked rules directory).complete

end ImportImpact.FileSystem
