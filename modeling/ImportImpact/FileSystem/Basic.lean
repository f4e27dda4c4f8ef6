import ImportImpact.Path.Basic
import ImportImpact.Platform

/-!
A file system as a value, as one running program sees it: entries by location, the directory from
which relative paths start, and the platform that the program runs on. A location is the list of
names from the root, without links or dots. Permissions, times and hard links are left out.
-/

namespace ImportImpact

abbrev Location := List String

inductive Entry where
  | directory
  | file (content : List UInt8)
  | link (target : String)
  deriving DecidableEq

def Entry.isFile : Entry → Bool
  | .file _ => true
  | _ => false

def Entry.isDirectory : Entry → Bool
  | .directory => true
  | _ => false

structure FileSystem where
  entries : List (Location × Entry)
  workingDirectory : Location
  platform : Platform

namespace FileSystem

/-- The root is always a directory. -/
def lookup? (system : FileSystem) : Location → Option Entry
  | [] => some .directory
  | location => system.entries.lookup location

def isDirectoryAt (system : FileSystem) (location : Location) : Bool :=
  system.lookup? location = some .directory

def locations (system : FileSystem) : List Location := [] :: system.entries.map (·.1)

theorem location_of_entry {system : FileSystem} {location : Location} {entry : Entry}
    (found : system.lookup? location = some entry) : location ∈ system.locations := by
  cases location with
  | nil => simp [locations]
  | cons name names =>
      simp only [lookup?] at found
      obtain ⟨before, after, shape, -⟩ := List.lookup_eq_some_iff.1 found
      simp [locations, shape]

def nameIn? (directory location : Location) : Option String :=
  if location.dropLast = directory then location.getLast? else none

def isName (name : String) : Bool :=
  !(Segment.idle name.toList || name.toList = Segment.up || name.toList.contains '/')

/-- The names in a directory, in order of their code points. What cannot be one step of a path is
no name of an entry. -/
def names (system : FileSystem) (directory : Location) : List String :=
  let written := system.entries.filterMap fun entry => nameIn? directory entry.1
  ((written.filter isName).eraseDups).mergeSort fun left right => !decide (right < left)

def longestName : Nat := 255

def longestPath : Nat := 4096

def mostLinks : Nat := 40

/-- Where a path leads: to an entry, or to a free name in an existing directory. -/
inductive Arrival where
  | entry (location : Location)
  | free (location : Location)

def steps (written : String) : List String := (Text.split '/' written.toList).map String.ofList

def evaluate (steps : List String) : Location :=
  (Segment.reduce true (steps.map String.toList)).map String.ofList

/-- Follows the steps one by one. A step onto a link goes on with the link's target; a last link
stays as it is unless `through` is set. -/
def follow (system : FileSystem) (through : Bool) (links : Nat) (here : Location) :
    List String → Except Refusal Arrival
  | [] => .ok (.entry here)
  | step :: rest =>
      if !system.isDirectoryAt here then .error .notDirectory
      else if step = "" || step = "." then follow system through links here rest
      else if step = ".." then follow system through links here.dropLast rest
      else if step.utf8ByteSize > longestName then .error .nameTooLong
      else match system.lookup? (here ++ [step]) with
        | none => if rest.isEmpty then .ok (.free (here ++ [step])) else .error .noEntry
        | some (.link target) =>
            if rest.isEmpty && !through then .ok (.entry (here ++ [step]))
            else match links with
              | 0 => .error .tooManyLinks
              | links + 1 =>
                  follow system through links (if Written.rooted target then [] else here)
                    (steps target ++ rest)
        | some _ => follow system through links (here ++ [step]) rest
  termination_by remaining => (links, remaining.length)

def start (system : FileSystem) (path : Path) : Location :=
  match path.anchor with
  | .relative => system.workingDirectory
  | _ => []

def arrive (system : FileSystem) (through : Bool) (path : Path) : Except Refusal Arrival :=
  if path.text.utf8ByteSize ≥ longestPath then .error .nameTooLong
  else system.follow through mostLinks (system.start path) path.names

def locate (system : FileSystem) (path : Path) : Except Refusal Location := do
  match ← system.arrive true path with
  | .entry location => pure location
  | .free _ => .error .noEntry

def entryAt (system : FileSystem) (path : Path) : Except Refusal Entry := do
  match system.lookup? (← system.locate path) with
  | some entry => pure entry
  | none => .error .noEntry

/-- Nothing is there: the refusals that answer a question instead of failing it. -/
def absent (refusal : Refusal) : Bool :=
  match refusal with
  | .noEntry | .notDirectory | .tooManyLinks => true
  | _ => false

def ask (system : FileSystem) (path : Path) (property : Entry → Bool) : Outcome Bool :=
  match system.entryAt path with
  | .ok entry => .ok (property entry)
  | .error refusal =>
      if absent refusal then .ok false else .error (.refused refusal path.text)

def isFile (system : FileSystem) (path : Path) : Outcome Bool := system.ask path Entry.isFile

def isDirectory (system : FileSystem) (path : Path) : Outcome Bool :=
  system.ask path Entry.isDirectory

def exists? (system : FileSystem) (path : Path) : Outcome Bool := system.ask path fun _ => true

end FileSystem

end ImportImpact
