import ImportImpact.FileSystem.Basic

/-!
The real path of a written path: links replaced by what they lead to, as far as anything is
there. Steps onto missing names are kept as written, and so are links at places whose own path is
too long for a look at them. A link that leads back to itself stays in the result together with all
steps after it; only a later look at the result reports the loop.
-/

namespace ImportImpact.FileSystem

/-- Work still to do: a step to take, or the note that a link's target has been reached. -/
inductive Pending where
  | step (name : String)
  | reached (link : Location)

def Pending.name? : Pending → Option String
  | .step name => some name
  | .reached _ => none

def unopened (places opened : List Location) : Nat :=
  (places.filter fun place => place ∉ opened).length

theorem unopened_le (places opened : List Location) (link : Location) :
    unopened places (link :: opened) ≤ unopened places opened := by
  induction places with
  | nil => simp [unopened]
  | cons place places induction => grind [unopened]

theorem unopened_lt {places opened : List Location} {link : Location}
    (known : link ∈ places) (fresh : link ∉ opened) :
    unopened places (link :: opened) < unopened places opened := by
  induction places with
  | nil => simp at known
  | cons place places induction =>
      have := unopened_le places opened link
      grind [unopened]

def linkAt? (system : FileSystem) (location : Location) : Option String :=
  if longestPath ≤ (Path.text ⟨.root, location⟩).utf8ByteSize then none
  else match system.lookup? location with
    | some (.link target) => some target
    | _ => none

theorem link_at_iff {system : FileSystem} {location : Location} {target : String} :
    system.linkAt? location = some target ↔
      (Path.text ⟨.root, location⟩).utf8ByteSize < longestPath ∧
        system.lookup? location = some (.link target) := by
  unfold linkAt?
  by_cases long : longestPath ≤ (Path.text ⟨.root, location⟩).utf8ByteSize
  · simp [long, Nat.not_lt.2 long]
  · rw [if_neg long, and_iff_right (Nat.not_le.1 long)]
    split
    next there => simp [there]
    next noLink => simpa using fun there => noLink _ there

/-- `resolved` holds the links whose targets have been reached, `opened` all links met. -/
def realFrom (system : FileSystem) (resolved : List (Location × Location))
    (opened : List Location) (here : Location) : List Pending → Location
  | [] => here
  | .reached link :: rest => realFrom system ((link, here) :: resolved) opened here rest
  | .step name :: rest =>
      if name = "" || name = "." then realFrom system resolved opened here rest
      else if name = ".." then realFrom system resolved opened here.dropLast rest
      else
        match _found : system.linkAt? (here ++ [name]) with
        | some target =>
            match resolved.lookup (here ++ [name]) with
            | some place => realFrom system resolved opened place rest
            | none =>
                if met : here ++ [name] ∈ opened then
                  evaluate (here ++ [name] ++ rest.filterMap Pending.name?)
                else
                  realFrom system resolved ((here ++ [name]) :: opened)
                    (if Written.rooted target then [] else here)
                    ((steps target).map .step ++ .reached (here ++ [name]) :: rest)
        | none => realFrom system resolved opened (here ++ [name]) rest
  termination_by pending =>
    (unopened system.locations opened, pending.length)
  decreasing_by
    all_goals first
      | exact Prod.Lex.left _ _ (unopened_lt (location_of_entry (link_at_iff.1 _found).2) met)
      | exact Prod.Lex.right _ (by simp)

def realPath (system : FileSystem) (path : Path) : Path :=
  ⟨.root, system.realFrom [] [] (system.start path) (path.names.map .step)⟩

def settle (system : FileSystem) (path : Path) : Outcome Path :=
  let real := system.realPath path
  match system.locate real with
  | .error .tooManyLinks => .error (.linkLoop real.text)
  | _ => .ok real

def settleExisting (system : FileSystem) (path : Path) : Outcome Path := do
  let real ← system.settle path
  if ← system.exists? real then pure real else .error (.missingPath real.text)

end ImportImpact.FileSystem
