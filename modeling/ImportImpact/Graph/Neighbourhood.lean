import ImportImpact.Graph.Edge
import ImportImpact.Graph.ImporterIndex

/-!
The files that reach changed files through imports, up to a depth. The search goes in rounds: a
round links every unchanged importer of the files found in the round before. Changed files take
part only as the start, so a chain through one of them is found from there.
-/

namespace ImportImpact

/-- Files found so far with their depths, edges found so far, and the files of the last round.
All lists are in order of discovery. -/
structure Neighbourhood where
  reached : List (String × Nat)
  edges : List Edge
  frontier : List String

namespace Neighbourhood

def start (changed : List String) : Neighbourhood := ⟨[], [], changed⟩

def affected (found : Neighbourhood) : List String := found.reached.map (·.1)

/-- Links one importer of `target`; a file that is new belongs to the next frontier. -/
def link (changed : List String) (depth : Nat) (target : String) (found : Neighbourhood)
    (importer : String) : Neighbourhood :=
  if changed.contains importer then found
  else
    let edges := found.edges ++ [⟨importer, target⟩]
    if found.affected.contains importer then { found with edges }
    else ⟨found.reached ++ [(importer, depth)], edges, found.frontier ++ [importer]⟩

def linkImporters (index : ImporterIndex) (changed : List String) (depth : Nat)
    (found : Neighbourhood) (target : String) : Neighbourhood :=
  (index.importersOf target).foldl (link changed depth target) found

def round (index : ImporterIndex) (changed : List String) (depth : Nat)
    (found : Neighbourhood) : Neighbourhood :=
  found.frontier.foldl (linkImporters index changed depth) { found with frontier := [] }

def extend (index : ImporterIndex) (changed : List String) (depth : Nat) :
    (rounds : Nat) → Neighbourhood → Neighbourhood
  | 0, found => found
  | rounds + 1, found =>
      if found.frontier.isEmpty then found
      else extend index changed (depth + 1) rounds (round index changed depth found)

def search (index : ImporterIndex) (changed : List String) (depth : Nat) : Neighbourhood :=
  extend index changed 1 depth (start changed)

end Neighbourhood

end ImportImpact
