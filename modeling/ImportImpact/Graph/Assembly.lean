import ImportImpact.Graph.Edge

/-!
Bringing together the edges among changed files and the findings of a reverse search.
-/

namespace ImportImpact

structure ReverseFindings where
  affected : List String
  edges : List Edge
  filesScanned : Nat

def ReverseFindings.none : ReverseFindings := ⟨[], [], 0⟩

/-- The first two counts are taken before repeated edges are dropped. -/
structure Counts where
  forwardEdges : Nat
  reverseEdges : Nat
  totalEdges : Nat
  affectedFiles : Nat
  filesScanned : Nat
  deriving DecidableEq

structure Assembly where
  edges : List Edge
  affected : List String
  counts : Counts

/-- Forward edges come first. Changed files are not affected ones. -/
def Assembly.make (deduplicate : Bool) (forward : List Edge) (reverse : ReverseFindings)
    (changed : List String) : Assembly :=
  let joined := forward ++ reverse.edges
  let edges := if deduplicate then joined.eraseDups else joined
  let affected := reverse.affected.eraseDups.filter fun path => !changed.contains path
  { edges
    affected
    counts :=
      { forwardEdges := forward.length
        reverseEdges := reverse.edges.length
        totalEdges := edges.length
        affectedFiles := affected.length
        filesScanned := reverse.filesScanned } }

end ImportImpact
