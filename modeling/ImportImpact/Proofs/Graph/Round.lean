import ImportImpact.Graph.Neighbourhood
import ImportImpact.Proofs.FirstOccurrence

/-!
What one round of the search does. Its loops over targets and importers are one step: the edges to
all targets are added, and the unchanged importers that are new make up the next frontier. A
search of one more round is the shorter search followed by a round.
-/

namespace ImportImpact.Neighbourhood

open FirstOccurrence

def unchangedImporters (index : ImporterIndex) (changed : List String) (target : String) :
    List String :=
  (index.importersOf target).filter fun importer => !changed.contains importer

def edgesTo (index : ImporterIndex) (changed : List String) (target : String) : List Edge :=
  (unchangedImporters index changed target).map fun importer => ⟨importer, target⟩

def grow (found : Neighbourhood) (depth : Nat) (edges : List Edge) (importers : List String) :
    Neighbourhood :=
  let added := fresh found.affected importers
  ⟨found.reached ++ added.map fun importer => (importer, depth), found.edges ++ edges,
    found.frontier ++ added⟩

theorem affected_grow (found : Neighbourhood) (depth : Nat) (edges : List Edge)
    (importers : List String) :
    (found.grow depth edges importers).affected =
      found.affected ++ fresh found.affected importers := by
  simp [affected, grow, Function.comp_def]

theorem grow_nothing (found : Neighbourhood) (depth : Nat) : found.grow depth [] [] = found := by
  simp [grow, fresh]

theorem grow_grow (found : Neighbourhood) (depth : Nat) (edges laterEdges : List Edge)
    (importers laterImporters : List String) :
    (found.grow depth edges importers).grow depth laterEdges laterImporters =
      found.grow depth (edges ++ laterEdges) (importers ++ laterImporters) := by
  rw [grow, affected_grow]
  simp [grow, fresh_append]

theorem link_of_changed {changed : List String} {importer : String} (member : importer ∈ changed)
    (depth : Nat) (target : String) (found : Neighbourhood) :
    link changed depth target found importer = found := by
  simp [link, member]

theorem link_of_unchanged {changed : List String} {importer : String}
    (absent : importer ∉ changed) (depth : Nat) (target : String) (found : Neighbourhood) :
    link changed depth target found importer =
      found.grow depth [⟨importer, target⟩] [importer] := by
  by_cases known : importer ∈ found.affected
  · rw [grow, fresh_cons_of_known known]
    simp [link, absent, known, fresh]
  · rw [grow, fresh_cons_of_new known]
    simp [link, absent, known, fresh]

theorem link_all (changed : List String) (depth : Nat) (target : String)
    (importers : List String) (found : Neighbourhood) :
    importers.foldl (link changed depth target) found =
      let unchanged := importers.filter fun importer => !changed.contains importer
      found.grow depth (unchanged.map fun importer => ⟨importer, target⟩) unchanged := by
  induction importers generalizing found with
  | nil => exact (grow_nothing found depth).symm
  | cons importer rest induction =>
      rw [List.foldl_cons, induction]
      by_cases member : importer ∈ changed
      · simp [link_of_changed member, member]
      · simp [link_of_unchanged member, member, grow_grow]

theorem link_importers_eq (index : ImporterIndex) (changed : List String) (depth : Nat)
    (found : Neighbourhood) (target : String) :
    linkImporters index changed depth found target =
      found.grow depth (edgesTo index changed target)
        (unchangedImporters index changed target) :=
  link_all changed depth target (index.importersOf target) found

theorem link_importers_all (index : ImporterIndex) (changed : List String) (depth : Nat)
    (targets : List String) (found : Neighbourhood) :
    targets.foldl (linkImporters index changed depth) found =
      found.grow depth (targets.flatMap (edgesTo index changed))
        (targets.flatMap (unchangedImporters index changed)) := by
  induction targets generalizing found with
  | nil => exact (grow_nothing found depth).symm
  | cons target rest induction =>
      rw [List.foldl_cons, induction, link_importers_eq, grow_grow]
      simp

theorem round_eq (index : ImporterIndex) (changed : List String) (depth : Nat)
    (found : Neighbourhood) :
    round index changed depth found =
      { found with frontier := [] }.grow depth (found.frontier.flatMap (edgesTo index changed))
        (found.frontier.flatMap (unchangedImporters index changed)) := by
  rw [round, link_importers_all]

theorem round_of_empty_frontier {found : Neighbourhood} (empty : found.frontier = [])
    (index : ImporterIndex) (changed : List String) (depth : Nat) :
    round index changed depth found = found := by
  obtain ⟨reached, edges, frontier⟩ := found
  cases empty
  rfl

theorem extend_of_empty_frontier {found : Neighbourhood} (empty : found.frontier = [])
    (index : ImporterIndex) (changed : List String) (depth rounds : Nat) :
    extend index changed depth rounds found = found := by
  cases rounds with
  | zero => rfl
  | succ rounds => simp [extend, empty]

/-- An empty frontier ends the search early, but going on would change nothing. -/
theorem extend_succ (index : ImporterIndex) (changed : List String) (depth rounds : Nat)
    (found : Neighbourhood) :
    extend index changed depth (rounds + 1) found =
      extend index changed (depth + 1) rounds (round index changed depth found) := by
  by_cases empty : found.frontier = []
  · rw [extend_of_empty_frontier empty, round_of_empty_frontier empty,
      extend_of_empty_frontier empty]
  · simp [extend, empty]

theorem extend_last (index : ImporterIndex) (changed : List String) (depth rounds : Nat)
    (found : Neighbourhood) :
    extend index changed depth (rounds + 1) found =
      round index changed (depth + rounds) (extend index changed depth rounds found) := by
  induction rounds generalizing depth found with
  | zero => rw [extend_succ]; rfl
  | succ rounds induction =>
      rw [extend_succ, induction, extend_succ index changed depth rounds]
      congr 1
      omega

theorem search_succ (index : ImporterIndex) (changed : List String) (depth : Nat) :
    search index changed (depth + 1) =
      round index changed (depth + 1) (search index changed depth) := by
  rw [search, extend_last, Nat.add_comm 1 depth]
  rfl

end ImportImpact.Neighbourhood
