import ImportImpact.Proofs.Graph.Search
import Mathlib.Data.List.Perm.Subperm

/-!
Searches of different depths in one index. A deeper search does all that a shallower one does before
it goes on, so what the shallower one found stands at the front of what the deeper one found. Every
round that finds something finds a new file, so once there are fewer importers than rounds, going
deeper changes nothing.
-/

namespace ImportImpact.Neighbourhood

open FirstOccurrence

variable {index : ImporterIndex} {changed : List String} {depth deeper : Nat}

theorem round_reached_extend (index : ImporterIndex) (changed : List String) (depth : Nat)
    (found : Neighbourhood) :
    found.reached <+: (round index changed depth found).reached := by
  rw [round_eq]
  exact List.prefix_append found.reached _

theorem round_edges_extend (index : ImporterIndex) (changed : List String) (depth : Nat)
    (found : Neighbourhood) :
    found.edges <+: (round index changed depth found).edges := by
  rw [round_eq]
  exact List.prefix_append found.edges _

theorem search_reached_extend (index : ImporterIndex) (changed : List String)
    (bound : depth ≤ deeper) :
    (search index changed depth).reached <+: (search index changed deeper).reached := by
  induction bound with
  | refl => exact List.prefix_rfl
  | step _ induction =>
      rw [search_succ]
      exact induction.trans (round_reached_extend index changed _ _)

theorem search_edges_extend (index : ImporterIndex) (changed : List String)
    (bound : depth ≤ deeper) :
    (search index changed depth).edges <+: (search index changed deeper).edges := by
  induction bound with
  | refl => exact List.prefix_rfl
  | step _ induction =>
      rw [search_succ]
      exact induction.trans (round_edges_extend index changed _ _)

theorem search_of_empty_frontier (empty : (search index changed depth).frontier = [])
    (bound : depth ≤ deeper) : search index changed deeper = search index changed depth := by
  induction bound with
  | refl => rfl
  | step _ induction => rw [search_succ, induction, round_of_empty_frontier empty]

/-- The frontier of a round is among the affected files, after those of all rounds before. -/
theorem search_affected_succ (index : ImporterIndex) (changed : List String) (depth : Nat) :
    (search index changed (depth + 1)).affected =
      (search index changed depth).affected ++ (search index changed (depth + 1)).frontier := by
  rw [search_succ, round_eq, affected_grow]
  rfl

/-- As long as there is something left to link, every round has found a file. -/
theorem depth_le_affected (busy : (search index changed depth).frontier ≠ []) :
    depth ≤ (search index changed depth).affected.length := by
  induction depth with
  | zero => exact Nat.zero_le _
  | succ depth induction =>
      have before : (search index changed depth).frontier ≠ [] := by
        intro empty
        rw [search_succ, round_of_empty_frontier empty] at busy
        exact busy empty
      have filled := List.length_pos_of_ne_nil busy
      have enough := induction before
      rw [search_affected_succ, List.length_append]
      omega

theorem exists_target_of_affected {path : String}
    (member : path ∈ (search index changed depth).affected) :
    ∃ target, path ∈ index.importersOf target := by
  obtain ⟨length, reached⟩ := mem_affected_iff.1 member
  obtain ⟨unchanged, -, distance⟩ :=
    ((search_exact index changed depth).reached_iff path length).1 reached
  cases distance.reached with
  | seed seed => exact absurd seed unchanged
  | step _ imports => exact ⟨_, imports⟩

theorem search_settled {importers : List String}
    (listed : ∀ target, ∀ path ∈ index.importersOf target, path ∈ importers)
    (enough : importers.length < depth) (bound : depth ≤ deeper) :
    search index changed deeper = search index changed depth := by
  apply search_of_empty_frontier _ bound
  by_contra busy
  have distinct := (search_exact index changed depth).distinct
  have inside : (search index changed depth).affected ⊆ importers := by
    intro path member
    obtain ⟨target, imports⟩ := exists_target_of_affected member
    exact listed target path imports
  have few := (distinct.subperm inside).length_le
  have many := depth_le_affected busy
  omega

end ImportImpact.Neighbourhood
