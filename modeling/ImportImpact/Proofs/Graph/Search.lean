import ImportImpact.Proofs.Graph.Distance
import ImportImpact.Proofs.Graph.Round

/-!
What the search finds, by distance. After so many rounds exactly the unchanged files up to that
distance have been reached, each at its distance and in order of distance, the files at that
distance are the frontier, and exactly the nearer files have been linked to their importers.
-/

namespace ImportImpact.Neighbourhood

open FirstOccurrence

variable {index : ImporterIndex} {changed : List String}

theorem mem_unchanged_importers {importer target : String} :
    importer ∈ unchangedImporters index changed target ↔
      importer ∈ index.importersOf target ∧ importer ∉ changed := by
  simp [unchangedImporters]

theorem mem_edges_to {edge : Edge} {target : String} :
    edge ∈ edgesTo index changed target ↔
      edge.target = target ∧ edge.source ∈ index.importersOf target ∧ edge.source ∉ changed := by
  obtain ⟨source, head⟩ := edge
  simp only [edgesTo, List.mem_map, mem_unchanged_importers, Edge.mk.injEq]
  constructor
  · intro given
    rcases given with ⟨importer, ⟨imports, absent⟩, rfl, rfl⟩
    exact ⟨rfl, imports, absent⟩
  · intro given
    rcases given with ⟨rfl, imports, absent⟩
    exact ⟨source, ⟨imports, absent⟩, rfl, rfl⟩

/-- The invariant of the search after so many rounds. -/
structure Exact (index : ImporterIndex) (changed : List String) (rounds : Nat)
    (found : Neighbourhood) : Prop where
  reached_iff : ∀ path depth, (path, depth) ∈ found.reached ↔
    path ∉ changed ∧ depth ≤ rounds ∧ Distance index changed depth path
  frontier_iff : ∀ path, path ∈ found.frontier ↔ Distance index changed rounds path
  edge_iff : ∀ edge, edge ∈ found.edges ↔
    edge.source ∉ changed ∧ edge.source ∈ index.importersOf edge.target ∧
      ∃ depth < rounds, Distance index changed depth edge.target
  distinct : found.affected.Nodup
  ordered : found.reached.Pairwise fun earlier later => earlier.2 ≤ later.2

theorem mem_affected_iff {path : String} {found : Neighbourhood} :
    path ∈ found.affected ↔ ∃ depth, (path, depth) ∈ found.reached := by
  simp [affected]

theorem start_exact (index : ImporterIndex) (changed : List String) :
    Exact index changed 0 (start changed) where
  reached_iff := by
    intro path depth
    simp only [start, List.not_mem_nil, Nat.le_zero, false_iff]
    intro given
    rcases given with ⟨absent, rfl, distance⟩
    exact absent (distance_zero_iff.1 distance)
  frontier_iff path := distance_zero_iff.symm
  edge_iff edge := by simp [start]
  distinct := by simp [start, affected]
  ordered := by simp [start]

theorem mem_next_frontier {rounds : Nat} {found : Neighbourhood}
    (holds : Exact index changed rounds found) (path : String) :
    path ∈ fresh found.affected (found.frontier.flatMap (unchangedImporters index changed)) ↔
      Distance index changed (rounds + 1) path := by
  have near : (∃ nearer ≤ rounds, Distance index changed nearer path) ↔
      path ∈ changed ∨ path ∈ found.affected := by
    constructor
    · intro given
      rcases given with ⟨nearer, bound, distance⟩
      by_cases member : path ∈ changed
      · exact Or.inl member
      · have reached := (holds.reached_iff path nearer).2 ⟨member, bound, distance⟩
        exact Or.inr (mem_affected_iff.2 ⟨nearer, reached⟩)
    · intro either
      rcases either with member | known
      · exact ⟨0, Nat.zero_le _, distance_zero_iff.2 member⟩
      · obtain ⟨depth, reached⟩ := mem_affected_iff.1 known
        obtain ⟨-, bound, distance⟩ := (holds.reached_iff _ _).1 reached
        exact ⟨depth, bound, distance⟩
  simp only [mem_fresh_iff, List.mem_flatMap, holds.frontier_iff, mem_unchanged_importers,
    distance_succ_iff]
  constructor
  · intro given
    rcases given with ⟨⟨target, distance, imports, absent⟩, unknown⟩
    refine ⟨⟨target, distance, imports⟩, fun nearer bound other => ?_⟩
    rcases near.1 ⟨nearer, bound, other⟩ with member | known
    · exact absent member
    · exact unknown known
  · intro given
    rcases given with ⟨⟨target, distance, imports⟩, far⟩
    have neither : ¬(path ∈ changed ∨ path ∈ found.affected) := by
      intro either
      obtain ⟨nearer, bound, other⟩ := near.2 either
      exact far nearer bound other
    exact ⟨⟨target, distance, imports, fun member => neither (Or.inl member)⟩,
      fun known => neither (Or.inr known)⟩

theorem round_reached_iff {rounds : Nat} {found : Neighbourhood}
    (holds : Exact index changed rounds found) (path : String) (depth : Nat) :
    (path, depth) ∈ (round index changed (rounds + 1) found).reached ↔
      path ∉ changed ∧ depth ≤ rounds + 1 ∧ Distance index changed depth path := by
  have next := mem_next_frontier holds
  rw [round_eq, grow, List.mem_append]
  constructor
  · intro either
    rcases either with before | added
    · obtain ⟨absent, bound, distance⟩ := (holds.reached_iff path depth).1 before
      exact ⟨absent, by omega, distance⟩
    · obtain ⟨other, member, same⟩ := List.mem_map.1 added
      cases same
      have distance := (next path).1 member
      exact ⟨not_seed_of_distance_succ distance, Nat.le_refl _, distance⟩
  · intro given
    rcases given with ⟨absent, bound, distance⟩
    rcases Nat.lt_or_ge rounds depth with beyond | within
    · have here : depth = rounds + 1 := by omega
      subst here
      exact Or.inr (List.mem_map.2 ⟨path, (next path).2 distance, rfl⟩)
    · exact Or.inl ((holds.reached_iff path depth).2 ⟨absent, within, distance⟩)

theorem round_edge_iff {rounds : Nat} {found : Neighbourhood}
    (holds : Exact index changed rounds found) (edge : Edge) :
    edge ∈ (round index changed (rounds + 1) found).edges ↔
      edge.source ∉ changed ∧ edge.source ∈ index.importersOf edge.target ∧
        ∃ depth < rounds + 1, Distance index changed depth edge.target := by
  simp only [round_eq, grow, List.mem_append, holds.edge_iff, List.mem_flatMap,
    holds.frontier_iff, mem_edges_to]
  constructor
  · intro either
    rcases either with ⟨absent, imports, depth, bound, distance⟩ |
      ⟨target, distance, rfl, imports, absent⟩
    · exact ⟨absent, imports, depth, by omega, distance⟩
    · exact ⟨absent, imports, rounds, by omega, distance⟩
  · intro given
    rcases given with ⟨absent, imports, depth, bound, distance⟩
    rcases Nat.lt_or_ge depth rounds with before | last
    · exact Or.inl ⟨absent, imports, depth, before, distance⟩
    · have here : depth = rounds := by omega
      exact Or.inr ⟨edge.target, here ▸ distance, rfl, imports, absent⟩

theorem round_distinct {rounds : Nat} {found : Neighbourhood}
    (holds : Exact index changed rounds found) :
    (round index changed (rounds + 1) found).affected.Nodup := by
  rw [round_eq, affected_grow]
  refine List.nodup_append.2 ⟨holds.distinct, fresh_nodup _ _, ?_⟩
  intro path known other member same
  exact (mem_fresh_iff.1 member).2 (same ▸ known)

theorem round_ordered {rounds : Nat} {found : Neighbourhood}
    (holds : Exact index changed rounds found) :
    (round index changed (rounds + 1) found).reached.Pairwise
      fun earlier later => earlier.2 ≤ later.2 := by
  rw [round_eq, grow]
  refine List.pairwise_append.2 ⟨holds.ordered, ?_, ?_⟩
  · rw [List.pairwise_map]
    exact List.pairwise_of_forall fun _ _ => Nat.le_refl _
  · intro earlier before later added
    obtain ⟨path, -, rfl⟩ := List.mem_map.1 added
    have bound := ((holds.reached_iff earlier.1 earlier.2).1 before).2.1
    exact Nat.le_succ_of_le bound

theorem round_exact {rounds : Nat} {found : Neighbourhood}
    (holds : Exact index changed rounds found) :
    Exact index changed (rounds + 1) (round index changed (rounds + 1) found) where
  reached_iff := round_reached_iff holds
  frontier_iff := by
    intro path
    rw [round_eq]
    exact mem_next_frontier holds path
  edge_iff := round_edge_iff holds
  distinct := round_distinct holds
  ordered := round_ordered holds

theorem search_exact (index : ImporterIndex) (changed : List String) (depth : Nat) :
    Exact index changed depth (search index changed depth) := by
  induction depth with
  | zero => exact start_exact index changed
  | succ depth induction =>
      rw [search_succ]
      exact round_exact induction

theorem search_frontier_nodup (index : ImporterIndex) (distinct : changed.Nodup) (depth : Nat) :
    (search index changed depth).frontier.Nodup := by
  cases depth with
  | zero => exact distinct
  | succ depth =>
      rw [search_succ, round_eq]
      exact fresh_nodup _ _

theorem edges_to_nodup (distinct : ∀ target, (index.importersOf target).Nodup)
    (target : String) : (edgesTo index changed target).Nodup := by
  apply List.Nodup.map
  · intro left right same
    exact congrArg Edge.source same
  · exact (distinct target).filter _

theorem search_edges_nodup (distinct : ∀ target, (index.importersOf target).Nodup)
    (distinctChanged : changed.Nodup) (depth : Nat) :
    (search index changed depth).edges.Nodup := by
  induction depth with
  | zero => exact List.nodup_nil
  | succ depth induction =>
      have holds := search_exact index changed depth
      rw [search_succ, round_eq]
      refine List.nodup_append.2 ⟨induction, ?_, ?_⟩
      · refine List.nodup_flatMap.2 ⟨fun target _ => edges_to_nodup distinct target, ?_⟩
        apply (search_frontier_nodup index distinctChanged depth).imp
        intro target other different edge first second
        exact different ((mem_edges_to.1 first).1.symm.trans (mem_edges_to.1 second).1)
      · intro edge before other added same
        subst same
        obtain ⟨-, -, nearer, bound, distance⟩ := (holds.edge_iff edge).1 before
        obtain ⟨target, member, linked⟩ := List.mem_flatMap.1 added
        have here := (holds.frontier_iff target).1 member
        rw [← (mem_edges_to.1 linked).1] at here
        have := distance_unique distance here
        omega

theorem known_of_reaches {known : String → Prop} (start : ∀ path ∈ changed, known path)
    (closed : ∀ target, known target → ∀ importer ∈ index.importersOf target, known importer)
    {length : Nat} {path : String} (reached : Reaches index changed length path) : known path := by
  induction reached with
  | seed member => exact start _ member
  | step _ imports induction => exact closed _ induction _ imports

/-- A search asks an index only for files that it comes to, so it is the same in two indices that
agree on these. -/
theorem search_congr {other : ImporterIndex} {known : String → Prop}
    (start : ∀ path ∈ changed, known path)
    (closed : ∀ target, known target → ∀ importer ∈ index.importersOf target, known importer)
    (same : ∀ target, known target → index.importersOf target = other.importersOf target)
    (depth : Nat) : search index changed depth = search other changed depth := by
  induction depth with
  | zero => rfl
  | succ depth induction =>
      have met : ∀ target ∈ (search index changed depth).frontier,
          unchangedImporters index changed target = unchangedImporters other changed target := by
        intro target member
        have distance := ((search_exact index changed depth).frontier_iff target).1 member
        rw [unchangedImporters, unchangedImporters,
          same target (known_of_reaches start closed distance.reached)]
      have linked : ∀ target ∈ (search index changed depth).frontier,
          edgesTo index changed target = edgesTo other changed target := by
        intro target member
        rw [edgesTo, edgesTo, met target member]
      rw [search_succ, search_succ, ← induction, round_eq, round_eq, List.flatMap_congr linked,
        List.flatMap_congr met]

end ImportImpact.Neighbourhood
