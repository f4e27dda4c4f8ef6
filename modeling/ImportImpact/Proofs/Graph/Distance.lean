import ImportImpact.Graph.ImporterIndex
import Mathlib.Data.Nat.Find

/-!
Chains of importers and their lengths. A chain starts at a seed and goes from each file to one
that imports it; nothing forbids it to run through further seeds or in circles. The distance of a
file is the length of its shortest chain.
-/

namespace ImportImpact

/-- The file reaches a seed by a chain of so many imports. -/
inductive Reaches (index : ImporterIndex) (seeds : List String) : Nat → String → Prop
  | seed {path : String} (member : path ∈ seeds) : Reaches index seeds 0 path
  | step {length : Nat} {target importer : String} (reached : Reaches index seeds length target)
      (imports : importer ∈ index.importersOf target) :
      Reaches index seeds (length + 1) importer

/-- No chain of the file is shorter than this one. -/
structure Distance (index : ImporterIndex) (seeds : List String) (length : Nat)
    (path : String) : Prop where
  reached : Reaches index seeds length path
  shortest : ∀ other, Reaches index seeds other path → length ≤ other

variable {index : ImporterIndex} {seeds : List String}

theorem reaches_zero_iff {path : String} : Reaches index seeds 0 path ↔ path ∈ seeds := by
  constructor
  · intro reached
    cases reached with
    | seed member => exact member
  · exact Reaches.seed

theorem reaches_succ_iff {length : Nat} {path : String} :
    Reaches index seeds (length + 1) path ↔
      ∃ target, Reaches index seeds length target ∧ path ∈ index.importersOf target := by
  constructor
  · intro reached
    cases reached with
    | step before imports => exact ⟨_, before, imports⟩
  · intro given
    rcases given with ⟨target, before, imports⟩
    exact before.step imports

theorem distance_unique {first second : Nat} {path : String}
    (left : Distance index seeds first path) (right : Distance index seeds second path) :
    first = second :=
  Nat.le_antisymm (left.shortest _ right.reached) (right.shortest _ left.reached)

theorem exists_distance {length : Nat} {path : String} (reached : Reaches index seeds length path) :
    ∃ shortest ≤ length, Distance index seeds shortest path := by
  classical
  have some : ∃ count, Reaches index seeds count path := ⟨length, reached⟩
  exact ⟨Nat.find some, Nat.find_min' some reached,
    Nat.find_spec some, fun other chain => Nat.find_min' some chain⟩

theorem distance_zero_iff {path : String} : Distance index seeds 0 path ↔ path ∈ seeds := by
  constructor
  · intro distance
    exact reaches_zero_iff.1 distance.reached
  · intro member
    exact ⟨.seed member, fun _ _ => Nat.zero_le _⟩

theorem not_seed_of_distance_succ {length : Nat} {path : String}
    (distance : Distance index seeds (length + 1) path) : path ∉ seeds := by
  intro member
  have := distance.shortest 0 (.seed member)
  omega

/-- A shortest chain stays a shortest one when its last file is taken away. -/
theorem exists_nearer {length : Nat} {path : String}
    (distance : Distance index seeds (length + 1) path) :
    ∃ target, Distance index seeds length target ∧ path ∈ index.importersOf target := by
  obtain ⟨target, reached, imports⟩ := reaches_succ_iff.1 distance.reached
  refine ⟨target, ⟨reached, fun other chain => ?_⟩, imports⟩
  have := distance.shortest _ (chain.step imports)
  omega

theorem distance_succ_iff {length : Nat} {path : String} :
    Distance index seeds (length + 1) path ↔
      (∃ target, Distance index seeds length target ∧ path ∈ index.importersOf target) ∧
        ∀ nearer ≤ length, ¬Distance index seeds nearer path := by
  constructor
  · intro distance
    refine ⟨exists_nearer distance, fun nearer bound other => ?_⟩
    have := distance_unique distance other
    omega
  · intro given
    rcases given with ⟨⟨target, before, imports⟩, none⟩
    refine ⟨before.reached.step imports, fun other chain => ?_⟩
    obtain ⟨nearest, bound, distance⟩ := exists_distance chain
    by_contra shorter
    exact none nearest (by omega) distance

end ImportImpact
