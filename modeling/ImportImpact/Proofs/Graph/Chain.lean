import ImportImpact.Proofs.Graph.Distance

/-!
Chains of importers cut and put together. A chain starts at one seed, whatever other seeds there
are; and cut at one of its files it is a chain to that file and a chain that starts there.
-/

namespace ImportImpact

variable {index : ImporterIndex} {seeds : List String}

theorem reaches_iff_exists_seed {length : Nat} {path : String} :
    Reaches index seeds length path ↔ ∃ seed ∈ seeds, Reaches index [seed] length path := by
  constructor
  · intro reached
    induction reached with
    | seed member => exact ⟨_, member, .seed (List.mem_singleton_self _)⟩
    | step _ imports induction =>
        obtain ⟨seed, member, chain⟩ := induction
        exact ⟨seed, member, chain.step imports⟩
  · intro given
    rcases given with ⟨seed, member, reached⟩
    induction reached with
    | seed here =>
        rw [List.mem_singleton] at here
        subst here
        exact .seed member
    | step _ imports induction => exact induction.step imports

theorem reaches_of_members {others : List String} (inside : ∀ path ∈ seeds, path ∈ others)
    {length : Nat} {path : String} (reached : Reaches index seeds length path) :
    Reaches index others length path := by
  obtain ⟨seed, member, chain⟩ := reaches_iff_exists_seed.1 reached
  exact reaches_iff_exists_seed.2 ⟨seed, inside seed member, chain⟩

theorem reaches_congr {others : List String} (same : ∀ path, path ∈ seeds ↔ path ∈ others)
    {length : Nat} {path : String} :
    Reaches index seeds length path ↔ Reaches index others length path :=
  ⟨reaches_of_members fun path => (same path).1, reaches_of_members fun path => (same path).2⟩

/-- Which files are seeds decides the distances, and not how they are listed. -/
theorem distance_congr {others : List String} (same : ∀ path, path ∈ seeds ↔ path ∈ others)
    {length : Nat} {path : String} :
    Distance index seeds length path ↔ Distance index others length path := by
  constructor
  · intro distance
    refine ⟨(reaches_congr same).1 distance.reached, fun other chain => ?_⟩
    exact distance.shortest other ((reaches_congr same).2 chain)
  · intro distance
    refine ⟨(reaches_congr same).2 distance.reached, fun other chain => ?_⟩
    exact distance.shortest other ((reaches_congr same).1 chain)

theorem reaches_add_iff {first second : Nat} {path : String} :
    Reaches index seeds (first + second) path ↔
      ∃ middle, Reaches index seeds first middle ∧ Reaches index [middle] second path := by
  induction second generalizing path with
  | zero =>
      constructor
      · intro reached
        exact ⟨path, reached, .seed (List.mem_singleton_self path)⟩
      · intro given
        rcases given with ⟨middle, reached, here⟩
        rw [List.mem_singleton.1 (reaches_zero_iff.1 here)]
        exact reached
  | succ second induction =>
      rw [← Nat.add_assoc, reaches_succ_iff]
      constructor
      · intro given
        rcases given with ⟨target, reached, imports⟩
        obtain ⟨middle, before, after⟩ := induction.1 reached
        exact ⟨middle, before, after.step imports⟩
      · intro given
        rcases given with ⟨middle, before, after⟩
        obtain ⟨target, nearer, imports⟩ := reaches_succ_iff.1 after
        exact ⟨target, induction.2 ⟨middle, before, nearer⟩, imports⟩

/-- The file has a chain of at most so many imports; a seed has one of none. -/
def Within (index : ImporterIndex) (seeds : List String) (depth : Nat) (path : String) : Prop :=
  ∃ length ≤ depth, Reaches index seeds length path

theorem within_of_members {others : List String} (inside : ∀ path ∈ seeds, path ∈ others)
    {depth : Nat} {path : String} (near : Within index seeds depth path) :
    Within index others depth path := by
  obtain ⟨length, bound, reached⟩ := near
  exact ⟨length, bound, reaches_of_members inside reached⟩

theorem within_either_iff {others both : List String}
    (joined : ∀ path, path ∈ both ↔ path ∈ seeds ∨ path ∈ others) {depth : Nat} {path : String} :
    Within index both depth path ↔
      Within index seeds depth path ∨ Within index others depth path := by
  constructor
  · intro near
    obtain ⟨length, bound, reached⟩ := near
    obtain ⟨seed, member, chain⟩ := reaches_iff_exists_seed.1 reached
    rcases (joined seed).1 member with left | right
    · exact Or.inl ⟨length, bound, reaches_iff_exists_seed.2 ⟨seed, left, chain⟩⟩
    · exact Or.inr ⟨length, bound, reaches_iff_exists_seed.2 ⟨seed, right, chain⟩⟩
  · intro either
    rcases either with left | right
    · exact within_of_members (fun seed member => (joined seed).2 (Or.inl member)) left
    · exact within_of_members (fun seed member => (joined seed).2 (Or.inr member)) right

/-- Going on from everything near is the same as going farther at once. -/
theorem within_add_iff {near : List String} {depth : Nat}
    (listed : ∀ path, path ∈ near ↔ Within index seeds depth path) {more : Nat} {path : String} :
    Within index near more path ↔ Within index seeds (depth + more) path := by
  constructor
  · intro given
    obtain ⟨second, within, reached⟩ := given
    obtain ⟨middle, member, after⟩ := reaches_iff_exists_seed.1 reached
    obtain ⟨first, bound, before⟩ := (listed middle).1 member
    exact ⟨first + second, by omega, reaches_add_iff.2 ⟨middle, before, after⟩⟩
  · intro given
    obtain ⟨length, bound, reached⟩ := given
    -- As much of the chain as the first depth allows, and the rest of it.
    have shape : length = min length depth + (length - depth) := by omega
    rw [shape] at reached
    obtain ⟨middle, before, after⟩ := reaches_add_iff.1 reached
    have known : middle ∈ near := (listed middle).2 ⟨_, Nat.min_le_right _ _, before⟩
    exact ⟨length - depth, by omega, reaches_iff_exists_seed.2 ⟨middle, known, after⟩⟩

end ImportImpact
