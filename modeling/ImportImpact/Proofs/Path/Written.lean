import ImportImpact.Path.Written
import ImportImpact.Proofs.Path.Segment
import ImportImpact.Proofs.Text.Split

/-!
The names of repository files are a normal form: a single dot, or settled segments between single
slashes. Naming a file again changes nothing, so it does not matter how often a path is
normalized on its way.
-/

namespace ImportImpact.Written

open Segment

/-- A relative path in normal form, with slashes only. -/
def NormalForm (path : List Char) : Prop :=
  path = ['.'] ∨ ∃ segments : List Segment, segments ≠ [] ∧ path = Text.join slash segments ∧
    Settled segments.reverse ∧ ∀ segment ∈ segments, slash ∉ segment ∧ '\\' ∉ segment

theorem root_slashes_of_relative {path : List Char} (relative : path.head? ≠ some slash) :
    rootSlashes path = 0 := by
  unfold rootSlashes
  split
  all_goals first
    | rfl
    | exact absurd rfl relative

theorem head_without_first_slashes (path : List Char) :
    (path.dropWhile (· = slash)).head? ≠ some slash := by
  intro head
  have first := List.head?_dropWhile_not (· = slash) path
  rw [head] at first
  simp at first

theorem join_head {segments : List Segment} (some : segments ≠ [])
    (busy : ∀ segment ∈ segments, idle segment = false) :
    ∃ segment ∈ segments, ∃ character rest,
      segment = character :: rest ∧ (Text.join slash segments).head? = Option.some character := by
  cases segments with
  | nil => exact absurd rfl some
  | cons segment others =>
      have here := busy segment (by simp)
      cases segment with
      | nil => simp [idle] at here
      | cons character rest =>
          refine ⟨character :: rest, by simp, character, rest, rfl, ?_⟩
          cases others <;> rfl

theorem join_ne_nil {segments : List Segment} (some : segments ≠ [])
    (busy : ∀ segment ∈ segments, idle segment = false) : Text.join slash segments ≠ [] := by
  obtain ⟨segment, -, character, -, -, head⟩ := join_head some busy
  intro empty
  simp [empty] at head

theorem normal_characters_ne_nil (path : List Char) : normalCharacters path ≠ [] := by
  unfold normalCharacters
  dsimp only
  split
  · exact List.cons_ne_nil _ _
  next some => simpa using some

theorem head_of_normal {path : List Char} (normal : NormalForm path) :
    path.head? ≠ some slash := by
  rcases normal with rfl | ⟨segments, some, rfl, settled, plain⟩
  · decide
  · obtain ⟨segment, member, character, rest, rfl, head⟩ :=
      join_head some (busy_of_settled settled)
    rw [head]
    intro same
    exact (plain _ member).1 (by simp [Option.some.inj same])

theorem ne_nil_of_normal {path : List Char} (normal : NormalForm path) : path ≠ [] := by
  rcases normal with rfl | ⟨segments, some, rfl, settled, -⟩
  · decide
  · exact join_ne_nil some (busy_of_settled settled)

theorem backslash_of_normal {path : List Char} (normal : NormalForm path) : '\\' ∉ path := by
  rcases normal with rfl | ⟨segments, -, rfl, -, plain⟩
  · decide
  · intro member
    rcases Text.mem_join member with separating | ⟨segment, inside, here⟩
    · exact absurd separating (by decide)
    · exact (plain segment inside).2 here

theorem normal_characters_of_relative {path : List Char} (relative : path.head? ≠ some slash) :
    normalCharacters path =
      if (Text.join slash (reduce false (Text.split slash path))).isEmpty then ['.']
      else Text.join slash (reduce false (Text.split slash path)) := by
  simp only [normalCharacters, root_slashes_of_relative relative, List.replicate_zero,
    List.nil_append, bne_self_eq_false]

theorem normal_characters_normal {path : List Char} (relative : path.head? ≠ some slash)
    (plain : '\\' ∉ path) : NormalForm (normalCharacters path) := by
  have pieces : ∀ segment ∈ reduce false (Text.split slash path),
      slash ∉ segment ∧ '\\' ∉ segment := by
    intro segment member
    have cut := mem_reduce member
    exact ⟨Text.separator_not_mem_split slash path segment cut,
      fun inside => plain (Text.mem_of_mem_split cut inside)⟩
  have settled := reduce_settled (Text.split slash path)
  rw [normal_characters_of_relative relative]
  generalize reduce false (Text.split slash path) = segments at pieces settled
  by_cases none : segments = []
  · exact Or.inl (by simp [none, Text.join])
  · have normal : NormalForm (Text.join slash segments) :=
      Or.inr ⟨segments, none, rfl, settled, pieces⟩
    rw [if_neg (by simpa using ne_nil_of_normal normal)]
    exact normal

theorem normal_characters_of_normal {path : List Char} (normal : NormalForm path) :
    normalCharacters path = path := by
  have some := ne_nil_of_normal normal
  rw [normal_characters_of_relative (head_of_normal normal)]
  rcases normal with rfl | ⟨segments, filled, rfl, settled, plain⟩
  · rfl
  · rw [Text.split_join filled fun segment member => (plain segment member).1,
      reduce_of_settled settled, if_neg (by simpa using some)]

theorem separated_of_plain {path : List Char} (plain : '\\' ∉ path) :
    path.map separated = path := by
  have same : path.map separated = path.map id := by
    apply List.map_congr_left
    intro character member
    have different : character ≠ '\\' := fun same => plain (same ▸ member)
    simp [separated, different]
  rw [same, List.map_id]

theorem backslash_not_mem_separated (path : List Char) : '\\' ∉ path.map separated := by
  intro member
  obtain ⟨character, -, same⟩ := List.mem_map.1 member
  unfold separated at same
  split at same
  · exact absurd same (by decide)
  next different => exact different same

theorem repository_path_of_normal {path : String} (normal : NormalForm path.toList) :
    repositoryPath path = path := by
  have kept : path.toList.dropWhile (· = slash) = path.toList := by
    have head := head_of_normal normal
    cases shape : path.toList with
    | nil => rfl
    | cons character rest =>
        have different : character ≠ slash := by
          intro same
          exact head (by simp [shape, same])
        simp [different]
  unfold repositoryPath
  rw [separated_of_plain (backslash_of_normal normal), kept]
  split
  next empty => exact absurd empty (ne_nil_of_normal normal)
  · rw [normal_characters_of_normal normal, String.ofList_toList]

theorem repository_path_normal (path : String) :
    repositoryPath path = "" ∨ NormalForm (repositoryPath path).toList := by
  unfold repositoryPath
  split
  · exact Or.inl rfl
  · refine Or.inr ?_
    rw [String.toList_ofList]
    apply normal_characters_normal
    · exact head_without_first_slashes (path.toList.map separated)
    · intro member
      exact backslash_not_mem_separated path.toList
        ((List.dropWhile_sublist _).subset member)

theorem repository_path_idempotent (path : String) :
    repositoryPath (repositoryPath path) = repositoryPath path := by
  rcases repository_path_normal path with empty | normal
  · rw [empty]
    rfl
  · exact repository_path_of_normal normal

end ImportImpact.Written
