import ImportImpact.FileSystem.Basic
import ImportImpact.Proofs.FirstOccurrence

/-!
The names in a directory: those under which something can be looked up there, each of them once and
in order. What can be looked up decides them.
-/

namespace ImportImpact.FileSystem

theorem mem_names_iff {system : FileSystem} {directory : Location} {name : String} :
    name ∈ system.names directory ↔
      isName name = true ∧ system.lookup? (directory ++ [name]) ≠ none := by
  have listed : (system.lookup? (directory ++ [name]) ≠ none) ↔
      ∃ entry ∈ system.entries, directory ++ [name] = entry.1 := by
    have located : system.lookup? (directory ++ [name]) =
        system.entries.lookup (directory ++ [name]) := by
      cases directory <;> rfl
    rw [located, ← Option.isSome_iff_ne_none, List.lookup_isSome_iff]
    simp only [beq_iff_eq]
  have named : ∀ location, nameIn? directory location = some name ↔
      directory ++ [name] = location := by
    intro location
    constructor
    · intro given
      unfold nameIn? at given
      split at given
      next parent =>
        rw [← parent]
        exact List.dropLast_append_getLast? name given
      · cases given
    · rintro rfl
      simp [nameIn?]
  rw [listed, names, List.mem_mergeSort, List.mem_eraseDups, List.mem_filter, List.mem_filterMap,
    and_comm]
  simp only [named]

theorem names_nodup (system : FileSystem) (directory : Location) :
    (system.names directory).Nodup :=
  (List.mergeSort_perm _ _).nodup_iff.2 (FirstOccurrence.erase_dups_nodup _)

theorem names_ordered (system : FileSystem) (directory : Location) :
    (system.names directory).Pairwise fun left right => left ≤ right := by
  have not_after (left right : String) : (!decide (right < left)) = true ↔ left ≤ right := by
    rw [Bool.not_eq_true', decide_eq_false_iff_not, String.not_lt]
  rw [names]
  refine (List.pairwise_mergeSort ?_ ?_ _).imp fun {left right} => (not_after left right).1
  · intro first second third
    rw [not_after, not_after, not_after]
    exact String.le_trans
  · intro first second
    rw [Bool.or_eq_true, not_after, not_after]
    exact String.le_total first second

theorem names_congr {first second : FileSystem} {directory : Location}
    (same : ∀ name, first.lookup? (directory ++ [name]) = none ↔
      second.lookup? (directory ++ [name]) = none) :
    first.names directory = second.names directory := by
  have members : ∀ name, name ∈ first.names directory ↔ name ∈ second.names directory := by
    intro name
    rw [mem_names_iff, mem_names_iff, Ne, Ne, same]
  have permuted := (List.perm_ext_iff_of_nodup (names_nodup first directory)
    (names_nodup second directory)).2 members
  exact permuted.eq_of_pairwise (fun _ _ _ _ => String.le_antisymm) (names_ordered first directory)
    (names_ordered second directory)

end ImportImpact.FileSystem
