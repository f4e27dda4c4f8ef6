/-!
Sets of characters given as ranges of code points. A table is a list of closed ranges in
increasing order; nothing here checks the order, and membership does not depend on it.
-/

namespace ImportImpact.Text

def inRanges (table : List (Nat × Nat)) (character : Char) : Bool :=
  table.any fun range => range.1 ≤ character.toNat && character.toNat ≤ range.2

theorem in_ranges_iff (table : List (Nat × Nat)) (character : Char) :
    inRanges table character = true ↔
      ∃ range ∈ table, range.1 ≤ character.toNat ∧ character.toNat ≤ range.2 := by
  simp [inRanges]

end ImportImpact.Text
