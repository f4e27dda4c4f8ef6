import ImportImpact.Path.Segment
import Mathlib.Data.List.Basic

/-!
What evaluating segments leaves: no idle segment, and double dots only at the bottom of the stack.
Evaluating such segments again changes nothing.
-/

namespace ImportImpact.Segment

/-- A stack to which nothing can be done any more, the last segment first: below a double dot
there are only double dots. -/
structure Settled (stack : List Segment) : Prop where
  busy : ∀ segment ∈ stack, idle segment = false
  ups_below : stack.Pairwise fun upper lower => upper = up → lower = up

theorem settled_nil : Settled [] := ⟨by simp, List.Pairwise.nil⟩

theorem up_busy : idle up = false := rfl

theorem settled_cons_iff {segment : Segment} {stack : List Segment} :
    Settled (segment :: stack) ↔
      idle segment = false ∧ (segment = up → ∀ lower ∈ stack, lower = up) ∧ Settled stack := by
  constructor
  · intro given
    rcases given with ⟨busy, ordered⟩
    obtain ⟨below, rest⟩ := List.pairwise_cons.1 ordered
    exact ⟨busy segment (by simp), fun here lower member => below lower member here,
      fun other member => busy other (by simp [member]), rest⟩
  · intro given
    rcases given with ⟨busy, below, busyRest, rest⟩
    refine ⟨?_, List.pairwise_cons.2 ⟨fun lower member here => below here lower member, rest⟩⟩
    intro other member
    rcases List.mem_cons.1 member with rfl | later
    · exact busy
    · exact busyRest other later

theorem advance_settled {stack : List Segment} (settled : Settled stack) (segment : Segment) :
    Settled (advance false stack segment) := by
  unfold advance
  split
  · exact settled
  next busy =>
    split
    next name =>
      have different : segment = up → ∀ lower ∈ stack, lower = up := fun here => absurd here name
      exact settled_cons_iff.2 ⟨by simpa using busy, different, settled⟩
    · cases stack with
      | nil => exact settled_cons_iff.2 ⟨up_busy, by simp, settled_nil⟩
      | cons top below =>
          obtain ⟨-, upsBelow, settledBelow⟩ := settled_cons_iff.1 settled
          by_cases here : top = up
          · simp only [here, if_true]
            refine settled_cons_iff.2 ⟨up_busy, fun _ lower member => ?_, here ▸ settled⟩
            rcases List.mem_cons.1 member with rfl | deeper
            · rfl
            · exact upsBelow here lower deeper
          · simpa [here] using settledBelow

theorem fold_settled {stack : List Segment} (settled : Settled stack) (segments : List Segment) :
    Settled (segments.foldl (advance false) stack) := by
  induction segments generalizing stack with
  | nil => exact settled
  | cons segment rest induction => exact induction (advance_settled settled segment)

theorem busy_of_settled {segments : List Segment} (settled : Settled segments.reverse) :
    ∀ segment ∈ segments, idle segment = false :=
  fun segment member => settled.busy segment (List.mem_reverse.2 member)

theorem reduce_settled (segments : List Segment) : Settled (reduce false segments).reverse := by
  rw [reduce, List.reverse_reverse]
  exact fold_settled settled_nil segments

theorem fold_of_settled {segments stack : List Segment}
    (settled : Settled (segments.reverse ++ stack)) :
    segments.foldl (advance false) stack = segments.reverse ++ stack := by
  induction segments generalizing stack with
  | nil => rfl
  | cons segment rest induction =>
      rw [List.reverse_cons, List.append_assoc] at settled
      have pushed : advance false stack segment = segment :: stack := by
        have suffix : Settled (segment :: stack) :=
          ⟨fun other member => settled.busy other (List.mem_append_right _ member),
            (List.pairwise_append.1 settled.ups_below).2.1⟩
        obtain ⟨busy, below, -⟩ := settled_cons_iff.1 suffix
        by_cases here : segment = up
        · cases stack with
          | nil => simp [advance, here, up_busy]
          | cons top deeper => simp [advance, here, up_busy, below here top (by simp)]
        · simp [advance, here, busy]
      rw [List.foldl_cons, pushed, induction (by simpa using settled)]
      simp

theorem reduce_of_settled {segments : List Segment} (settled : Settled segments.reverse) :
    reduce false segments = segments := by
  rw [reduce, fold_of_settled (by simpa using settled)]
  simp

theorem mem_advance {rooted : Bool} {stack : List Segment} {segment other : Segment}
    (member : other ∈ advance rooted stack segment) : other ∈ stack ∨ other = segment := by
  unfold advance at member
  split at member
  · exact Or.inl member
  · split at member
    · exact (List.mem_cons.1 member).symm
    next name =>
      have here : segment = up := by simpa using name
      cases stack with
      | nil => cases rooted <;> simp_all
      | cons top below =>
          by_cases same : top = up
          · simp_all
          · simp only [same, if_false] at member
            exact Or.inl (List.mem_cons_of_mem _ member)

theorem mem_reduce {rooted : Bool} {segments : List Segment} {segment : Segment}
    (member : segment ∈ reduce rooted segments) : segment ∈ segments := by
  have fold : ∀ stack : List Segment, segment ∈ segments.foldl (advance rooted) stack →
      segment ∈ stack ∨ segment ∈ segments := by
    clear member
    induction segments with
    | nil => exact fun _ inside => Or.inl inside
    | cons first rest induction =>
        intro stack inside
        rcases induction _ inside with before | later
        · rcases mem_advance before with old | rfl
          · exact Or.inl old
          · exact Or.inr (by simp)
        · exact Or.inr (by simp [later])
  rcases fold [] (List.mem_reverse.1 member) with none | inside
  · simp at none
  · exact inside

theorem reduce_rooted {segments : List Segment} {segment : Segment}
    (member : segment ∈ reduce true segments) : idle segment = false ∧ segment ≠ up := by
  have fold : ∀ stack : List Segment, (∀ kept ∈ stack, idle kept = false ∧ kept ≠ up) →
      ∀ kept ∈ segments.foldl (advance true) stack, idle kept = false ∧ kept ≠ up := by
    clear member
    induction segments with
    | nil => exact fun _ named => named
    | cons first rest induction =>
        intro stack named
        apply induction
        unfold advance
        split
        · exact named
        next busy =>
          split
          next name =>
            intro kept inside
            rcases List.mem_cons.1 inside with rfl | before
            · exact ⟨by simpa using busy, name⟩
            · exact named kept before
          · cases stack with
            | nil => simp
            | cons top below =>
                dsimp only
                rw [if_neg (named top List.mem_cons_self).2]
                exact fun kept inside => named kept (List.mem_cons_of_mem top inside)
  exact fold [] (by simp) segment (List.mem_reverse.1 member)

end ImportImpact.Segment
