import ImportImpact.Proofs.Path.Segment

/-!
Segments evaluated from a top that nothing lies above. A double dot with no name to take back ends
the evaluation, whatever comes after it. Otherwise what is kept is what the normal form keeps.
-/

namespace ImportImpact.Segment

def step? (stack : List Segment) (segment : Segment) : Option (List Segment) :=
  if idle segment then some stack
  else if segment ≠ up then some (segment :: stack)
  else match stack with
    | [] => none
    | _ :: below => some below

/-- The names that are kept, if no step leads above the top. -/
def evaluate? (segments : List Segment) : Option (List Segment) :=
  (segments.foldlM step? []).map List.reverse

def Plain (segment : Segment) : Prop := idle segment = false ∧ segment ≠ up

theorem step_of_plain {segment : Segment} (plain : Plain segment) (stack : List Segment) :
    step? stack segment = some (segment :: stack) := by
  obtain ⟨busy, down⟩ := plain
  simp [step?, busy, down]

theorem step_up (stack : List Segment) :
    step? stack up = match stack with
      | [] => none
      | _ :: below => some below := by
  simp [step?, up_busy]

theorem step_none_iff {stack : List Segment} {segment : Segment} :
    step? stack segment = none ↔ stack = [] ∧ segment = up := by
  unfold step?
  split
  next idles =>
    constructor
    · intro leads
      cases leads
    · rintro ⟨-, rfl⟩
      cases idles
  · split
    next down =>
      constructor
      · intro leads
        cases leads
      · exact fun given => absurd given.2 down
    next goes =>
      cases stack with
      | nil => simpa using goes
      | cons top below => simp

section Fold

variable {segments stack kept : List Segment}

theorem fold_without_idle (segments stack : List Segment) :
    (segments.filter fun segment => !idle segment).foldlM step? stack =
      segments.foldlM step? stack := by
  induction segments generalizing stack with
  | nil => rfl
  | cons segment rest induction =>
      by_cases idles : idle segment = true
      · have stays : step? stack segment = some stack := by simp [step?, idles]
        rw [List.filter_cons_of_neg (by simpa using idles), induction, List.foldlM_cons, stays]
        rfl
      · rw [List.filter_cons_of_pos (by simpa using idles), List.foldlM_cons, List.foldlM_cons]
        exact congrArg (step? stack segment).bind (funext induction)

/-- Steps that never lead above the top are those of the normal form, and keep names only. -/
theorem fold_kept (plain : ∀ segment ∈ stack, Plain segment)
    (done : segments.foldlM step? stack = some kept) :
    segments.foldl (advance false) stack = kept ∧ ∀ segment ∈ kept, Plain segment := by
  induction segments generalizing stack with
  | nil =>
      cases done
      exact ⟨rfl, plain⟩
  | cons segment rest induction =>
      rw [List.foldlM_cons] at done
      obtain ⟨next, stepped, done⟩ := Option.bind_eq_some_iff.1 done
      have same : advance false stack segment = next ∧ ∀ other ∈ next, Plain other := by
        unfold step? at stepped
        unfold advance
        split at stepped
        next idles =>
          cases stepped
          rw [if_pos idles]
          exact ⟨rfl, plain⟩
        next busy =>
          rw [if_neg busy]
          split at stepped
          next down =>
            cases stepped
            rw [if_pos down]
            exact ⟨rfl, List.forall_mem_cons.2 ⟨⟨by simpa using busy, down⟩, plain⟩⟩
          next goes =>
            rw [if_neg goes]
            cases stack with
            | nil => cases stepped
            | cons top below =>
                cases stepped
                obtain ⟨⟨-, down⟩, others⟩ := List.forall_mem_cons.1 plain
                exact ⟨if_neg down, others⟩
      rw [List.foldl_cons, same.1]
      exact induction same.2 done

theorem fold_bottom (settled : Settled stack) (bottom : stack.getLast? = some up)
    (segments : List Segment) : (segments.foldl (advance false) stack).getLast? = some up := by
  induction segments generalizing stack with
  | nil => exact bottom
  | cons segment rest induction =>
      refine induction (advance_settled settled segment) ?_
      obtain ⟨top, below, rfl⟩ : ∃ top below, stack = top :: below :=
        List.exists_cons_of_ne_nil (by rintro rfl; cases bottom)
      have pushed (other : Segment) : (other :: top :: below).getLast? = some up := by
        rw [List.getLast?_cons_cons, bottom]
      unfold advance
      split
      · exact bottom
      · split
        · exact pushed segment
        · dsimp only
          split
          · exact pushed up
          next down =>
            -- The top is taken back, and it was not the double dot at the bottom.
            cases below with
            | nil => exact absurd (Option.some.inj bottom) down
            | cons next others => rwa [List.getLast?_cons_cons] at bottom

/-- Once a step led above the top, the normal form begins with a double dot. -/
theorem fold_escaped (plain : ∀ segment ∈ stack, Plain segment)
    (escaped : segments.foldlM step? stack = none) :
    (segments.foldl (advance false) stack).getLast? = some up := by
  induction segments generalizing stack with
  | nil => cases escaped
  | cons segment rest induction =>
      rw [List.foldlM_cons] at escaped
      cases stepped : step? stack segment with
      | none =>
          obtain ⟨rfl, rfl⟩ := step_none_iff.1 stepped
          exact fold_bottom (settled_cons_iff.2 ⟨up_busy, by simp, settled_nil⟩) rfl rest
      | some next =>
          rw [stepped] at escaped
          have one : [segment].foldlM step? stack = some next := by simp [stepped]
          obtain ⟨same, plainToo⟩ := fold_kept plain one
          rw [List.foldl_cons, show advance false stack segment = next from same]
          exact induction plainToo escaped

theorem fold_none_iff : segments.foldlM step? stack = none ↔
    ∃ before after, segments = before ++ up :: after ∧ before.foldlM step? stack = some [] := by
  induction segments generalizing stack with
  | nil => simp
  | cons segment rest induction =>
      rw [List.foldlM_cons]
      constructor
      · intro escaped
        cases stepped : step? stack segment with
        | none =>
            obtain ⟨rfl, rfl⟩ := step_none_iff.1 stepped
            exact ⟨[], rest, rfl, rfl⟩
        | some next =>
            rw [stepped] at escaped
            obtain ⟨before, after, rfl, empty⟩ := induction.1 escaped
            refine ⟨segment :: before, after, rfl, ?_⟩
            rw [List.foldlM_cons, stepped]
            exact empty
      · rintro ⟨before, after, shape, empty⟩
        cases before with
        | nil =>
            cases empty
            cases shape
            rfl
        | cons first others =>
            obtain ⟨rfl, rfl⟩ := List.cons.inj shape
            rw [List.foldlM_cons] at empty
            obtain ⟨next, stepped, empty⟩ := Option.bind_eq_some_iff.1 empty
            rw [stepped]
            exact induction.2 ⟨others, after, rfl, empty⟩

end Fold

section Evaluate

variable {segments others kept : List Segment}

theorem evaluate_congr (same : (segments.filter fun segment => !idle segment) =
    others.filter fun segment => !idle segment) : evaluate? segments = evaluate? others := by
  rw [evaluate?, evaluate?, ← fold_without_idle, same, fold_without_idle]

theorem evaluate_kept (done : evaluate? segments = some kept) :
    reduce false segments = kept ∧ ∀ segment ∈ kept, Plain segment := by
  obtain ⟨stack, folded, rfl⟩ := Option.map_eq_some_iff.1 done
  obtain ⟨same, plain⟩ := fold_kept (by simp) folded
  exact ⟨congrArg List.reverse same,
    fun segment member => plain segment (List.mem_reverse.1 member)⟩

theorem evaluate_escaped (escaped : evaluate? segments = none) :
    (reduce false segments).head? = some up := by
  rw [reduce, List.head?_reverse]
  exact fold_escaped (by simp) (Option.map_eq_none_iff.1 escaped)

theorem evaluate_none_iff : evaluate? segments = none ↔
    ∃ before after, segments = before ++ up :: after ∧ evaluate? before = some [] := by
  have empty (before : List Segment) :
      evaluate? before = some [] ↔ before.foldlM step? [] = some [] := by
    simp [evaluate?]
  rw [evaluate?, Option.map_eq_none_iff, fold_none_iff]
  simp only [empty]

/-- Names are pushed one by one, and as many double dots take them back. -/
theorem fold_plain (plain : ∀ segment ∈ segments, Plain segment) (stack : List Segment) :
    segments.foldlM step? stack = some (segments.reverse ++ stack) := by
  induction segments generalizing stack with
  | nil => rfl
  | cons segment rest induction =>
      obtain ⟨here, later⟩ := List.forall_mem_cons.1 plain
      rw [List.foldlM_cons, step_of_plain here]
      simpa using induction later (segment :: stack)

theorem fold_ups (taken stack : List Segment) :
    (List.replicate taken.length up).foldlM step? (taken ++ stack) = some stack := by
  induction taken with
  | nil => rfl
  | cons top below induction =>
      rw [List.length_cons, List.replicate_succ, List.foldlM_cons, List.cons_append, step_up]
      exact induction

theorem evaluate_plain (plain : ∀ segment ∈ segments, Plain segment) :
    evaluate? segments = some segments := by
  rw [evaluate?, fold_plain plain]
  simp

theorem evaluate_back (plain : ∀ segment ∈ segments, Plain segment)
    (plainToo : ∀ segment ∈ others, Plain segment) :
    evaluate? (segments ++ List.replicate segments.length up ++ others) = some others := by
  have back := fold_ups segments.reverse []
  rw [List.length_reverse, List.append_nil] at back
  rw [evaluate?, List.foldlM_append, List.foldlM_append, fold_plain plain, List.append_nil]
  dsimp only [bind, Option.bind]
  rw [back]
  dsimp only
  rw [fold_plain plainToo]
  simp

end Evaluate

end ImportImpact.Segment
