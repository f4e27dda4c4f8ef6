import ImportImpact.Fault
import Mathlib.Data.List.Perm.Basic

/-!
Operations that can fail, one after the other: a sequence succeeds with exactly the results of its
parts.
-/

namespace ImportImpact.Outcome

variable {Input Output : Type}

theorem bind_ok_iff {first : Outcome Input} {next : Input → Outcome Output} {result : Output} :
    (first >>= next) = .ok result ↔ ∃ input, first = .ok input ∧ next input = .ok result := by
  cases first <;> simp [bind, Except.bind]

theorem bind_error_iff {first : Outcome Input} {next : Input → Outcome Output} {fault : Fault} :
    (first >>= next) = .error fault ↔
      first = .error fault ∨ ∃ input, first = .ok input ∧ next input = .error fault := by
  cases first <;> simp [bind, Except.bind]

theorem pure_ok_iff {given result : Output} :
    (pure given : Outcome Output) = .ok result ↔ given = result := by
  simp [pure, Except.pure]

theorem map_bind {View : Type} (first : Outcome Input) (next : Input → Outcome Output)
    (view : Output → View) :
    (first >>= next).map view = first >>= fun input => (next input).map view := by
  cases first <;> rfl

theorem bind_congr_ok {first : Outcome Input} {next other : Input → Outcome Output}
    (onward : ∀ input, first = .ok input → next input = other input) :
    (first >>= next) = (first >>= other) := by
  cases first with
  | error fault => rfl
  | ok input => exact onward input rfl

/-- What follows an operation and looks at a view of its result only is the same for all operations
with this view. -/
theorem bind_congr_view {View : Type} {first second : Outcome Input} {view : Input → View}
    (same : first.map view = second.map view) {next other : Input → Outcome Output}
    (onward : ∀ left right, first = .ok left → view left = view right → next left = other right) :
    (first >>= next) = (second >>= other) := by
  cases first with
  | error fault =>
      cases second with
      | error another => exact congrArg Except.error (Except.error.inj same)
      | ok right => cases same
  | ok left =>
      cases second with
      | error fault => cases same
      | ok right => exact onward left right rfl (Except.ok.inj same)

theorem map_all_ok {operation : Input → Outcome Output} {inputs : List Input}
    {outputs : List Output} (done : inputs.mapM operation = .ok outputs) :
    List.Forall₂ (fun input output => operation input = .ok output) inputs outputs := by
  induction inputs generalizing outputs with
  | nil =>
      rw [List.mapM_nil, pure_ok_iff] at done
      subst done
      exact .nil
  | cons input rest induction =>
      rw [List.mapM_cons, bind_ok_iff] at done
      obtain ⟨output, here, done⟩ := done
      obtain ⟨others, later, done⟩ := bind_ok_iff.1 done
      rw [pure_ok_iff] at done
      subst done
      exact .cons here (induction later)

theorem map_all_of_beside {operation : Input → Outcome Output} {inputs : List Input}
    {outputs : List Output}
    (beside : List.Forall₂ (fun input output => operation input = .ok output) inputs outputs) :
    inputs.mapM operation = .ok outputs := by
  induction beside with
  | nil => rfl
  | cons here _ induction =>
      rw [List.mapM_cons, here, induction]
      rfl

theorem map_all_perm {operation : Input → Outcome Output} {inputs others : List Input}
    {outputs outputsToo : List Output} (permuted : inputs.Perm others)
    (done : inputs.mapM operation = .ok outputs)
    (doneToo : others.mapM operation = .ok outputsToo) : outputs.Perm outputsToo := by
  obtain ⟨between, beside, reordered⟩ :=
    List.perm_comp_forall₂ permuted (map_all_ok doneToo)
  have unique : Relator.RightUnique fun (input : Input) (output : Output) =>
      operation input = .ok output := by
    intro input output other here there
    exact Except.ok.inj (here.symm.trans there)
  rw [List.right_unique_forall₂' unique (map_all_ok done) beside]
  exact reordered

theorem map_all_congr {first second : Input → Outcome Output} {inputs : List Input}
    (same : ∀ input ∈ inputs, first input = second input) :
    inputs.mapM first = inputs.mapM second := by
  induction inputs with
  | nil => rfl
  | cons input rest induction =>
      rw [List.mapM_cons, List.mapM_cons, same input List.mem_cons_self,
        induction fun other member => same other (List.mem_cons_of_mem input member)]

/-- A view of all results is the results of the views. -/
theorem map_all_view {View : Type} (operation : Input → Outcome Output) (view : Output → View)
    (inputs : List Input) : (inputs.mapM operation).map (List.map view) =
      inputs.mapM fun input => (operation input).map view := by
  induction inputs with
  | nil => rfl
  | cons input rest induction =>
      rw [List.mapM_cons, List.mapM_cons, ← induction]
      cases operation input with
      | error fault => rfl
      | ok output => cases rest.mapM operation <;> rfl

theorem exists_outputs {operation : Input → Outcome Output} {inputs : List Input}
    (defined : ∀ input ∈ inputs, ∃ output, operation input = .ok output) :
    ∃ outputs, inputs.mapM operation = .ok outputs := by
  induction inputs with
  | nil => exact ⟨[], rfl⟩
  | cons input rest induction =>
      obtain ⟨output, here⟩ := defined input List.mem_cons_self
      obtain ⟨others, later⟩ := induction fun other member =>
        defined other (List.mem_cons_of_mem input member)
      rw [List.mapM_cons, here, later]
      exact ⟨output :: others, rfl⟩

theorem exists_input {related : Input → Output → Prop} {inputs : List Input}
    {outputs : List Output} (beside : List.Forall₂ related inputs outputs) {output : Output}
    (member : output ∈ outputs) : ∃ input ∈ inputs, related input output := by
  induction beside with
  | nil => simp at member
  | cons here _ induction =>
      rcases List.mem_cons.1 member with rfl | later
      · exact ⟨_, by simp, here⟩
      · obtain ⟨input, inside, done⟩ := induction later
        exact ⟨input, by simp [inside], done⟩

theorem exists_output {related : Input → Output → Prop} {inputs : List Input}
    {outputs : List Output} (beside : List.Forall₂ related inputs outputs) {input : Input}
    (member : input ∈ inputs) : ∃ output ∈ outputs, related input output :=
  exists_input beside.flip member

theorem exists_fault {operation : Input → Outcome Output} {inputs : List Input} {fault : Fault}
    (failed : inputs.mapM operation = .error fault) :
    ∃ input ∈ inputs, operation input = .error fault := by
  induction inputs with
  | nil => cases failed
  | cons input rest induction =>
      rw [List.mapM_cons, bind_error_iff] at failed
      rcases failed with here | ⟨output, -, failed⟩
      · exact ⟨input, List.mem_cons_self, here⟩
      · rcases bind_error_iff.1 failed with later | ⟨outputs, -, done⟩
        · obtain ⟨other, member, failed⟩ := induction later
          exact ⟨other, List.mem_cons_of_mem input member, failed⟩
        · cases done

/-- Both operations fail, or both succeed with results that are related. -/
inductive Alike (related : Input → Output → Prop) : Outcome Input → Outcome Output → Prop
  | succeeded {input : Input} {output : Output} (results : related input output) :
      Alike related (.ok input) (.ok output)
  | failed (fault other : Fault) : Alike related (.error fault) (.error other)

section Alike

variable {Result Other : Type} {related : Input → Output → Prop} {further : Result → Other → Prop}

theorem Alike.bind {first : Outcome Input} {second : Outcome Output} {next : Input → Outcome Result}
    {other : Output → Outcome Other} (alike : Alike related first second)
    (onward : ∀ input output, related input output → Alike further (next input) (other output)) :
    Alike further (first >>= next) (second >>= other) := by
  cases alike with
  | succeeded results => exact onward _ _ results
  | failed fault other => exact .failed fault other

theorem Alike.congr {first firstToo : Outcome Input} {second secondToo : Outcome Output}
    (alike : Alike related first second) (same : firstToo.toOption = first.toOption)
    (sameToo : secondToo.toOption = second.toOption) : Alike related firstToo secondToo := by
  cases alike with
  | succeeded results =>
      cases firstToo <;> cases same
      cases secondToo <;> cases sameToo
      exact .succeeded results
  | failed fault other =>
      cases firstToo <;> cases same
      cases secondToo <;> cases sameToo
      exact .failed _ _

theorem Alike.map_all {inputs : List Input} {others : List Output}
    {first : Input → Outcome Result} {second : Output → Outcome Other}
    (beside : List.Forall₂ (fun input other => Alike further (first input) (second other))
      inputs others) :
    Alike (List.Forall₂ further) (inputs.mapM first) (others.mapM second) := by
  induction beside with
  | nil => exact .succeeded .nil
  | cons here _ induction =>
      rw [List.mapM_cons, List.mapM_cons]
      refine here.bind fun result other alike => ?_
      exact induction.bind fun results others later => .succeeded (.cons alike later)

theorem alike_of_view {View : Type} {first second : Outcome Input} {view : Input → View}
    (same : first.map view = second.map view) :
    Alike (fun input other => view input = view other) first second := by
  cases first with
  | error fault =>
      cases second with
      | error other => exact .failed fault other
      | ok other => cases same
  | ok input =>
      cases second with
      | error other => cases same
      | ok other => exact .succeeded (Except.ok.inj same)

end Alike

end ImportImpact.Outcome
