import ImportImpact.Proofs.Json.RoundTrip
import ImportImpact.Settings.Apply

/-!
Settings and their document. The document names every setting in its section, and every name is
known there, so applying the document replaces all settings, whatever held before. Settings that
documents have led to hold what can stand in a document.
-/

namespace ImportImpact.Settings

open Value

section Document

variable (held settings : Settings)

theorem section_of_name (part : Section) : Section.ofName? part.name = some part := by
  cases part <;> rfl

theorem setting_of_name (part : Section) :
    ∀ setting ∈ part.settings, part.setting? setting.name = some setting := by
  cases part <;> decide

theorem every_setting (setting : Setting) : setting ∈ Section.all.flatMap Section.settings := by
  cases setting <;> decide

theorem names_distinct (part : Section) : (part.settings.map Setting.name).Nodup := by
  cases part <;> decide

theorem perform_sets (replaced : List Setting) :
    held.perform (replaced.map fun setting => .set setting (settings.value setting)) =
      ⟨⟨fun setting => if setting ∈ replaced then settings.value setting else held.value setting⟩,
        none⟩ := by
  induction replaced generalizing held with
  | nil => simp [perform]
  | cons first rest induction =>
      rw [List.map_cons, perform, induction]
      congr 2
      funext setting
      by_cases later : setting ∈ rest
      · rw [if_pos later, if_pos (List.mem_cons_of_mem first later)]
      · by_cases here : setting = first
        · subst here
          rw [if_neg later, if_pos List.mem_cons_self]
          exact if_pos rfl
        · rw [if_neg later, if_neg (by simp [here, later])]
          exact if_neg here

theorem assignments_of_section (part : Section) :
    (part.settings.map fun setting => entryOf (setting.name, settings.value setting)).map
        (fun field => assignment part field.1 field.2) =
      part.settings.map fun setting => .set setting (settings.value setting) := by
  rw [List.map_map]
  refine List.map_congr_left fun setting member => ?_
  simp only [Function.comp_apply, entryOf, assignment, setting_of_name part setting member]

theorem assignments_of_document (parts : List Section) :
    assignments (parts.map fun part => entryOf (part.name,
        record (part.settings.map fun setting => (setting.name, settings.value setting)))) =
      (parts.flatMap Section.settings).map fun setting =>
        .set setting (settings.value setting) := by
  rw [assignments, List.flatMap_map, List.map_flatMap]
  refine List.flatMap_congr fun part _ => ?_
  rw [← assignments_of_section settings part]
  simp only [entryOf, record_eq, section_of_name, List.map_map, Function.comp_def]

theorem apply_document : held.apply settings.toDocument = ⟨settings, none⟩ := by
  have performed : held.apply settings.toDocument = held.perform (assignments
      (Section.all.map fun part => entryOf (part.name,
        record (part.settings.map fun setting => (setting.name, settings.value setting))))) := rfl
  rw [performed, assignments_of_document, perform_sets]
  congr 2
  funext setting
  exact if_pos (every_setting setting)

end Document

section Reachable

/-- Settings that documents lead to, the ones whose application fails among them, as long as every
section keeps all of its settings. -/
inductive Reachable : Settings → Prop
  | initial : Reachable .initial
  | applied {settings : Settings} {entries : List (Value × Value)} (known : Reachable settings)
      (documented : ∀ entry ∈ entries, entry.2.Documented)
      (followed : ∀ detail,
        (settings.apply (.dict entries)).fault ≠ some (.unfollowed detail)) :
      Reachable (settings.apply (.dict entries)).settings

variable {settings : Settings}

theorem texts_documented (items : List String) : (texts items).Documented := by
  refine .list fun item member => ?_
  obtain ⟨text, -, rfl⟩ := List.mem_map.1 member
  exact .str text

theorem initial_documented (setting : Setting) : (Settings.initial.value setting).Documented := by
  cases setting <;> first
    | exact .null
    | exact .bool _
    | exact .int _
    | exact .str _
    | exact texts_documented _

theorem set_documented {setting : Setting} {value : Value} (documented : value.Documented)
    (held : ∀ other, (settings.value other).Documented) (other : Setting) :
    ((settings.set setting value).value other).Documented := by
  change (if other = setting then value else settings.value other).Documented
  split
  · exact documented
  · exact held other

theorem entries_documented {value : Value} (documented : value.Documented)
    {entries : List (Value × Value)} (mapping : value = .dict entries) :
    ∀ entry ∈ entries, entry.2.Documented := by
  cases documented with
  | record each =>
      obtain rfl := Value.dict.inj mapping
      intro entry member
      obtain ⟨field, inside, rfl⟩ := List.mem_map.1 member
      exact each field inside
  | _ => cases mapping

/-- What the step sets can stand in a document. -/
def Assignment.Documented : Assignment → Prop
  | .set _ value => value.Documented
  | .refill _ entries => ∀ entry ∈ entries, entry.2.Documented
  | .nothing | .fault _ => True

theorem member_documented {value : Value} (documented : value.Documented) (part : Section)
    (name : String) : (memberAssignment part name value).Documented := by
  unfold memberAssignment
  split_ifs
  · trivial
  · trivial
  · split
    next entries =>
      split
      · exact entries_documented documented rfl
      · trivial
    · trivial
  · trivial
  · trivial

theorem assignment_documented {value : Value} (documented : value.Documented) (part : Section)
    (key : Value) : (assignment part key value).Documented := by
  unfold assignment
  split
  · split
    · exact documented
    · split
      · trivial
      · exact member_documented documented part _
  · trivial

theorem assignments_documented {entries : List (Value × Value)}
    (documented : ∀ entry ∈ entries, entry.2.Documented) :
    ∀ step ∈ assignments entries, step.Documented := by
  intro step made
  obtain ⟨entry, member, inside⟩ := List.mem_flatMap.1 made
  split at inside
  next fields =>
    split at inside
    · obtain ⟨field, here, rfl⟩ := List.mem_map.1 inside
      exact assignment_documented (entries_documented (documented _ member) rfl field here) _ _
    · cases inside
  · cases inside

theorem refill_documented {entries : List (Value × Value)} (part : Section)
    (documented : ∀ entry ∈ entries, entry.2.Documented)
    (held : ∀ setting, (settings.value setting).Documented) (setting : Setting) :
    ((settings.refill part entries).value setting).Documented := by
  unfold refill
  induction part.settings generalizing settings with
  | nil => exact held setting
  | cons first rest induction =>
      refine induction (set_documented ?_ held)
      cases found : lookup first.name entries with
      | none => exact initial_documented first
      | some value =>
          obtain ⟨entry, there, rfl⟩ := Option.map_eq_some_iff.1 found
          exact documented entry (List.mem_of_find?_eq_some there)

theorem perform_documented {steps : List Assignment}
    (documented : ∀ step ∈ steps, step.Documented)
    (held : ∀ setting, (settings.value setting).Documented) (setting : Setting) :
    ((settings.perform steps).settings.value setting).Documented := by
  induction steps generalizing settings with
  | nil => exact held setting
  | cons step rest induction =>
      obtain ⟨here, later⟩ := List.forall_mem_cons.1 documented
      cases step with
      | set replaced value => exact induction later (set_documented here held)
      | refill part entries => exact induction later (refill_documented part here held)
      | nothing => exact induction later held
      | fault misuse => exact held setting

theorem Reachable.documented (reachable : settings.Reachable) (setting : Setting) :
    (settings.value setting).Documented := by
  induction reachable generalizing setting with
  | initial => exact initial_documented setting
  | applied known documented followed induction =>
      unfold apply
      split
      · exact induction setting
      · exact perform_documented (assignments_documented documented) induction setting

theorem document_documented (documented : ∀ setting, (settings.value setting).Documented) :
    settings.toDocument.Documented := by
  have distinct : (Section.all.map Section.name).Nodup := by decide
  refine .record (fun field member => ?_) (by rwa [List.map_map])
  obtain ⟨part, -, rfl⟩ := List.mem_map.1 member
  refine .record (fun field member => ?_) ?_
  · obtain ⟨setting, -, rfl⟩ := List.mem_map.1 member
    exact documented setting
  · rw [List.map_map]
    exact names_distinct part

theorem document_writable_iff : settings.toDocument.isWritable = true ↔
    ∀ setting, (settings.value setting).isWritable = true := by
  simp only [toDocument, record_writable_iff, List.forall_mem_map]
  constructor
  · intro writable setting
    obtain ⟨part, member, inside⟩ := List.mem_flatMap.1 (every_setting setting)
    exact writable part member setting inside
  · exact fun writable part _ setting _ => writable setting

theorem document_nesting_le_iff {levels : Nat} :
    settings.toDocument.nesting ≤ levels + 2 ↔
      ∀ setting, (settings.value setting).nesting ≤ levels := by
  simp only [toDocument, nesting_of_record_le_iff, List.forall_mem_map]
  constructor
  · intro shallow setting
    obtain ⟨part, member, inside⟩ := List.mem_flatMap.1 (every_setting setting)
    exact shallow part member setting inside
  · exact fun shallow part _ setting _ => shallow setting

end Reachable

end ImportImpact.Settings
