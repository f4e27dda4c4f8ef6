import ImportImpact.Proofs.Settings.Apply
import ImportImpact.Proofs.Value.Keyed

/-!
What a document gives: for each setting the value under its name in the mapping under the name of
its section, if there is one. Applying a document lays what it gives over the settings held before.
This goes well unless some known section has a key that is no text, or a name that stands for
something else that a section has.
-/

namespace ImportImpact

def Setting.part : Setting → Section
  | .encoding | .fallbackEncodings | .maxFileSize => .parser
  | .includeReverse | .maxDepth | .sourceRoots | .ignoredDirectories | .scriptExtensions
  | .styleExtensions | .resolveExtensions | .indexName | .followLinks => .dependencies
  | .toolName | .deduplicateEdges => .graph
  | .logLevel | .logFormat | .logFile | .logFileSize | .logBackups => .logging

namespace Section

variable {part : Section} {name : String} {setting : Setting}

theorem mem_settings_iff : setting ∈ part.settings ↔ setting.part = part := by
  cases part <;> cases setting <;> decide

theorem setting_iff : part.setting? name = some setting ↔
    setting.part = part ∧ setting.name = name := by
  constructor
  · intro found
    have named : setting.name = name := by simpa using List.find?_some found
    exact ⟨mem_settings_iff.1 (List.mem_of_find?_eq_some found), named⟩
  · rintro ⟨home, rfl⟩
    exact Settings.setting_of_name part setting (mem_settings_iff.2 home)

/-- Names that every section has for something that is no setting. -/
def sharedMembers : List String := ["__class__", "__weakref__", "__dict__", "__dataclass_fields__"]

def members (part : Section) : List String :=
  sharedMembers ++ if part = .dependencies then [Settings.derivedName] else []

theorem members_apart : ∀ member ∈ part.members, part.setting? member = none := by
  cases part <;> decide

theorem of_name_iff : ofName? name = some part ↔ part.name = name := by
  constructor
  · intro found
    simpa using List.find?_some found
  · rintro rfl
    exact Settings.section_of_name part

end Section

namespace Settings

open Value

/-- What a document says about a setting. -/
def given? (document : Value) (setting : Setting) : Option Value :=
  (document.field? setting.part.name).bind (Value.field? setting.name)

def overlaid (settings : Settings) (given : Setting → Option Value) : Settings :=
  ⟨fun setting => (given setting).getD (settings.value setting)⟩

theorem overlaid_overlaid (settings : Settings) (first second : Setting → Option Value) :
    (settings.overlaid first).overlaid second =
      settings.overlaid fun setting => (second setting).or (first setting) := by
  refine congrArg Settings.mk (funext fun setting => ?_)
  dsimp only [overlaid]
  cases second setting <;> rfl

section Steps

variable {settings : Settings} {steps : List Assignment}

def Assignment.sets? : Assignment → Setting → Option Value
  | .set changed value, setting => if changed = setting then some value else none
  | _, _ => none

def lastSet? : List Assignment → Setting → Option Value
  | [], _ => none
  | step :: rest, setting => (lastSet? rest setting).or (step.sets? setting)

theorem last_set_append (first second : List Assignment) (setting : Setting) :
    lastSet? (first ++ second) setting = (lastSet? second setting).or (lastSet? first setting) := by
  induction first with
  | nil => simp [lastSet?]
  | cons step rest induction =>
      rw [List.cons_append, lastSet?, induction, lastSet?, Option.or_assoc]

theorem set_eq_overlaid (settings : Settings) (changed : Setting) (value : Value) :
    settings.set changed value = settings.overlaid (Assignment.set changed value).sets? := by
  refine congrArg Settings.mk (funext fun setting => ?_)
  by_cases same : changed = setting
  · simp [Assignment.sets?, same]
  · simp [Assignment.sets?, same, Ne.symm same]

/-- The step sets at most one setting and nothing goes wrong. -/
def Assignment.isSimple : Assignment → Bool
  | .set _ _ | .nothing => true
  | .refill _ _ | .fault _ => false

/-- Simple steps lay what is set last over the settings. -/
theorem perform_eq (simple : ∀ step ∈ steps, step.isSimple = true) :
    settings.perform steps = ⟨settings.overlaid (lastSet? steps), none⟩ := by
  induction steps generalizing settings with
  | nil => rfl
  | cons step rest induction =>
      obtain ⟨here, later⟩ := List.forall_mem_cons.1 simple
      cases step with
      | set changed value =>
          rw [perform, induction later, set_eq_overlaid, overlaid_overlaid]
          rfl
      | nothing =>
          rw [perform, induction later]
          simp [lastSet?, Assignment.sets?]
      | refill part entries => cases here
      | fault misuse => cases here

theorem sound_of_perform (done : (settings.perform steps).fault = none) (fault : Fault) :
    .fault fault ∉ steps := by
  induction steps generalizing settings with
  | nil => exact List.not_mem_nil
  | cons step rest induction =>
      cases step with
      | fault other => cases done
      | _ => exact List.not_mem_cons_of_ne_of_not_mem nofun (induction done)

end Steps

/-- Every key is the name of a setting or of nothing. -/
structure Settable (part : Section) (fields : List (Value × Value)) : Prop where
  texts : ∀ field ∈ fields, ∃ name, field.1 = .str name
  free : ∀ member ∈ part.members, member ∉ textKeys fields

/-- A document that says at most one thing about a setting, and nothing that cannot be set. -/
structure Orderly (entries : List (Value × Value)) : Prop where
  distinct : (textKeys entries).Nodup
  sections : ∀ part fields, (.str (Section.name part), .dict fields) ∈ entries →
    (textKeys fields).Nodup ∧ Settable part fields

section Assignments

variable {part : Section} {setting : Setting} {name : String}
  {fields entries : List (Value × Value)}

theorem assignment_of_setting (value : Value) (found : part.setting? name = some setting) :
    assignment part (.str name) value = .set setting value := by
  rw [assignment, found]

theorem assignment_of_other (value : Value) (unset : part.setting? name = none) :
    assignment part (.str name) value =
      if part = .dependencies && name = derivedName then .fault (.misuse .derivedSetting)
      else memberAssignment part name value := by
  rw [assignment, unset]

theorem member_sets (part : Section) (name : String) (value : Value) (setting : Setting) :
    (memberAssignment part name value).sets? setting = none := by
  unfold memberAssignment
  split_ifs <;> first
    | rfl
    | split <;> first
      | rfl
      | split <;> rfl

theorem assignment_sets (key value : Value) : (assignment part key value).sets? setting =
    if setting.part = part ∧ key.isText setting.name = true then some value else none := by
  by_cases named : ∃ name, key = .str name
  · obtain ⟨name, rfl⟩ := named
    cases found : part.setting? name with
    | none =>
        have missing : ¬(setting.part = part ∧ (Value.str name).isText setting.name = true) := by
          rintro ⟨home, same⟩
          rw [Section.setting_iff.2 ⟨home, (Value.str.inj (is_text_iff.1 same)).symm⟩] at found
          cases found
        rw [if_neg missing, assignment_of_other value found]
        split
        · rfl
        · exact member_sets part name value setting
    | some changed =>
        rw [assignment_of_setting value found]
        obtain ⟨home, rfl⟩ := Section.setting_iff.1 found
        refine if_congr ?_ rfl rfl
        rw [is_text_iff, Value.str.injEq]
        constructor
        · rintro rfl
          exact ⟨home, rfl⟩
        · rintro ⟨same, alike⟩
          rw [← same, Section.setting_iff.2 ⟨rfl, alike.symm⟩] at found
          exact (Option.some.inj found).symm
  · have unnamed : ¬(setting.part = part ∧ key.isText setting.name = true) :=
      fun both => named ⟨_, is_text_iff.1 both.2⟩
    rw [if_neg unnamed]
    cases key with
    | str name => exact absurd ⟨name, rfl⟩ named
    | _ => rfl

theorem member_simple_iff (part : Section) (name : String) (value : Value) :
    (memberAssignment part name value).isSimple = true ↔ name ∉ Section.sharedMembers := by
  simp only [Section.sharedMembers, List.mem_cons, List.not_mem_nil, or_false, not_or]
  unfold memberAssignment
  split_ifs with isClass isReference isDictionary isFields
  · exact iff_of_false nofun fun apart => apart.1 isClass
  · exact iff_of_false nofun fun apart => apart.2.1 isReference
  · refine iff_of_false ?_ fun apart => apart.2.2.1 isDictionary
    split
    · split <;> nofun
    · nofun
  · exact iff_of_false nofun fun apart => apart.2.2.2 isFields
  · exact iff_of_true rfl ⟨isClass, isReference, isDictionary, isFields⟩

/-- An entry is simple exactly if its key is a text and no name of a member. -/
theorem simple_assignment_iff (key value : Value) :
    (assignment part key value).isSimple = true ↔
      ∃ name, key = .str name ∧ name ∉ part.members := by
  by_cases named : ∃ name, key = .str name
  · obtain ⟨name, rfl⟩ := named
    simp only [Value.str.injEq, exists_eq_left']
    cases found : part.setting? name with
    | some setting =>
        rw [assignment_of_setting value found]
        refine iff_of_true rfl fun member => ?_
        rw [Section.members_apart name member] at found
        cases found
    | none =>
        rw [assignment_of_other value found, Section.members, List.mem_append, not_or]
        by_cases derived : part = .dependencies ∧ name = derivedName
        · obtain ⟨rfl, rfl⟩ := derived
          exact iff_of_false nofun fun apart => apart.2 (List.mem_singleton.2 rfl)
        · rw [if_neg (by simpa using derived), member_simple_iff]
          refine ⟨fun apart => ⟨apart, fun member => ?_⟩, And.left⟩
          split at member
          next home => exact derived ⟨home, List.mem_singleton.1 member⟩
          · cases member
  · refine iff_of_false ?_ fun ⟨name, same, _⟩ => named ⟨name, same⟩
    cases key with
    | str name => exact absurd ⟨name, rfl⟩ named
    | _ => nofun

theorem settable_iff : Settable part fields ↔
    ∀ field ∈ fields, (assignment part field.1 field.2).isSimple = true := by
  constructor
  · rintro ⟨texts, free⟩ field inside
    obtain ⟨name, same⟩ := texts field inside
    exact (simple_assignment_iff field.1 field.2).2 ⟨name, same, fun member =>
      free name member (mem_text_keys_iff.2 ⟨field.2, same ▸ inside⟩)⟩
  · intro simple
    refine ⟨fun field inside => ?_, fun member known inside => ?_⟩
    · obtain ⟨name, same, -⟩ := (simple_assignment_iff field.1 field.2).1 (simple field inside)
      exact ⟨name, same⟩
    · obtain ⟨value, there⟩ := mem_text_keys_iff.1 inside
      obtain ⟨name, same, apart⟩ := (simple_assignment_iff _ _).1 (simple _ there)
      exact apart (Value.str.inj same ▸ known)

theorem last_set_of_section (distinct : (textKeys fields).Nodup) :
    lastSet? (fields.map fun field => assignment part field.1 field.2) setting =
      if setting.part = part then lookup setting.name fields else none := by
  induction fields with
  | nil => exact (ite_self none).symm
  | cons field rest induction =>
      rw [List.map_cons, lastSet?, induction (rest_distinct distinct), assignment_sets, lookup_cons]
      by_cases home : setting.part = part
      · by_cases named : field.1.isText setting.name = true
        · simp [home, named, lookup_behind distinct named]
        · simp [home, named]
      · simp [home]

theorem assignments_cons (entry : Value × Value) :
    assignments (entry :: entries) = assignments [entry] ++ assignments entries := by
  simp only [assignments, List.flatMap_cons, List.flatMap_nil, List.append_nil]

theorem assignments_of_known (part : Section) (fields : List (Value × Value)) :
    assignments [(.str part.name, .dict fields)] =
      fields.map fun field => assignment part field.1 field.2 := by
  rw [assignments, List.flatMap_singleton]
  dsimp only
  rw [section_of_name]

theorem assignments_of_unknown {entry : Value × Value}
    (unknown : ∀ part fields, entry ≠ (.str (Section.name part), .dict fields)) :
    assignments [entry] = [] := by
  rw [assignments, List.flatMap_singleton]
  split
  next name fields =>
    split
    next part found => exact absurd rfl (Section.of_name_iff.1 found ▸ unknown part fields)
    · rfl
  · rfl

theorem known_or_unknown (entry : Value × Value) :
    (∃ part fields, entry = (.str (Section.name part), .dict fields)) ∨
      ∀ part fields, entry ≠ (.str (Section.name part), .dict fields) := by
  by_cases known : ∃ part fields, entry = (.str (Section.name part), .dict fields)
  · exact Or.inl known
  · exact Or.inr fun part fields same => known ⟨part, fields, same⟩

theorem section_names_distinct {part other : Section} (same : part.name = other.name) :
    part = other := by
  have found := section_of_name part
  rw [same, section_of_name] at found
  exact (Option.some.inj found).symm

theorem Orderly.rest {entry : Value × Value} (orderly : Orderly (entry :: entries)) :
    Orderly entries where
  distinct := rest_distinct orderly.distinct
  sections := fun part fields member => orderly.sections part fields (List.mem_cons_of_mem _ member)

theorem field_of_mapping (key : String) (entries : List (Value × Value)) :
    (Value.dict entries).field? key = lookup key entries := rfl

theorem field_of_other {value : Value} (other : ∀ fields, value ≠ .dict fields) (key : String) :
    value.field? key = none := by
  cases value with
  | dict fields => exact absurd rfl (other fields)
  | _ => rfl

theorem last_set_of_document (orderly : Orderly entries) :
    lastSet? (assignments entries) setting = given? (.dict entries) setting := by
  induction entries with
  | nil => rfl
  | cons entry rest induction =>
      rw [assignments_cons, last_set_append, induction orderly.rest, given?, given?,
        field_of_mapping, field_of_mapping, lookup_cons]
      by_cases here : entry.1.isText setting.part.name = true
      · rw [lookup_behind orderly.distinct here, if_pos here, Option.bind_none, Option.none_or,
          Option.bind_some]
        rcases known_or_unknown entry with ⟨part, fields, rfl⟩ | unknown
        · have home : setting.part = part :=
            section_names_distinct (Value.str.inj (is_text_iff.1 here)).symm
          rw [assignments_of_known,
            last_set_of_section (orderly.sections part fields List.mem_cons_self).1, if_pos home]
          rfl
        · rw [assignments_of_unknown unknown]
          refine (field_of_other (fun fields same => unknown setting.part fields ?_) _).symm
          exact Prod.ext (is_text_iff.1 here) same
      · rw [if_neg here]
        have nothing : lastSet? (assignments [entry]) setting = none := by
          rcases known_or_unknown entry with ⟨part, fields, rfl⟩ | unknown
          · have away : setting.part ≠ part := by
              rintro rfl
              exact here (is_text_iff.2 rfl)
            rw [assignments_of_known,
              last_set_of_section (orderly.sections part fields List.mem_cons_self).1, if_neg away]
          · rw [assignments_of_unknown unknown]
            rfl
        rw [nothing, Option.or_none]

theorem mem_assignments_iff {step : Assignment} : step ∈ assignments entries ↔
    ∃ part fields, (.str (Section.name part), .dict fields) ∈ entries ∧
      step ∈ fields.map fun field => assignment part field.1 field.2 := by
  have split : step ∈ assignments entries ↔ ∃ entry ∈ entries, step ∈ assignments [entry] := by
    simp only [assignments, List.mem_flatMap, List.mem_singleton, exists_eq_left]
  rw [split]
  constructor
  · rintro ⟨entry, member, made⟩
    rcases known_or_unknown entry with ⟨part, fields, rfl⟩ | unknown
    · exact ⟨part, fields, member, assignments_of_known part fields ▸ made⟩
    · rw [assignments_of_unknown unknown] at made
      cases made
  · rintro ⟨part, fields, member, made⟩
    exact ⟨_, member, (assignments_of_known part fields).symm ▸ made⟩

/-- All steps are simple exactly if all keys of known sections can be set. -/
theorem simple_assignments_iff : (∀ step ∈ assignments entries, step.isSimple = true) ↔
    ∀ part fields, (.str (Section.name part), .dict fields) ∈ entries → Settable part fields := by
  constructor
  · exact fun simple part fields member => settable_iff.2 fun field inside =>
      simple _ (mem_assignments_iff.2 ⟨part, fields, member, List.mem_map_of_mem inside⟩)
  · intro settable step made
    obtain ⟨part, fields, member, inside⟩ := mem_assignments_iff.1 made
    obtain ⟨field, there, rfl⟩ := List.mem_map.1 inside
    exact settable_iff.1 (settable part fields member) field there

theorem apply_mapping (settings : Settings) (entries : List (Value × Value)) :
    settings.apply (.dict entries) = settings.perform (assignments entries) := by
  cases entries <;> rfl

theorem apply_orderly (settings : Settings) (orderly : Orderly entries) :
    settings.apply (.dict entries) = ⟨settings.overlaid (given? (.dict entries)), none⟩ := by
  have simple := simple_assignments_iff.2 fun part fields member =>
    (orderly.sections part fields member).2
  rw [apply_mapping, perform_eq simple]
  congr 2
  exact funext fun setting => last_set_of_document orderly

def wholeNames : List String := ["__dict__", "__dataclass_fields__"]

/-- The document puts nothing in the place of a whole section. -/
def KeepsSections (document : Value) : Prop :=
  ∀ part : Section, ∀ name ∈ wholeNames,
    (document.field? part.name).bind (Value.field? name) = none

/-- A step that is not simple and goes well is given in the place of a section. -/
theorem simple_of_sound {key value : Value}
    (sound : ∀ fault, assignment part key value ≠ .fault fault)
    (kept : ∀ name ∈ wholeNames, key ≠ .str name) :
    (assignment part key value).isSimple = true := by
  refine (simple_assignment_iff key value).2 ?_
  cases key with
  | str name =>
      refine ⟨name, rfl, fun member => ?_⟩
      have unset := Section.members_apart name member
      rw [assignment_of_other value unset] at sound
      have apart (whole : String) (listed : whole ∈ wholeNames) : name ≠ whole :=
        fun same => kept whole listed (congrArg Value.str same)
      simp only [Section.members, Section.sharedMembers, List.mem_append, List.mem_cons,
        List.not_mem_nil, or_false] at member
      rcases member with (rfl | rfl | rfl | rfl) | derived
      · exact sound (.misuse (.notClass value.kindName)) (by simp [derivedName, memberAssignment])
      · exact sound (.misuse (.notWritable "__weakref__" part.className))
          (by simp [derivedName, memberAssignment])
      · exact apart _ (by decide) rfl
      · exact apart _ (by decide) rfl
      · split at derived
        next home => exact sound _ (by rw [if_pos (by simp [home, List.mem_singleton.1 derived])])
        · cases derived
  | _ => exact absurd rfl (sound _)

/-- A document without keys that are there twice is orderly if it can be applied and puts nothing in
the place of a section. -/
theorem orderly_of_applied {settings : Settings} (keyed : (Value.dict entries).Keyed)
    (kept : KeepsSections (.dict entries))
    (applied : (settings.apply (.dict entries)).fault = none) : Orderly entries := by
  rw [apply_mapping] at applied
  cases keyed with
  | dict distinct each =>
      refine ⟨distinct, fun part fields member => ?_⟩
      have inside : (textKeys fields).Nodup := by
        cases each _ member with
        | dict inside _ => exact inside
      refine ⟨inside, settable_iff.2 fun field there => simple_of_sound (fun fault failed => ?_)
        fun name whole same => ?_⟩
      · exact sound_of_perform applied fault (mem_assignments_iff.2
          ⟨part, fields, member, List.mem_map.2 ⟨field, there, failed⟩⟩)
      · have missing := kept part name whole
        rw [field_of_mapping, lookup_of_entry distinct member, Option.bind_some,
          field_of_mapping, lookup_of_entry inside (show (.str name, field.2) ∈ fields from
            same ▸ there)] at missing
        cases missing

end Assignments

end Settings

end ImportImpact
