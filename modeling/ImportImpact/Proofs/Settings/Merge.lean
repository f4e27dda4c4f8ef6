import ImportImpact.Proofs.Settings.Given

/-!
Two documents applied in turn are one document, in which the sections of both are merged and the
later values win. What is no known setting in a known section counts for nothing.
-/

namespace ImportImpact.Settings

open Value

/-- The section of this name. One that is no mapping counts as absent. -/
def sectionOf? (entries : List (Value × Value)) (name : String) : Option (List (Value × Value)) :=
  (lookup name entries).bind mapping?

/-- Two documents as one. The sections that are in both have the later values set in the
earlier ones. -/
def merged (first second : List (Value × Value)) : List (Value × Value) :=
  (textKeys first ++ (textKeys second).filter (· ∉ textKeys first)).filterMap fun name =>
    (Option.merge update (sectionOf? first name) (sectionOf? second name)).map fun fields =>
      (.str name, .dict fields)

def isKnown (part : Section) : Value → Bool
  | .str name => (part.setting? name).isSome
  | _ => false

def knownMember? : Value × Value → Option (Value × Value)
  | (.str name, .dict fields) => (Section.ofName? name).map fun part =>
      (.str name, .dict (fields.filter fun field => isKnown part field.1))
  | _ => none

/-- What is left of a document without unknown sections, sections that are no mappings, and unknown
keys. -/
def known (entries : List (Value × Value)) : List (Value × Value) := entries.filterMap knownMember?

section Given

variable {entries : List (Value × Value)}

theorem given_eq (entries : List (Value × Value)) (setting : Setting) :
    given? (.dict entries) setting =
      (sectionOf? entries setting.part.name).bind (lookup setting.name) := by
  rw [given?, sectionOf?, Option.bind_assoc, field_of_mapping]
  exact Option.bind_congr fun inside _ => field_eq_lookup setting.name inside

theorem section_iff (distinct : (textKeys entries).Nodup) {name : String}
    {fields : List (Value × Value)} :
    sectionOf? entries name = some fields ↔ (.str name, .dict fields) ∈ entries := by
  rw [sectionOf?, Option.bind_eq_some_iff]
  constructor
  · rintro ⟨inside, found, mapping⟩
    rw [mapping_iff] at mapping
    exact mapping ▸ entry_of_lookup found
  · exact fun member => ⟨_, lookup_of_entry distinct member, rfl⟩

theorem given_iff (orderly : Orderly entries) {setting : Setting} {value : Value} :
    given? (.dict entries) setting = some value ↔
      ∃ fields, (.str setting.part.name, .dict fields) ∈ entries ∧
        (.str setting.name, value) ∈ fields := by
  rw [given_eq, Option.bind_eq_some_iff]
  refine exists_congr fun fields => ?_
  rw [section_iff orderly.distinct]
  exact and_congr_right fun member =>
    ⟨entry_of_lookup, lookup_of_entry (orderly.sections _ _ member).1⟩

end Given

section Merged

variable {first second : List (Value × Value)}

theorem Settable.update {part : Section} (settable : Settable part first)
    (later : Settable part second) : Settable part (update first second) := by
  refine ⟨fun field inside => ?_, fun name known inside => ?_⟩
  · rcases List.mem_append.1 (mem_update inside).1 with new | old
    · obtain ⟨other, inside, same⟩ := List.mem_map.1 new
      exact same ▸ later.texts other inside
    · obtain ⟨other, inside, same⟩ := List.mem_map.1 old
      exact same ▸ settable.texts other inside
  · obtain ⟨value, there⟩ := mem_text_keys_iff.1 inside
    rcases List.mem_append.1 (mem_update there).1 with new | old
    · exact later.free name known (text_key_iff.2 new)
    · exact settable.free name known (text_key_iff.2 old)

theorem section_of_names (names : List String)
    (sections : String → Option (List (Value × Value))) (name : String) :
    sectionOf? (names.filterMap fun name =>
      (sections name).map fun fields => (.str name, .dict fields)) name =
      if name ∈ names then sections name else none := by
  induction names with
  | nil => rfl
  | cons other rest induction =>
      rw [List.filterMap_cons]
      by_cases same : name = other
      · subst same
        rw [if_pos List.mem_cons_self]
        cases found : sections name with
        | none =>
            rw [Option.map_none]
            dsimp only
            rw [induction, found, ite_self]
        | some fields =>
            rw [Option.map_some]
            dsimp only
            rw [sectionOf?, lookup_cons, if_pos (is_text_iff.2 rfl)]
            rfl
      · have remaining : (name ∈ other :: rest) = (name ∈ rest) := by
          rw [List.mem_cons, eq_iff_iff, or_iff_right same]
        rw [if_congr (iff_of_eq remaining) rfl rfl, ← induction]
        cases found : sections other with
        | none => rfl
        | some fields =>
            rw [Option.map_some]
            dsimp only
            rw [sectionOf?, lookup_cons, if_neg (fun named => same (Value.str.inj
              (is_text_iff.1 named)).symm), sectionOf?]

theorem section_of_unnamed {entries : List (Value × Value)} {name : String}
    (unnamed : name ∉ textKeys entries) : sectionOf? entries name = none := by
  rw [sectionOf?, lookup_eq_none_iff.2 unnamed, Option.bind_none]

theorem section_of_merged (first second : List (Value × Value)) (name : String) :
    sectionOf? (merged first second) name =
      Option.merge update (sectionOf? first name) (sectionOf? second name) := by
  rw [merged, section_of_names]
  split
  · rfl
  next unnamed =>
    simp only [List.mem_append, List.mem_filter, not_or, not_and, decide_not, Bool.not_eq_true',
      decide_eq_false_iff_not, not_not] at unnamed
    rw [section_of_unnamed unnamed.1,
      section_of_unnamed fun inside => unnamed.1 (unnamed.2 inside)]
    rfl

theorem merged_distinct (distinct : (textKeys first).Nodup) (later : (textKeys second).Nodup) :
    (textKeys (merged first second)).Nodup := by
  rw [textKeys, merged, List.filterMap_filterMap]
  have names : ((textKeys first) ++ (textKeys second).filter (· ∉ textKeys first)).Nodup := by
    refine List.nodup_append.2 ⟨distinct, later.filter _, ?_⟩
    rintro name old other new rfl
    exact of_decide_eq_true (List.mem_filter.1 new).2 old
  refine names.filterMap fun name other text here there => ?_
  have same : ∀ key,
      text ∈ ((Option.merge update (sectionOf? first key) (sectionOf? second key)).map
        fun fields => (Value.str key, Value.dict fields)).bind (fun entry => entry.1.keyText?) →
      text = key := by
    intro key made
    obtain ⟨entry, known, named⟩ := Option.bind_eq_some_iff.1 made
    obtain ⟨fields, -, rfl⟩ := Option.map_eq_some_iff.1 known
    exact (Option.some.inj named).symm
  exact (same name here).symm.trans (same other there)

theorem merged_orderly (orderly : Orderly first) (later : Orderly second) :
    Orderly (merged first second) := by
  have distinct := merged_distinct orderly.distinct later.distinct
  refine ⟨distinct, fun part fields member => ?_⟩
  rw [← section_iff distinct, section_of_merged] at member
  have old : ∀ inside, sectionOf? first part.name = some inside →
      (textKeys inside).Nodup ∧ Settable part inside := fun inside found =>
    orderly.sections part inside ((section_iff orderly.distinct).1 found)
  have new : ∀ inside, sectionOf? second part.name = some inside →
      (textKeys inside).Nodup ∧ Settable part inside := fun inside found =>
    later.sections part inside ((section_iff later.distinct).1 found)
  cases before : sectionOf? first part.name with
  | none =>
      rw [before, Option.merge_none_left] at member
      exact new fields member
  | some earlier =>
      cases after : sectionOf? second part.name with
      | none =>
          rw [before, after, Option.merge_none_right] at member
          exact old fields (before.trans member)
      | some changes =>
          rw [before, after] at member
          obtain rfl := Option.some.inj member
          exact ⟨update_distinct (old earlier before).1,
            (old earlier before).2.update (new changes after).2⟩

/-- The merged document gives what the later one gives, or else the earlier one. -/
theorem given_of_merged (later : Orderly second) (setting : Setting) :
    given? (.dict (merged first second)) setting =
      (given? (.dict second) setting).or (given? (.dict first) setting) := by
  rw [given_eq, given_eq, given_eq, section_of_merged]
  cases before : sectionOf? first setting.part.name with
  | none => simp
  | some earlier =>
      cases after : sectionOf? second setting.part.name with
      | none => simp
      | some changes =>
          have distinct := (later.sections _ _ ((section_iff later.distinct).1 after)).1
          exact lookup_update distinct setting.name

end Merged

section Known

variable {entries : List (Value × Value)}

theorem known_member_iff {entry left : Value × Value} : knownMember? entry = some left ↔
    ∃ part fields, entry = (.str (Section.name part), .dict fields) ∧
      left = (entry.1, .dict (fields.filter fun field => isKnown part field.1)) := by
  constructor
  · intro made
    unfold knownMember? at made
    split at made
    next name fields =>
      obtain ⟨part, found, rfl⟩ := Option.map_eq_some_iff.1 made
      exact ⟨part, fields, by rw [Section.of_name_iff.1 found], rfl⟩
    · cases made
  · rintro ⟨part, fields, rfl, rfl⟩
    rw [knownMember?, section_of_name, Option.map_some]

theorem mem_known_iff {part : Section} {fields : List (Value × Value)} :
    (.str part.name, .dict fields) ∈ known entries ↔
      ∃ all, (.str part.name, .dict all) ∈ entries ∧
        fields = all.filter fun field => isKnown part field.1 := by
  rw [known, List.mem_filterMap]
  constructor
  · rintro ⟨entry, member, made⟩
    obtain ⟨home, all, rfl, same⟩ := known_member_iff.1 made
    obtain ⟨named, held⟩ := Prod.mk.inj same
    obtain rfl := section_names_distinct (Value.str.inj named)
    exact ⟨all, member, Value.dict.inj held⟩
  · rintro ⟨all, member, rfl⟩
    exact ⟨_, member, known_member_iff.2 ⟨part, all, rfl, rfl⟩⟩

theorem filter_keys_sublist (kept : Value × Value → Bool) (fields : List (Value × Value)) :
    (textKeys (fields.filter kept)).Sublist (textKeys fields) := List.filter_sublist.filterMap _

theorem known_keys_sublist (entries : List (Value × Value)) :
    (textKeys (known entries)).Sublist (textKeys entries) := by
  induction entries with
  | nil => exact List.Sublist.refl _
  | cons entry rest induction =>
      rw [known, List.filterMap_cons, text_keys_cons entry]
      cases made : knownMember? entry with
      | none => exact induction.trans (List.sublist_append_right _ _)
      | some left =>
          obtain ⟨part, fields, -, same⟩ := known_member_iff.1 made
          dsimp only
          rw [text_keys_cons left, same]
          exact (List.Sublist.refl _).append induction

theorem known_orderly (orderly : Orderly entries) : Orderly (known entries) where
  distinct := orderly.distinct.sublist (known_keys_sublist entries)
  sections := fun part fields member => by
    obtain ⟨all, here, rfl⟩ := mem_known_iff.1 member
    obtain ⟨distinct, texts, free⟩ := orderly.sections part all here
    have fewer := filter_keys_sublist (fun field => isKnown part field.1) all
    exact ⟨distinct.sublist fewer, fun field inside => texts field (List.mem_of_mem_filter inside),
      fun name known inside => free name known (fewer.subset inside)⟩

theorem given_of_known (orderly : Orderly entries) (setting : Setting) :
    given? (.dict (known entries)) setting = given? (.dict entries) setting := by
  refine Option.ext fun value => ?_
  rw [given_iff (known_orderly orderly), given_iff orderly]
  constructor
  · rintro ⟨fields, member, inside⟩
    obtain ⟨all, here, rfl⟩ := mem_known_iff.1 member
    exact ⟨all, here, List.mem_of_mem_filter inside⟩
  · rintro ⟨all, here, inside⟩
    refine ⟨_, mem_known_iff.2 ⟨all, here, rfl⟩, List.mem_filter.2 ⟨inside, ?_⟩⟩
    rw [isKnown, Section.setting_iff.2 ⟨rfl, rfl⟩]
    rfl

end Known

/-- Documents are merged from left to right: applying one and then another is applying the merged
document once, and applying one again changes nothing. A setting has the value that stands under
its name and its section, or else the one it had; all the rest of the document has no effect. -/
theorem applied_in_turn_as_merged (settings : Settings) {first second : List (Value × Value)}
    (orderly : Orderly first) (later : Orderly second) :
    ∃ once twice,
      settings.apply (.dict first) = ⟨once, none⟩ ∧
      once.apply (.dict second) = ⟨twice, none⟩ ∧
      settings.apply (.dict (merged first second)) = ⟨twice, none⟩ ∧
      once.apply (.dict first) = ⟨once, none⟩ ∧
      settings.apply (.dict (known first)) = ⟨once, none⟩ ∧
      (∀ (setting : Setting) fields value, (.str setting.part.name, .dict fields) ∈ first →
        (.str setting.name, value) ∈ fields → once.value setting = value) ∧
      ∀ setting : Setting, (∀ fields, (.str setting.part.name, .dict fields) ∈ first →
        setting.name ∉ textKeys fields) → once.value setting = settings.value setting := by
  refine ⟨_, _, apply_orderly settings orderly, apply_orderly _ later, ?_, ?_, ?_, ?_, ?_⟩
  · rw [apply_orderly settings (merged_orderly orderly later), overlaid_overlaid]
    congr 2
    exact funext (given_of_merged later)
  · rw [apply_orderly _ orderly, overlaid_overlaid]
    simp only [Option.or_self]
  · rw [apply_orderly settings (known_orderly orderly)]
    congr 2
    exact funext (given_of_known orderly)
  · intro setting fields value member inside
    change (given? _ setting).getD _ = value
    rw [(given_iff orderly).2 ⟨fields, member, inside⟩, Option.getD_some]
  · intro setting unnamed
    change (given? _ setting).getD _ = _
    cases found : given? (.dict first) setting with
    | none => rfl
    | some value =>
        obtain ⟨fields, member, inside⟩ := (given_iff orderly).1 found
        exact absurd (mem_text_keys_iff.2 ⟨value, inside⟩) (unnamed fields member)

def firstNamed : List (Value × Value) :=
  [(.str "graph", record [("tool_name", .str "first"), ("deduplicate_edges", .bool false)]),
   (.str "parser", record [("encoding", .str "latin-1")]), (.str "logging", .int 3)]

def secondNamed : List (Value × Value) :=
  [(.str "editor", record [("encoding", .str "ascii")]),
   (.str "graph", record [("colour", .null), ("tool_name", .str "second")])]

theorem second_name_wins :
    Orderly firstNamed ∧ Orderly secondNamed ∧
    merged firstNamed secondNamed =
      [(.str "graph", record [("tool_name", .str "second"), ("deduplicate_edges", .bool false),
        ("colour", .null)]),
       (.str "parser", record [("encoding", .str "latin-1")]),
       (.str "editor", record [("encoding", .str "ascii")])] ∧
    ∃ once twice,
      initial.apply (.dict firstNamed) = ⟨once, none⟩ ∧
      once.apply (.dict secondNamed) = ⟨twice, none⟩ ∧
      initial.apply (.dict (merged firstNamed secondNamed)) = ⟨twice, none⟩ ∧
      once.value .toolName = .str "first" ∧ once.value .logLevel = .str "WARNING" := by
  have orderly : Orderly firstNamed := by
    refine ⟨by decide, fun part fields member => ?_⟩
    simp only [firstNamed, List.mem_cons, Prod.mk.injEq, Value.dict.injEq, record] at member
    rcases member with ⟨-, rfl⟩ | ⟨-, rfl⟩ | member
    · exact ⟨by decide, by simp, by cases part <;> decide⟩
    · exact ⟨by decide, by simp, by cases part <;> decide⟩
    · simp at member
  have later : Orderly secondNamed := by
    refine ⟨by decide, fun part fields member => ?_⟩
    simp only [secondNamed, List.mem_cons, Prod.mk.injEq, Value.dict.injEq, record] at member
    rcases member with ⟨-, rfl⟩ | ⟨-, rfl⟩ | member
    · exact ⟨by decide, by simp, by cases part <;> decide⟩
    · exact ⟨by decide, by simp, by cases part <;> decide⟩
    · cases member
  obtain ⟨once, twice, done, again, together, -, -, named, unnamed⟩ :=
    applied_in_turn_as_merged initial orderly later
  refine ⟨orderly, later, rfl, once, twice, done, again, together, ?_, ?_⟩
  · exact named .toolName _ _ List.mem_cons_self List.mem_cons_self
  · exact unnamed .logLevel (by simp [firstNamed, record, Setting.part, Section.name])

end ImportImpact.Settings
