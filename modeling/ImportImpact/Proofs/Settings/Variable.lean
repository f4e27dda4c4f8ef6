import ImportImpact.Settings.Environment
import Mathlib.Data.List.Nodup

/-!
Settings from variables. Three settings have a variable. Its name begins with the common opening and
is the setting's word in small letters from there on. Where no two variables have the same name in
small letters, a setting whose variable is there has the value that this variable gives, and all
other settings are left alone.
-/

namespace ImportImpact

namespace Text

variable {text : List Char}

/-- Only of a capital sigma the small form depends on what stands around it. -/
theorem lower_after_plain (plain : 'Σ' ∉ text) (before : List Char) :
    lowerAfter before text = text.flatMap small := by
  induction text generalizing before with
  | nil => rfl
  | cons character rest induction =>
      obtain ⟨here, later⟩ := not_or.1 (mt List.mem_cons.2 plain)
      rw [lowerAfter, if_neg (Ne.symm here), induction later, List.flatMap_cons]

theorem lower_case_append {first second : String} (plain : 'Σ' ∉ first.toList)
    (plainToo : 'Σ' ∉ second.toList) :
    lowerCase (first ++ second) = lowerCase first ++ lowerCase second := by
  have together : 'Σ' ∉ first.toList ++ second.toList := by
    rw [List.mem_append, not_or]
    exact ⟨plain, plainToo⟩
  rw [← String.toList_inj, String.toList_append]
  simp only [lowerCase, lower, String.toList_ofList, String.toList_append]
  rw [lower_after_plain together, lower_after_plain plain, lower_after_plain plainToo,
    List.flatMap_append]

theorem sigma_of_lower_after (sigma : 'Σ' ∈ text) (before : List Char) :
    'σ' ∈ lowerAfter before text ∨ 'ς' ∈ lowerAfter before text := by
  induction text generalizing before with
  | nil => cases sigma
  | cons character rest induction =>
      rw [lowerAfter]
      rcases List.mem_cons.1 sigma with rfl | later
      · cases endsWord before rest <;> simp
      · exact (induction later (character :: before)).imp (List.mem_append_right _)
          (List.mem_append_right _)

end Text

namespace Setting

/-- What the name of a setting's variable is behind the opening, in small letters. -/
def word? : Setting → Option String
  | .logLevel => some "log_level"
  | .maxDepth => some "max_depth"
  | .includeReverse => some "include_reverse_deps"
  | _ => none

def meaning? : Setting → String → Option Value
  | .logLevel, text => some (.str text)
  | .maxDepth, text => (Decimal.readInteger? text).map .int
  | .includeReverse, text => some (.bool (Settings.affirmative text))
  | _, _ => none

/-- The variable of this name is the one of the setting. -/
def IsNamedBy (setting : Setting) (name : String) : Prop :=
  ∃ rest, name = Settings.variableOpening ++ rest ∧ setting.word? = some (Text.lowerCase rest)

variable {setting : Setting} {name : String}

theorem word_plain {word : String} (known : setting.word? = some word) :
    'σ' ∉ word.toList ∧ 'ς' ∉ word.toList := by
  cases setting <;> cases known <;> decide

theorem lower_of_named (named : setting.IsNamedBy name) : ∃ word, setting.word? = some word ∧
    Text.lowerCase name = "prgraph_" ++ word := by
  obtain ⟨rest, rfl, known⟩ := named
  refine ⟨_, known, ?_⟩
  have plain : 'Σ' ∉ rest.toList := by
    intro sigma
    have small := word_plain known
    rw [Text.lowerCase, String.toList_ofList] at small
    exact (Text.sigma_of_lower_after sigma []).elim small.1 small.2
  rw [Text.lower_case_append (by decide) plain]
  exact congrArg (· ++ Text.lowerCase rest) (by decide)

theorem same_lower_of_named {other : String} (named : setting.IsNamedBy name)
    (namedToo : setting.IsNamedBy other) : Text.lowerCase name = Text.lowerCase other := by
  obtain ⟨word, known, same⟩ := lower_of_named named
  obtain ⟨wordToo, knownToo, sameToo⟩ := lower_of_named namedToo
  rw [same, sameToo, Option.some.inj (known.symm.trans knownToo)]

end Setting

namespace Settings

variable {settings changed result : Settings} {environment : Environment}

theorem applied_word {name text : String} {rest : List Char}
    (opened : Text.after? variableOpening.toList name.toList = some rest)
    (applied : settings.applyVariable name text = .ok changed) (setting : Setting) :
    (setting.word? = some (Text.lowerCase (String.ofList rest)) →
        setting.meaning? text = some (changed.value setting)) ∧
      (setting.word? ≠ some (Text.lowerCase (String.ofList rest)) →
        changed.value setting = settings.value setting) := by
  unfold applyVariable at applied
  rw [opened] at applied
  dsimp only at applied
  split at applied
  next word =>
    cases applied
    rw [word]
    cases setting <;> simp [Setting.word?, Setting.meaning?, set]
  next word =>
    split at applied
    next depth whole =>
      cases applied
      rw [word]
      cases setting <;> simp [Setting.word?, Setting.meaning?, set, whole]
    · cases applied
  next word =>
    cases applied
    rw [word]
    cases setting <;> simp [Setting.word?, Setting.meaning?, set]
  next notLevel notDepth notReverse =>
    cases applied
    refine ⟨fun known => ?_, fun _ => rfl⟩
    cases setting <;> first
      | exact absurd (Option.some.inj known).symm notLevel
      | exact absurd (Option.some.inj known).symm notDepth
      | exact absurd (Option.some.inj known).symm notReverse
      | cases known

theorem applied_variable {name text : String}
    (applied : settings.applyVariable name text = .ok changed) (setting : Setting) :
    (setting.IsNamedBy name → setting.meaning? text = some (changed.value setting)) ∧
      (¬setting.IsNamedBy name → changed.value setting = settings.value setting) := by
  cases opened : Text.after? variableOpening.toList name.toList with
  | none =>
      have foreign : ¬setting.IsNamedBy name := by
        rintro ⟨rest, rfl, -⟩
        have found : Text.after? variableOpening.toList
            (variableOpening ++ rest).toList = some rest.toList :=
          Text.after_eq_some_iff.2 (String.toList_append ..)
        rw [found] at opened
        cases opened
      rw [applyVariable, opened] at applied
      cases applied
      exact ⟨fun named => absurd named foreign, fun _ => rfl⟩
  | some rest =>
      have shape : name = variableOpening ++ String.ofList rest := by
        rw [← String.toList_inj, String.toList_append, String.toList_ofList]
        exact Text.after_eq_some_iff.1 opened
      have named_iff : setting.IsNamedBy name ↔
          setting.word? = some (Text.lowerCase (String.ofList rest)) := by
        constructor
        · rintro ⟨other, same, known⟩
          rw [shape] at same
          rwa [(String.append_right_inj _).1 same]
        · exact fun known => ⟨_, shape, known⟩
      rw [named_iff]
      exact applied_word opened applied setting

/-- Every variable gives its setting the value, and no other setting is changed. -/
theorem applied_environment
    (distinct : (environment.map fun entry => Text.lowerCase entry.1).Nodup)
    (applied : settings.applyEnvironment environment = ⟨result, none⟩) (setting : Setting) :
    (∀ entry ∈ environment, setting.IsNamedBy entry.1 →
        setting.meaning? entry.2 = some (result.value setting)) ∧
      ((∀ entry ∈ environment, ¬setting.IsNamedBy entry.1) →
        result.value setting = settings.value setting) := by
  induction environment generalizing settings with
  | nil =>
      cases applied
      exact ⟨fun _ member => absurd member List.not_mem_nil, fun _ => rfl⟩
  | cons first rest induction =>
      obtain ⟨name, text⟩ := first
      rw [applyEnvironment] at applied
      split at applied
      next changed done =>
        rw [List.map_cons, List.nodup_cons] at distinct
        obtain ⟨fresh, later⟩ := distinct
        obtain ⟨given, kept⟩ := induction later applied
        obtain ⟨givenHere, keptHere⟩ := applied_variable done setting
        refine ⟨fun entry member named => ?_, fun unnamed => ?_⟩
        · rcases List.mem_cons.1 member with rfl | after
          · -- No later variable is named for the same setting.
            rw [kept fun other inside namedToo => fresh (List.mem_map.2
              ⟨other, inside, Setting.same_lower_of_named namedToo named⟩)]
            exact givenHere named
          · exact given entry after named
        · rw [kept fun other inside => unnamed other (List.mem_cons_of_mem _ inside)]
          exact keptHere (unnamed _ List.mem_cons_self)
      · cases applied

end Settings

end ImportImpact
