import ImportImpact.Proofs.Settings.Saved
import ImportImpact.Proofs.Yaml.RoundTrip

/-!
Settings that were saved to a YAML file and are loaded from it. They come back if every setting has
a simple value or a list of simple values. A text that reads like something else is written in
quotes. The initial texts are short enough to stand behind any name, even the one that has spaces.
-/

namespace ImportImpact

namespace Setting

/-- The setting can have this value alone or in a list: a text without spaces, or its initial
text, or what is no text. -/
inductive Simple (setting : Setting) : Value → Prop
  | null : Simple setting .null
  | bool (truth : Bool) : Simple setting (.bool truth)
  | int (number : Int) : Simple setting (.int number)
  | initial {text : String} (given : setting.initial = .str text) : Simple setting (.str text)
  | word {text : String} (solid : ∀ character ∈ text.toList, '!' ≤ character ∧ character ≤ '~') :
      Simple setting (.str text)

/-- A simple value or a list of such values. -/
inductive Flat (setting : Setting) : Value → Prop
  | simple {value : Value} (simple : setting.Simple value) : Flat setting value
  | list {items : List Value} (each : ∀ item ∈ items, setting.Simple item) :
      Flat setting (.list items)

variable {setting : Setting} {value : Value}

theorem texts_flat {texts : List String} (solid : ∀ text ∈ texts,
    (text.toList.all fun character => '!' ≤ character ∧ character ≤ '~') = true) :
    setting.Flat (.texts texts) := by
  refine .list fun item member => ?_
  obtain ⟨text, inside, rfl⟩ := List.mem_map.1 member
  exact .word (List.all_iff_forall_prop.1 (solid text inside))

theorem initial_flat (setting : Setting) : setting.Flat setting.initial := by
  cases setting <;> first
    | exact .simple .null
    | exact .simple (.bool _)
    | exact .simple (.int _)
    | exact .simple (.initial rfl)
    | exact texts_flat (by decide +kernel)

end Setting

namespace Yaml

def longestName : Nat := 20

theorem section_is_key (part : Section) : IsKey part.name := by
  have all : ∀ part ∈ Section.all, IsKey part.name := by decide +kernel
  exact all part (by cases part <;> decide)

theorem setting_is_key (setting : Setting) :
    IsKey setting.name ∧ setting.name.toList.length ≤ longestName := by
  have all : ∀ setting ∈ Section.all.flatMap Section.settings,
    IsKey setting.name ∧ setting.name.toList.length ≤ longestName := by decide +kernel
  exact all setting (Settings.every_setting setting)

section Stands

variable {setting : Setting} {frame : Frame}

/-- Behind any name of a setting there is enough space for every initial text. -/
theorem initial_legible {text : String} (given : setting.initial = .str text)
    (near : frame.column ≤ step + longestName + 2) : Legible frame text.toList := by
  have space : frame.column ≤ 24 := near
  cases setting <;> simp only [Setting.initial, Value.texts, reduceCtorEq] at given <;>
    obtain rfl := Value.str.inj given
  case logFormat =>
    refine ⟨List.all_eq_true.1 (by decide +kernel), Or.inr ⟨by decide +kernel, ?_⟩⟩
    have size : (doubled
        "%(asctime)s | %(levelname)s | %(name)s | %(message)s".toList).length = 52 := by
      decide +kernel
    rw [size, widest]
    omega
  all_goals exact ⟨List.all_eq_true.1 (by decide +kernel), Or.inl (by decide +kernel)⟩

theorem simple_stands {value : Value} (simple : setting.Simple value)
    (writable : value.isWritable = true) (near : frame.column ≤ step + longestName + 2) :
    StandsAs frame value := by
  cases simple with
  | null => exact null_stands frame
  | bool truth => exact bool_stands truth frame
  | int number => exact int_stands writable frame
  | initial given => exact text_stands (initial_legible given near)
  | word solid =>
      refine text_stands ⟨fun character member => ?_, Or.inl fun space => ?_⟩
      · obtain ⟨low, high⟩ := solid character member
        exact visible_iff.2 ⟨Nat.le_trans (by decide) low, high⟩
      · exact absurd (solid ' ' space).1 (by decide)

theorem flat_kept {value : Value} (flat : setting.Flat value) (writable : value.isWritable = true) :
    KeptAfterKey step (step + setting.name.toList.length + 1) value := by
  obtain ⟨-, short⟩ := setting_is_key setting
  cases flat with
  | simple simple => exact scalar_after_key (simple_stands simple writable (by simp; omega))
  | list each =>
      refine list_after_key (by decide) fun item member => simple_stands (each item member) ?_ ?_
      · exact Value.items_writable_iff.1 writable item member
      · decide

end Stands

end Yaml

namespace Settings

variable {settings : Settings}

theorem simple_nesting {setting : Setting} {value : Value} (simple : setting.Simple value) :
    value.nesting = 0 := by
  cases simple <;> rfl

theorem flat_nesting {setting : Setting} {value : Value} (flat : setting.Flat value) :
    value.nesting ≤ 1 := by
  cases flat with
  | simple simple =>
      rw [simple_nesting simple]
      exact Nat.zero_le 1
  | list each =>
      refine Nat.succ_le_succ (Value.items_nesting_le_iff.2 fun item member => ?_)
      exact Nat.le_of_eq (simple_nesting (each item member))

theorem flat_fits (each : ∀ setting : Setting, setting.Flat (settings.value setting))
    (platform : Platform) (format : FileFormat) : settings.Fits platform format := by
  have levels : settings.toDocument.nesting ≤ 1 + 2 :=
    document_nesting_le_iff.2 fun setting => flat_nesting (each setting)
  exact ⟨Nat.le_trans (Nat.le_trans levels (by decide)) platform.copyRoom.least,
    Nat.le_trans (Nat.le_trans levels (by decide)) (format.room platform).least⟩

section Rendered

variable (each : ∀ setting : Setting, setting.Flat (settings.value setting))
  (writable : ∀ setting, (settings.value setting).isWritable = true)

include each writable

theorem section_kept (part : Section) (after : Nat) :
    Yaml.KeptAfterKey 0 after (.record (part.settings.map fun setting =>
      (setting.name, settings.value setting))) := by
  refine Yaml.record_after_key ?_ ?_ (List.forall_mem_map.2 fun setting _ => ?_) after
  · cases part <;> simp [Section.settings]
  · rw [List.map_map]
    exact names_distinct part
  · rw [Nat.zero_add]
    exact ⟨(Yaml.setting_is_key setting).1, Yaml.flat_kept (each setting) (writable setting)⟩

theorem parse_written_yaml {platform : Platform} (known : platform.readYaml = Yaml.read)
    {path : Path} (yaml : isYaml path = true) :
    '\r' ∉ (settings.written .yaml).toList ∧
      parse platform path (settings.written .yaml) = .ok settings.toDocument := by
  have names : (Section.all.map Section.name).Nodup := by decide
  have distinct : (settings.fields.map Prod.fst).Nodup := by rwa [fields, List.map_map]
  have filled : settings.fields ≠ [] := by simp [fields, Section.all]
  obtain ⟨printed, read⟩ := Yaml.read_written_mapping filled distinct
    (List.forall_mem_map.2 fun part _ =>
      ⟨Yaml.section_is_key part, section_kept each writable part _⟩)
  constructor
  · rw [written, String.toList_ofList]
    exact fun member => (printed _ member).no_return rfl
  · rw [parse, if_pos yaml, known, written, read]
    rfl

end Rendered

/-- Settings with flat values come back from a YAML file, whatever was set before; only a number
that is too long to be written keeps them from being saved. -/
theorem yaml_round_trip (each : ∀ setting : Setting, setting.Flat (settings.value setting))
    {path : Path} (yaml : isYaml path = true) (system : FileSystem)
    (known : system.platform.readYaml = Yaml.read) :
    ((∃ setting, (settings.value setting).isWritable = false) →
        settings.save system path .yaml = .error .numberTooLong) ∧
      ((∀ setting, (settings.value setting).isWritable = true) →
        ∀ location, system.writable path = .ok location →
          ∃ saved, settings.save system path .yaml = .ok saved ∧
            ∀ held : Settings, held.load saved path = ⟨settings, none⟩) := by
  have fits := flat_fits each system.platform .yaml
  constructor
  · exact fun long => save_unwritable long fits path
  · intro writable location given
    obtain ⟨level, parsed⟩ := parse_written_yaml each writable known yaml
    exact ⟨_, save_rendered (render_written writable fits) given, load_written given level parsed⟩

theorem named_flat {tool : Value} (flat : Setting.Flat .toolName tool) (setting : Setting) :
    setting.Flat ((named tool).value setting) := by
  rw [value_named]
  split
  next same => exact same ▸ flat
  · exact setting.initial_flat

/-- Texts that look like a truth value, numbers, nothing, a date and signs of the language. -/
def lookalikes : Value :=
  .texts ["true", "1e3", "0x1f", "", "~", "-", "2001-01-01", "a:", "#"]

theorem lookalikes_come_back :
    (∀ setting : Setting, setting.Flat ((named lookalikes).value setting)) ∧
      isYaml ⟨.root, ["out.yaml"]⟩ = true ∧
      bare.platform.readYaml = Yaml.read ∧
      ∃ saved, (named lookalikes).save bare ⟨.root, ["out.yaml"]⟩ .yaml = .ok saved ∧
        ∀ held : Settings, held.load saved ⟨.root, ["out.yaml"]⟩ = ⟨named lookalikes, none⟩ := by
  have flat : ∀ setting : Setting, setting.Flat ((named lookalikes).value setting) :=
    named_flat (Setting.texts_flat (by decide +kernel))
  have yaml : isYaml ⟨.root, ["out.yaml"]⟩ = true := by decide +kernel
  have place : bare.writable ⟨.root, ["out.yaml"]⟩ = .ok ["out.yaml"] :=
    FileSystem.writable_name (by decide) (by decide) (by decide) rfl
  have writable : (named lookalikes).toDocument.isWritable = true := by decide +kernel
  exact ⟨flat, yaml, rfl,
    ((yaml_round_trip flat yaml bare rfl).2 (document_writable_iff.1 writable)) _ place⟩

/-- A tool name that is a number of one digit too many: no file is written. -/
theorem long_number_not_saved_as_yaml :
    (∀ setting : Setting, setting.Flat ((named (.int (10 ^ Value.mostDigits))).value setting)) ∧
      isYaml ⟨.root, ["out.yaml"]⟩ = true ∧
      bare.writable ⟨.root, ["out.yaml"]⟩ = .ok ["out.yaml"] ∧
      (named (.int (10 ^ Value.mostDigits))).save bare ⟨.root, ["out.yaml"]⟩ .yaml =
        .error .numberTooLong :=
  ⟨named_flat (.simple (.int _)), by decide +kernel,
    FileSystem.writable_name (by decide) (by decide) (by decide) rfl,
    save_unwritable ⟨_, tool_too_long⟩ (named_fits (by decide) _ _) _⟩

end Settings

end ImportImpact
