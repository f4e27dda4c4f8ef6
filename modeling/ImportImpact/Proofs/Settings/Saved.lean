import ImportImpact.Platform.Ordinary
import ImportImpact.Proofs.Encoding.Utf8
import ImportImpact.Proofs.FileSystem.Written
import ImportImpact.Proofs.Settings.Apply
import ImportImpact.Settings.Store

/-!
Settings that were saved to a file and are loaded from it. Whatever settings the file is loaded
into, they are the saved ones afterwards. A whole number that is too long to be written, and values
nested too deep, are all that a document can set and that keeps settings from being saved.
-/

namespace ImportImpact.Settings

open Value

section Loaded

variable {settings : Settings} {system : FileSystem} {path : Path} {location : Location}
  {format : FileFormat} {text : String}

theorem unify_level {characters : List Char} (level : '\r' ∉ characters) :
    Text.unifyLineEnds characters = characters := by
  induction characters with
  | nil => rfl
  | cons character rest induction =>
      obtain ⟨here, later⟩ := not_or.1 (mt List.mem_cons.2 level)
      rw [Text.unifyLineEnds, induction later]
      · rintro _ rfl
        exact absurd rfl here
      · rintro rfl
        exact absurd rfl here

theorem save_rendered (rendered : settings.render system.platform format = .ok text)
    (given : system.writable path = .ok location) : settings.save system path format =
      .ok (system.put location (.file (Utf8.ofString text))) := by
  rw [save, rendered]
  simp only [bind, Except.bind, FileSystem.write, given, pure, Except.pure]

def fields (settings : Settings) : List (String × Value) :=
  Section.all.map fun part => (part.name, .record (part.settings.map fun setting =>
    (setting.name, settings.value setting)))

def written (settings : Settings) : FileFormat → String
  | .yaml => String.ofList (Yaml.writeMapping (settings.fields.map Value.entryOf))
  | .json => String.ofList (Json.write 0 settings.toDocument)

def FileFormat.room (platform : Platform) : FileFormat → Room
  | .yaml => platform.yamlRoom
  | .json => platform.jsonRoom

/-- The settings are nested no deeper than they can be copied and written. -/
structure Fits (settings : Settings) (platform : Platform) (format : FileFormat) : Prop where
  copied : settings.toDocument.nesting ≤ platform.copyRoom.levels
  written : settings.toDocument.nesting ≤ (format.room platform).levels

theorem render_eq (settings : Settings) (platform : Platform) (format : FileFormat) :
    settings.render platform format = platform.copyRoom.holds settings.toDocument >>= fun _ =>
      settings.toDocument.demandWithin (format.room platform).fault
        (format.room platform).levels >>= fun _ => pure (settings.written format) := by
  cases format <;> rfl

theorem copy_holds {platform : Platform}
    (copied : settings.toDocument.nesting ≤ platform.copyRoom.levels) :
    platform.copyRoom.holds settings.toDocument = .ok () := if_pos copied

theorem document_long_iff :
    settings.toDocument.isWritable = false ↔
      ∃ setting, (settings.value setting).isWritable = false := by
  rw [← Bool.not_eq_true, document_writable_iff, not_forall]
  simp only [Bool.not_eq_true]

theorem render_written {platform : Platform}
    (writable : ∀ setting, (settings.value setting).isWritable = true)
    (fits : settings.Fits platform format) :
    settings.render platform format = .ok (settings.written format) := by
  rw [render_eq, copy_holds fits.copied, (demand_within_iff _).2
    ⟨document_writable_iff.2 writable, fits.written⟩]
  rfl

theorem save_unwritable (long : ∃ setting, (settings.value setting).isWritable = false)
    (fits : settings.Fits system.platform format) (path : Path) :
    settings.save system path format = .error .numberTooLong := by
  have refused : settings.render system.platform format = .error .numberTooLong := by
    rw [render_eq, copy_holds fits.copied, demand_long _
      (document_long_iff.2 long) fits.written]
    rfl
  rw [save, refused]
  rfl

theorem save_unfitting (writable : ∀ setting, (settings.value setting).isWritable = true)
    (deep : ¬settings.Fits system.platform format) (path : Path) :
    ∃ room ∈ [system.platform.copyRoom, format.room system.platform],
      settings.save system path format = .error room.fault := by
  by_cases copied : settings.toDocument.nesting ≤ system.platform.copyRoom.levels
  · have unwritten := Nat.lt_of_not_le fun written => deep ⟨copied, written⟩
    refine ⟨format.room system.platform, by simp, ?_⟩
    rw [save, render_eq, copy_holds copied,
      demand_deep _ (document_writable_iff.2 writable) unwritten]
    rfl
  · refine ⟨system.platform.copyRoom, by simp, ?_⟩
    rw [save, render_eq, Room.holds, if_neg copied]
    rfl

theorem read_plain_text_written (given : system.writable path = .ok location)
    (level : '\r' ∉ text.toList) :
    readPlainText (system.put location (.file (Utf8.ofString text))) path = .ok text := by
  rw [readPlainText, FileSystem.read_of_written _ given]
  simp only [bind, Except.bind, Utf8.decode_of_string, unify_level level, String.ofList_toList]
  rfl

theorem load_written (given : system.writable path = .ok location) (level : '\r' ∉ text.toList)
    (parsed : parse system.platform path text = .ok settings.toDocument) (held : Settings) :
    held.load (system.put location (.file (Utf8.ofString text))) path = ⟨settings, none⟩ := by
  have document : readDocument (system.put location (.file (Utf8.ofString text))) path =
      .ok settings.toDocument := by
    rw [readDocument, FileSystem.exists_of_written _ given]
    simp only [bind, Except.bind, if_true, read_plain_text_written given level]
    change (parse system.platform path text >>= _) = _
    rw [parsed]
    rfl
  rw [load, document]
  exact apply_document held settings

end Loaded

section Json

variable {settings : Settings}

theorem parse_written_json (documented : ∀ setting, (settings.value setting).Documented)
    (writable : ∀ setting, (settings.value setting).isWritable = true) {path : Path}
    (json : isYaml path = false) :
    '\r' ∉ (settings.written .json).toList ∧
      ∀ platform : Platform, settings.toDocument.nesting ≤ platform.readRoom.levels →
        parse platform path (settings.written .json) = .ok settings.toDocument := by
  have known := document_documented documented
  have rendered : Json.render settings.toDocument = .ok (settings.written .json) :=
    Json.render_ok_iff.2 ⟨document_writable_iff.2 writable, rfl⟩
  refine ⟨fun member => (Json.rendered_printed known rendered _ member).no_return rfl,
    fun platform fits => ?_⟩
  rw [parse, json, (Json.read_rendered known rendered).2 platform.readRoom fits]
  rfl

/-- Settings that documents lead to come back from a JSON file, whatever was set before. Only a
number that is too long to be written and values nested too deep keep them from being saved. -/
theorem json_round_trip (reachable : settings.Reachable) {path : Path}
    (json : isYaml path = false) (system : FileSystem) :
    (settings.Fits system.platform .json →
      ((∃ setting, (settings.value setting).isWritable = false) →
        settings.save system path .json = .error .numberTooLong) ∧
      ((∀ setting, (settings.value setting).isWritable = true) →
        ∀ location, system.writable path = .ok location →
          ∃ saved, settings.save system path .json = .ok saved ∧
            (settings.toDocument.nesting ≤ system.platform.readRoom.levels →
              ∀ held : Settings, held.load saved path = ⟨settings, none⟩))) ∧
    (¬settings.Fits system.platform .json →
      (∀ setting, (settings.value setting).isWritable = true) →
        ∃ room ∈ [system.platform.copyRoom, system.platform.jsonRoom],
          settings.save system path .json = .error room.fault) := by
  refine ⟨fun fits => ⟨fun long => save_unwritable long fits path,
    fun writable location given => ?_⟩, fun deep writable => save_unfitting writable deep path⟩
  obtain ⟨level, parsed⟩ := parse_written_json reachable.documented writable json
  exact ⟨_, save_rendered (render_written writable fits) given,
    fun shallow => load_written given level (parsed system.platform shallow)⟩

def named (tool : Value) : Settings :=
  (Settings.initial.apply (.dict [(.str "graph", .record [("tool_name", tool)])])).settings

theorem named_reachable {tool : Value} (documented : tool.Documented) :
    (named tool).Reachable := by
  refine .applied .initial (List.forall_mem_singleton.2 (.record ?_ (by simp))) nofun
  exact List.forall_mem_singleton.2 documented

theorem value_named (tool : Value) (setting : Setting) : (named tool).value setting =
    if setting = .toolName then tool else setting.initial := rfl

theorem named_nesting_le_iff {tool : Value} {levels : Nat} (some : 1 ≤ levels) :
    (named tool).toDocument.nesting ≤ levels + 2 ↔ tool.nesting ≤ levels := by
  rw [document_nesting_le_iff]
  constructor
  · exact fun each => each .toolName
  · intro shallow setting
    rw [value_named]
    split
    · exact shallow
    · refine Nat.le_trans ?_ some
      cases setting <;> decide

theorem named_fits {tool : Value} (shallow : tool.nesting ≤ 98) (platform : Platform)
    (format : FileFormat) : (named tool).Fits platform format := by
  have levels := (named_nesting_le_iff (by decide)).2 shallow
  exact ⟨Nat.le_trans levels platform.copyRoom.least,
    Nat.le_trans levels (format.room platform).least⟩

theorem tool_too_long :
    ((named (.int (10 ^ mostDigits))).value .toolName).isWritable = false := by
  rw [value_named, if_pos rfl, isWritable, ← Bool.not_eq_true, short_text_iff]
  simp [Int.natAbs_pow]

def bare : FileSystem := ⟨[], [], .ordinary⟩

theorem out_writable : bare.writable ⟨.root, ["out.json"]⟩ = .ok ["out.json"] :=
  FileSystem.writable_name (by decide) (by decide) (by decide) rfl

/-- A nested value and characters that are escaped. -/
theorem nested_value_comes_back :
    (named (.list [.null, .record [("é\n", .int (-1))]])).Reachable ∧
      isYaml ⟨.root, ["out.json"]⟩ = false ∧
      ∃ saved, (named (.list [.null, .record [("é\n", .int (-1))]])).save bare
          ⟨.root, ["out.json"]⟩ .json = .ok saved ∧
        ∀ held : Settings, held.load saved ⟨.root, ["out.json"]⟩ =
          ⟨named (.list [.null, .record [("é\n", .int (-1))]]), none⟩ := by
  have nested : (Value.list [.null, .record [("é\n", .int (-1))]]).Documented := by
    refine .list (List.forall_mem_cons.2 ⟨.null, List.forall_mem_singleton.2 ?_⟩)
    exact .record (List.forall_mem_singleton.2 (.int _)) (by simp)
  have json : isYaml ⟨.root, ["out.json"]⟩ = false := by decide
  have reachable := named_reachable nested
  have shallow : (Value.list [.null, .record [("é\n", .int (-1))]]).nesting ≤ 98 := by decide
  have writable : (named (.list [.null, .record [("é\n", .int (-1))]])).toDocument.isWritable =
      true := rfl
  obtain ⟨saved, done, loads⟩ := ((json_round_trip reachable json bare).1
    (named_fits shallow _ _)).2 (document_writable_iff.1 writable) _ out_writable
  exact ⟨reachable, json, saved, done, loads (Nat.le_trans
    ((named_nesting_le_iff (by decide)).2 shallow) bare.platform.readRoom.least)⟩

def listed : Nat → Value
  | 0 => .null
  | levels + 1 => .list [listed levels]

theorem listed_nesting (levels : Nat) : (listed levels).nesting = levels := by
  induction levels with
  | zero => rfl
  | succ levels induction =>
      rw [listed, nesting, itemsNesting, itemsNesting, induction, Nat.max_zero]

theorem listed_documented (levels : Nat) : (listed levels).Documented := by
  induction levels with
  | zero => exact .null
  | succ levels induction => exact .list (List.forall_mem_singleton.2 induction)

/-- A tool name that is a number of one digit too many, or that is nested too deep: the settings are
not saved at all. -/
theorem long_number_not_saved :
    ((named (.int (10 ^ mostDigits))).Reachable ∧ (named (listed 500)).Reachable) ∧
      isYaml ⟨.root, ["out.json"]⟩ = false ∧
      bare.writable ⟨.root, ["out.json"]⟩ = .ok ["out.json"] ∧
      (named (.int (10 ^ mostDigits))).save bare ⟨.root, ["out.json"]⟩ .json =
        .error .numberTooLong ∧
      (named (listed 500)).save bare ⟨.root, ["out.json"]⟩ .json =
        .error bare.platform.copyRoom.fault := by
  have copied : ¬(named (listed 500)).toDocument.nesting ≤ bare.platform.copyRoom.levels := by
    have limit : bare.platform.copyRoom.levels = 478 + 2 := rfl
    rw [limit, named_nesting_le_iff (by decide), listed_nesting]
    decide
  have deep : (named (listed 500)).save bare ⟨.root, ["out.json"]⟩ .json =
      .error bare.platform.copyRoom.fault := by
    rw [save, render_eq, Room.holds, if_neg copied]
    rfl
  exact ⟨⟨named_reachable (.int _), named_reachable (listed_documented 500)⟩, by decide,
    out_writable, save_unwritable ⟨_, tool_too_long⟩ (named_fits (by decide) _ _) _, deep⟩

end Json

end ImportImpact.Settings
