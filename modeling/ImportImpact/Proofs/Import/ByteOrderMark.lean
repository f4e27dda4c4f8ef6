import ImportImpact.Platform.Ordinary
import ImportImpact.Proofs.FileSystem.Lossless
import ImportImpact.Proofs.Import.Extractor

/-!
Files that begin with a byte order mark. The text is read with the mark, and no occurrence begins
with it. The first line of a script begins before the mark, so a statement that only the start of
the text opens is not seen behind it; everything else is found as without the mark.
-/

namespace ImportImpact

open Surface Text

def byteOrderMark : Char := '\ufeff'

/-- An import or an export with a source begins the text, and only the start of the text opens
it. -/
def StatementFirst (text : List Char) : Prop :=
  ∃ written specifier, (StaticImport none written specifier ∨ ExportFrom none written specifier) ∧
    written <+: text ∧ ∀ character ∈ text.head?, character ∉ [';', '\x7b', '\x7d', '>']

theorem statement_first_iff {text : List Char} : StatementFirst text ↔
    ((Form.staticImport.read none text).isSome ∨ (Form.exportFrom.read none text).isSome) ∧
      text.head?.all (fun character => character ∉ [';', '\x7b', '\x7d', '>']) = true := by
  have plain_iff : text.head?.all (fun character => character ∉ [';', '\x7b', '\x7d', '>']) =
      true ↔ ∀ character ∈ text.head?, character ∉ [';', '\x7b', '\x7d', '>'] := by
    simp only [Option.all_eq_true, decide_eq_true_eq]
    rfl
  rw [plain_iff]
  constructor
  · rintro ⟨written, specifier, imported | exported, ⟨rest, rfl⟩, plain⟩
    · obtain ⟨closing, -, read⟩ := Form.static_import_reads.complete rest imported
      exact ⟨Or.inl (by rw [read]; rfl), plain⟩
    · obtain ⟨closing, -, read⟩ := Form.export_from_reads.complete rest exported
      exact ⟨Or.inr (by rw [read]; rfl), plain⟩
  · rintro ⟨imported | exported, plain⟩
    · obtain ⟨occurrence, read⟩ := Option.isSome_iff_exists.1 imported
      obtain ⟨written, shape, -, here⟩ := Form.static_import_reads.sound read
      exact ⟨written, occurrence.specifier, Or.inl here, ⟨_, shape.symm⟩, plain⟩
    · obtain ⟨occurrence, read⟩ := Option.isSome_iff_exists.1 exported
      obtain ⟨written, shape, -, here⟩ := Form.export_from_reads.sound read
      exact ⟨written, occurrence.specifier, Or.inr here, ⟨_, shape.symm⟩, plain⟩

instance : DecidablePred StatementFirst := fun _ => decidable_of_iff _ statement_first_iff.symm

namespace Form

/-- Nothing is read from the mark on, and behind it what is read at the start of the text. -/
structure PassesMark (form : Form) (text : List Char) : Prop where
  unread : form.read none (byteOrderMark :: text) = none
  behind : form.read (some byteOrderMark) text = form.read none text

section Forms

variable {form : Form} {text : List Char}

theorem PassesMark.specifiers (passes : form.PassesMark text) :
    form.specifiers (byteOrderMark :: text) = form.specifiers text := by
  rw [Form.specifiers, Form.specifiers, specifiers_from_free passes.unread]
  cases text with
  | nil => rw [specifiersFrom, specifiersFrom]
  | cons character rest =>
      cases read : form.read none (character :: rest) with
      | none => rw [specifiers_from_free (passes.behind.trans read), specifiers_from_free read]
      | some occurrence =>
          rw [specifiers_from_read (passes.behind.trans read), specifiers_from_read read]

theorem after_mark (word text : List Char)
    (other : ∃ first ∈ word.head?, first ≠ byteOrderMark) :
    after? word (byteOrderMark :: text) = none := by
  obtain ⟨first, begins, apart⟩ := other
  cases word with
  | nil => cases begins
  | cons letter others =>
      obtain rfl : letter = first := Option.some.inj begins
      simp [after?, List.isPrefixOf, apart]

theorem statement_at_mark (text : List Char) :
    statement? none (byteOrderMark :: text) = some (byteOrderMark :: text) := rfl

theorem statement_behind_mark (text : List Char) :
    statement? (some byteOrderMark) text = statement? none text ∨
      statement? (some byteOrderMark) text = none ∧
        ∀ character ∈ text.head?, character ∉ [';', '\x7b', '\x7d', '>'] := by
  cases text with
  | nil => exact Or.inl rfl
  | cons character rest =>
      by_cases opens : opensStatement character = true
      · exact Or.inl (by rw [statement?, statement?, if_pos opens, if_pos opens])
      · refine Or.inr ⟨by rw [statement?, if_neg opens]; rfl, ?_⟩
        intro first begins
        obtain rfl : character = first := Option.some.inj begins
        rwa [← opens_statement_iff]

end Forms

section Script

variable {text : List Char}

/-- A form that reads statements reads none behind the mark that only the start of the text opens,
and such a statement would come first. -/
theorem statements_behind_mark {form : Form} {surface : Surface} (reads : form.Reads surface)
    (statement : ∀ {written specifier}, surface none written specifier →
      StaticImport none written specifier ∨ ExportFrom none written specifier)
    (unopened : statement? (some byteOrderMark) text = none →
      form.read (some byteOrderMark) text = none)
    (opened : statement? (some byteOrderMark) text = statement? none text →
      form.read (some byteOrderMark) text = form.read none text)
    (free : ¬StatementFirst text) : form.read (some byteOrderMark) text = form.read none text := by
  rcases statement_behind_mark text with same | ⟨closed, plain⟩
  · exact opened same
  · cases read : form.read none text with
    | none => exact unopened closed
    | some occurrence =>
        obtain ⟨written, shape, -, here⟩ := reads.sound read
        have first : StatementFirst text :=
          ⟨written, occurrence.specifier, statement here, ⟨_, shape.symm⟩, plain⟩
        exact absurd first free

theorem static_import_passes (free : ¬StatementFirst text) : staticImport.PassesMark text where
  unread := by
    have word : after? "import".toList (byteOrderMark :: text) = none :=
      after_mark _ text ⟨'i', rfl, by decide⟩
    simp only [staticImport, readStaticImport, statement_at_mark, bind, Option.bind, word]
  behind := by
    refine statements_behind_mark static_import_reads Or.inl (fun closed => ?_)
      (fun same => ?_) free
    · simp only [staticImport, readStaticImport, closed, bind, Option.bind]
    · simp only [staticImport, readStaticImport, same]

theorem export_from_passes (free : ¬StatementFirst text) : exportFrom.PassesMark text where
  unread := by
    have word : after? "export".toList (byteOrderMark :: text) = none :=
      after_mark _ text ⟨'e', rfl, by decide⟩
    simp only [exportFrom, readExportFrom, statement_at_mark, bind, Option.bind, word]
  behind := by
    refine statements_behind_mark export_from_reads Or.inr (fun closed => ?_) (fun same => ?_) free
    · simp only [exportFrom, readExportFrom, closed, bind, Option.bind]
    · simp only [exportFrom, readExportFrom, same]

/-- The mark is not of a word, so a call may stand behind it. -/
theorem call_passes (name : String) {function : String}
    (other : ∃ first ∈ function.toList.head?, first ≠ byteOrderMark) :
    (call name function).PassesMark text where
  unread := by
    simp only [call, readCall, after_mark _ text other, bind, Option.bind, ite_self]
  behind := by
    have apart : isWord byteOrderMark = false := by decide +kernel
    simp only [call, readCall, Option.any_some, apart, Option.any_none]

theorem script_forms_pass (free : ¬StatementFirst text) :
    ∀ form ∈ scriptForms, form.PassesMark text := by
  simp only [scriptForms, List.forall_mem_cons]
  exact ⟨static_import_passes free, export_from_passes free,
    call_passes _ ⟨'r', rfl, by decide⟩, call_passes _ ⟨'i', rfl, by decide⟩, by simp⟩

end Script

section Style

variable (text : List Char)

theorem directive_at_mark {word : String}
    (other : ∃ first ∈ word.toList.head?, first ≠ byteOrderMark) :
    readDirective word (byteOrderMark :: text) = none := by
  simp only [readDirective, after_mark _ text other, bind, Option.bind]

/-- No form of style sheets looks at the character before. -/
theorem style_forms_pass : ∀ form ∈ styleForms, form.PassesMark text := by
  have directive : ∀ {word : String}, word.toList.head? = some '@' →
      readDirective word (byteOrderMark :: text) = none :=
    fun begins => directive_at_mark text ⟨'@', begins, by decide⟩
  have location : readImportUrl (byteOrderMark :: text) = none := by
    have word : after? "@import".toList (byteOrderMark :: text) = none :=
      after_mark _ text ⟨'@', rfl, by decide⟩
    simp only [readImportUrl, word, bind, Option.bind]
  simp only [styleForms, List.forall_mem_cons]
  refine ⟨⟨directive rfl, rfl⟩, ⟨location, rfl⟩, ⟨?_, rfl⟩, by simp⟩
  simp only [styleUse]
  rw [directive rfl, directive rfl, Option.or_none]

end Style

end Form

section Extract

variable {settings : Settings} {extractor : Extractor} {content path : String}

theorem forms_pass_mark (made : Extractor.ofSettings settings = .ok extractor)
    {category : Category} (free : category = .script → ¬StatementFirst content.toList) :
    ∀ form ∈ extractor.forms category, form.PassesMark content.toList := by
  obtain ⟨script, style⟩ := forms_of_settings made
  cases category with
  | script => exact script ▸ Form.script_forms_pass (free rfl)
  | style => exact style ▸ Form.style_forms_pass content.toList

theorem extract_with_mark (made : Extractor.ofSettings settings = .ok extractor)
    (free : extractor.categorize path = some .script → ¬StatementFirst content.toList) :
    extractor.extract (String.ofList (byteOrderMark :: content.toList)) path =
      extractor.extract content path := by
  rw [Extractor.extract, Extractor.extract, String.toList_ofList]
  cases category : extractor.categorize path with
  | none => rfl
  | some category =>
      have pass := forms_pass_mark made fun script => free (category ▸ script ▸ rfl)
      exact List.flatMap_congr fun form member => by rw [(pass form member).specifiers]

end Extract

section Files

open FileSystem

theorem bytes_of_mark (text : List Char) :
    Utf8.encode (byteOrderMark :: text) = 0xEF :: 0xBB :: 0xBF :: Utf8.encode text := rfl

theorem read_text_of_utf8 {system : FileSystem} {rules : ReadingRules} {place : Path}
    {text : List Char} (initial : rules.Initial)
    (held : system.entryAt place = .ok (.file (Utf8.encode text)))
    (fits : exceeds (Utf8.encode text).length rules.largest = .ok false) :
    system.readText rules place = .ok (String.ofList text) := by
  have decoded : decodeFirst system.platform (Utf8.encode text) [.str "utf-8", .str "latin-1"] =
      .ok (some text) := by
    rw [decode_first_initial, Utf8.decode_ok_iff.2 rfl]
    rfl
  exact read_initial initial held fits decoded

variable {settings : Settings} {extractor : Extractor} {rules : ReadingRules}
  {system markedSystem : FileSystem} {place markedPlace : Path} {content path : String}

/-- A byte order mark before the bytes of a file changes nothing of what is imported by it, unless
the file is a script and a statement is the first in it. -/
theorem imports_with_byte_order_mark (made : Extractor.ofSettings settings = .ok extractor)
    (initial : rules.Initial)
    (held : system.entryAt place = .ok (.file (Utf8.ofString content)))
    (fits : exceeds (Utf8.ofString content).length rules.largest = .ok false)
    (marked : markedSystem.entryAt markedPlace =
      .ok (.file (0xEF :: 0xBB :: 0xBF :: Utf8.ofString content)))
    (markedFits : exceeds (0xEF :: 0xBB :: 0xBF :: Utf8.ofString content).length rules.largest =
      .ok false)
    (free : extractor.categorize path = some .script → ¬StatementFirst content.toList) :
    ∃ text markedText, system.readText rules place = .ok text ∧
      markedSystem.readText rules markedPlace = .ok markedText ∧
      extractor.extract markedText path = extractor.extract text path := by
  refine ⟨content, String.ofList (byteOrderMark :: content.toList), ?_, ?_, ?_⟩
  · rw [read_text_of_utf8 initial held fits, String.ofList_toList]
  · rw [Utf8.ofString, ← bytes_of_mark] at marked markedFits
    exact read_text_of_utf8 initial marked markedFits
  · exact extract_with_mark made free

end Files

section Fixed

open FileSystem

/-- An import on the second line is seen behind a mark. -/
theorem import_on_second_line_behind_mark : ∃ extractor,
    Extractor.ofSettings .initial = .ok extractor ∧
    ∃ text markedText,
      (⟨[(["a.js"], .file (Utf8.ofString "'use strict'\nimport './b'"))], [], .ordinary⟩ :
        FileSystem).readText Settings.initial.readingRules ⟨.root, ["a.js"]⟩ = .ok text ∧
      (⟨[(["a.js"], .file (0xEF :: 0xBB :: 0xBF :: Utf8.ofString
          "'use strict'\nimport './b'"))], [], .ordinary⟩ :
        FileSystem).readText Settings.initial.readingRules ⟨.root, ["a.js"]⟩ = .ok markedText ∧
      extractor.extract markedText "a.js" = extractor.extract text "a.js" := by
  have here (bytes) := entry_of_only "a.js" bytes (by decide) (by decide)
  exact ⟨_, initial_extractor, imports_with_byte_order_mark initial_extractor initial_rules
    (here _) rfl (here _) rfl fun _ => by decide +kernel⟩

/-- An import that only the start of the file opens is not seen behind a mark. -/
theorem first_import_hidden_by_mark : ∃ extractor,
    Extractor.ofSettings .initial = .ok extractor ∧
    ∃ text markedText, text.toList.head? ≠ some byteOrderMark ∧
      (⟨[(["a.js"], .file (Utf8.ofString "import './b.js'"))], [], .ordinary⟩ : FileSystem).readText
        Settings.initial.readingRules ⟨.root, ["a.js"]⟩ = .ok text ∧
      (⟨[(["a.js"], .file (0xEF :: 0xBB :: 0xBF :: Utf8.ofString "import './b.js'"))], [],
        .ordinary⟩ : FileSystem).readText Settings.initial.readingRules ⟨.root, ["a.js"]⟩ =
          .ok markedText ∧
      extractor.extract text "a.js" = ["./b.js"] ∧ extractor.extract markedText "a.js" = [] := by
  have here (bytes) := entry_of_only "a.js" bytes (by decide) (by decide)
  have read := read_text_of_utf8 initial_rules (here (Utf8.ofString "import './b.js'")) rfl
  have markedRead := read_text_of_utf8 initial_rules
    (here (Utf8.encode (byteOrderMark :: "import './b.js'".toList))) rfl
  refine ⟨_, initial_extractor, _, _, ?_, read, markedRead, ?_, ?_⟩
  · decide
  · decide +kernel
  · decide +kernel

end Fixed

end ImportImpact
