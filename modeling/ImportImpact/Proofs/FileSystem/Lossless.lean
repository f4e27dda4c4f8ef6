import ImportImpact.FileSystem.ReadText
import ImportImpact.Proofs.Analysis.Unreadable
import ImportImpact.Proofs.Encoding.Utf8

/-!
Reading files with the encodings that are set at first: UTF-8, and for bytes that are none the
encoding with one character for each byte. Every file reads as a text, and nothing of it is lost:
its bytes are those of the text in the encoding that was taken.
-/

namespace ImportImpact.FileSystem

/-- UTF-8 first, and then the encoding that reads all bytes. -/
structure ReadingRules.Initial (rules : ReadingRules) : Prop where
  first : rules.encoding = .str "utf-8"
  fallbacks : fallbackNames rules.fallbacks = .ok [.str "latin-1"]

theorem initial_rules : Settings.initial.readingRules.Initial := ⟨rfl, rfl⟩

/-- How a file was read: as UTF-8, or with one character for each byte. -/
inductive Taken where
  | utf8
  | latin1
  deriving DecidableEq

def Taken.bytes (text : List Char) : Taken → List UInt8
  | .utf8 => Utf8.encode text
  | .latin1 => text.map fun character => Utf8.byte character.toNat

theorem numbers_of_bytes (bytes : List UInt8) :
    (Encoding.ofBytes bytes).map Char.toNat = bytes.map UInt8.toNat := by
  rw [Encoding.ofBytes, List.map_map]
  refine List.map_congr_left fun byte _ => ?_
  have small := byte.toNat_lt
  exact Utf8.number_of_character (by omega)

theorem bytes_of_numbers {text : List Char} {bytes : List UInt8}
    (same : text.map Char.toNat = bytes.map UInt8.toNat) : Taken.latin1.bytes text = bytes := by
  have again := congrArg (List.map Utf8.byte) same
  rw [List.map_map, List.map_map] at again
  refine again.trans (Eq.trans (List.map_congr_left fun byte _ => ?_) (List.map_id bytes))
  exact Utf8.byte_eq rfl

section Decode

variable (platform : Platform) (bytes : List UInt8)

theorem decode_first_initial : decodeFirst platform bytes [.str "utf-8", .str "latin-1"] =
    .ok (some (((Utf8.decode bytes).toOption).getD (Encoding.ofBytes bytes))) := by
  have names : Encoding.ofName? "utf-8" = some .utf8 ∧ Encoding.ofName? "latin-1" = some .latin1 :=
    ⟨rfl, rfl⟩
  have plain : "utf-8".toList.contains '\x00' = false ∧ "latin-1".toList.contains '\x00' = false :=
    ⟨rfl, rfl⟩
  cases bytes with
  | nil =>
      have nothing : Utf8.decode [] = .ok [] := Utf8.decode_ok_iff.2 rfl
      rw [nothing]
      rfl
  | cons first rest =>
      simp only [decodeFirst, decodeAs, plain, names, Bool.false_eq_true, if_false,
        List.isEmpty_cons, Encoding.decode?]
      cases Utf8.decode (first :: rest) with
      | ok text => rfl
      | error bad => rfl

/-- Some text is read, and its bytes in the encoding that was taken are the file's. -/
theorem decode_first_lossless : ∃ (text : List Char) (taken : Taken),
    decodeFirst platform bytes [.str "utf-8", .str "latin-1"] = .ok (some text) ∧
      taken.bytes text = bytes ∧
      (taken = .utf8 ↔ ∃ other : String, Utf8.ofString other = bytes) ∧
      (taken = .latin1 → text.map Char.toNat = bytes.map UInt8.toNat) := by
  rw [decode_first_initial]
  cases decoded : Utf8.decode bytes with
  | ok text =>
      have same := Utf8.decode_ok_iff.1 decoded
      refine ⟨text, .utf8, rfl, same, ⟨fun _ => ⟨String.ofList text, ?_⟩, fun _ => rfl⟩, ?_⟩
      · rw [Utf8.ofString, String.toList_ofList, same]
      · rintro ⟨⟩
  | error bad =>
      have none := Utf8.decode_error_iff.1 ⟨bad, decoded⟩
      refine ⟨Encoding.ofBytes bytes, .latin1, rfl, ?_, ⟨?_, ?_⟩, ?_⟩
      · exact bytes_of_numbers (numbers_of_bytes bytes)
      · rintro ⟨⟩
      · rintro ⟨other, same⟩
        exact absurd same (none other)
      · exact fun _ => numbers_of_bytes bytes

end Decode

section Read

variable {system : FileSystem} {rules : ReadingRules} {place : Path} {bytes : List UInt8}

theorem content_of_file (held : system.entryAt place = .ok (.file bytes)) :
    system.contentAt place = .ok bytes := by
  rw [contentAt, held]

theorem read_initial (initial : rules.Initial) (held : system.entryAt place = .ok (.file bytes))
    (fits : exceeds bytes.length rules.largest = .ok false) {text : List Char}
    (decoded : decodeFirst system.platform bytes [.str "utf-8", .str "latin-1"] = .ok (some text)) :
    system.readText rules place = .ok (String.ofList text) := by
  rw [readText, content_of_file held, initial.first]
  simp only [bind, Except.bind, fits, initial.fallbacks, decoded]
  rfl

/-- Every file within the size limit is read, as UTF-8 exactly if its bytes are the UTF-8 of a text,
and its bytes can be told from the text and the encoding that was taken. -/
theorem read_text_lossless (initial : rules.Initial)
    (held : system.entryAt place = .ok (.file bytes))
    (fits : exceeds bytes.length rules.largest = .ok false) :
    ∃ (text : String) (taken : Taken), system.readText rules place = .ok text ∧
      taken.bytes text.toList = bytes ∧
      (taken = .utf8 ↔ ∃ other : String, Utf8.ofString other = bytes) ∧
      (taken = .latin1 → text.toList.map Char.toNat = bytes.map UInt8.toNat) := by
  obtain ⟨text, taken, decoded, kept⟩ := decode_first_lossless system.platform bytes
  refine ⟨String.ofList text, taken, read_initial initial held fits decoded, ?_⟩
  rw [String.toList_ofList]
  exact kept

end Read

theorem entry_of_only (name : String) (bytes : List UInt8) (named : isName name = true)
    (short : name.utf8ByteSize ≤ longestName) :
    (⟨[([name], .file bytes)], [], .ordinary⟩ : FileSystem).entryAt ⟨.root, [name]⟩ =
      .ok (.file bytes) := by
  have there : (⟨[([name], .file bytes)], [], .ordinary⟩ : FileSystem).lookup? [name] =
      some (.file bytes) := by
    simp [lookup?]
  exact entry_of_located (locate_name named short there (by simp)) there

/-- An overlong zero behind a letter: two bytes that are no character, so three characters. -/
theorem overlong_file_is_kept :
    (⟨[(["f"], .file [0x61, 0xC0, 0x80])], [], .ordinary⟩ : FileSystem).entryAt ⟨.root, ["f"]⟩ =
        .ok (.file [0x61, 0xC0, 0x80]) ∧
      exceeds [0x61, 0xC0, 0x80].length Settings.initial.readingRules.largest = .ok false ∧
      ∃ (text : String) (taken : Taken),
        (⟨[(["f"], .file [0x61, 0xC0, 0x80])], [], .ordinary⟩ : FileSystem).readText
            Settings.initial.readingRules ⟨.root, ["f"]⟩ = .ok text ∧
        taken.bytes text.toList = [0x61, 0xC0, 0x80] ∧
        (taken = .utf8 ↔ ∃ other : String, Utf8.ofString other = [0x61, 0xC0, 0x80]) ∧
        (taken = .latin1 → text.toList.map Char.toNat = [0x61, 0xC0, 0x80]) := by
  have held := entry_of_only "f" [0x61, 0xC0, 0x80] (by decide) (by decide)
  have fits : exceeds [0x61, 0xC0, 0x80].length Settings.initial.readingRules.largest =
      .ok false := by rfl
  exact ⟨held, fits, read_text_lossless initial_rules held fits⟩

end ImportImpact.FileSystem
