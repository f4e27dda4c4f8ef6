import ImportImpact.Proofs.Import.Extractor

/-!
Specifiers as string literals of a script. What is reported stands between two quote characters with
no quote between them, and it is the whole content of a string literal just where the two are of one
kind.
-/

namespace ImportImpact

open Surface Text

/-- The content of a string literal, all that stands between a quote character at this place and the
next one of its kind. -/
def LiteralAt (text : List Char) (place : Nat) (content : List Char) : Prop :=
  ∃ quote, Quote quote ∧ quote ∉ content ∧ quote :: (content ++ [quote]) <+: text.drop place

/-- The specifier of an occurrence stands in it, between two quote characters, and no quote and no
line end stands between these. -/
structure Delimited (text : List Char) (stretch : Stretch) (place : Nat) (opening closing : Char) :
    Prop where
  started : stretch.start ≤ place
  stopped : place + stretch.specifier.length + 2 ≤ stretch.stop
  opens : Quote opening
  closes : Quote closing
  plain : ∀ character ∈ stretch.specifier, ¬Quote character ∧ character ≠ '\n'
  written : opening :: (stretch.specifier ++ [closing]) <+: text.drop place

section Delimited

variable {text : List Char} {stretch : Stretch} {place : Nat} {opening closing : Char}

/-- A specifier is a whole literal just where its two quotes are of one kind. -/
theorem Delimited.literal_iff (delimited : Delimited text stretch place opening closing) :
    LiteralAt text place stretch.specifier ↔ opening = closing := by
  constructor
  · rintro ⟨quote, -, -, written⟩
    have same := (List.prefix_of_prefix_length_le delimited.written written (by simp)).eq_of_length
      (by simp)
    obtain ⟨rfl, rest⟩ := List.cons.inj same
    exact (List.singleton_inj.1 (List.append_cancel_left rest)).symm
  · rintro rfl
    exact ⟨opening, delimited.opens,
      fun member => (delimited.plain opening member).1 delimited.opens, delimited.written⟩

end Delimited

namespace Surface

def Quoting (surface : Surface) : Prop :=
  ∀ {before : Option Char} {written specifier : List Char}, surface before written specifier →
    ∃ passed quoted rest, written = passed ++ (quoted ++ rest) ∧ Quoted quoted specifier

theorem static_import_quoting : Quoting StaticImport := by
  intro before written specifier here
  cases here with
  | @statement lead gap clause quoted _ starts blanks names source =>
      exact ⟨lead ++ ("import".toList ++ (gap ++ clause)), quoted, [],
        by simp only [List.append_assoc, List.append_nil], source⟩

theorem export_from_quoting : Quoting ExportFrom := by
  intro before written specifier here
  cases here with
  | @statement lead gap type exported space last quoted _ starts blanks typed names loose closing
      source =>
      exact ⟨lead ++ ("export".toList ++ (gap ++ (type ++ (exported ++ (space ++
        ("from".toList ++ last)))))), quoted, [],
        by simp only [List.append_assoc, List.append_nil], source⟩

theorem call_quoting (function : List Char) : Quoting (Call function) := by
  intro before written specifier here
  cases here with
  | @expression outer inner space quoted _ free outside inside source closing =>
      exact ⟨function ++ (outer ++ ('(' :: inner)), quoted, space ++ [')'],
        by simp only [List.append_assoc, List.cons_append], source⟩

theorem script_quoting : ∀ surface ∈ ofCategory .script, Quoting surface :=
  List.forall_mem_cons.2 ⟨static_import_quoting, List.forall_mem_cons.2 ⟨export_from_quoting,
    List.forall_mem_cons.2 ⟨call_quoting _, List.forall_mem_singleton.2 (call_quoting _)⟩⟩⟩

theorem Stands.delimited {surface : Surface} (quoting : Quoting surface) {text : List Char}
    {stretch : Stretch} (stands : surface.Stands text stretch) :
    ∃ place opening closing, Delimited text stretch place opening closing := by
  obtain ⟨before, written, after, rfl, start, stop, here⟩ := stands
  obtain ⟨passed, quoted, rest, rfl, source⟩ := quoting here
  cases source with
  | @between opening closing specifier opens filled plain closes =>
      refine ⟨(before ++ passed).length, opening, closing, ?_, ?_, opens, closes, plain, ?_⟩
      · simp only [start, List.length_append]
        omega
      · simp only [stop, List.length_append, List.length_cons, List.length_nil]
        omega
      · exact ⟨rest ++ after, by simp [List.drop_append]⟩

theorem stretches_delimited {surfaces : List Surface} {text : List Char}
    {found : List (List Stretch)} (quoting : ∀ surface ∈ surfaces, Quoting surface)
    (leftmost : List.Forall₂ (fun surface stretches => surface.Leftmost text stretches)
      surfaces found) :
    ∀ stretch ∈ found.flatten, ∃ place opening closing,
      Delimited text stretch place opening closing := by
  induction leftmost with
  | nil => simp
  | cons here rest induction =>
      obtain ⟨first, others⟩ := List.forall_mem_cons.1 quoting
      intro stretch member
      rw [List.flatten_cons, List.mem_append] at member
      rcases member with member | later
      · exact (here.stands stretch member).delimited first
      · exact induction others stretch later

end Surface

/-- Every specifier that a script is reported with stands between two quote characters of its
occurrence, and it is the whole content of a string literal just where the two are of one kind. -/
theorem script_specifiers_delimited {settings : Settings} {extractor : Extractor} {path : String}
    (made : Extractor.ofSettings settings = .ok extractor)
    (script : extractor.categorize path = some .script) (content : String) :
    ∃ found, List.Forall₂ (fun surface stretches => surface.Leftmost content.toList stretches)
        (ofCategory .script) found ∧
      extractor.extract content path =
        (found.flatten.map fun stretch => String.ofList stretch.specifier) ∧
      ∀ stretch ∈ found.flatten, ∃ place opening closing,
        Delimited content.toList stretch place opening closing ∧
          (LiteralAt content.toList place stretch.specifier ↔ opening = closing) := by
  obtain ⟨found, leftmost, same⟩ :=
    (extract_iff_leftmost_occurrences made content path _).1 rfl
  rw [script, Option.elim] at leftmost
  refine ⟨found, leftmost, same, ?_⟩
  intro stretch member
  obtain ⟨place, opening, closing, delimited⟩ :=
    stretches_delimited script_quoting leftmost stretch member
  exact ⟨place, opening, closing, delimited, delimited.literal_iff⟩

/-- One statement with two kinds of quotes and one call with a single kind. -/
theorem two_specifiers_delimited : ∃ extractor, Extractor.ofSettings .initial = .ok extractor ∧
    extractor.categorize "x.js" = some .script ∧
    ∃ found, List.Forall₂ (fun surface stretches => surface.Leftmost
          "import a from \"./a'; require('./b')".toList stretches) (ofCategory .script) found ∧
      extractor.extract "import a from \"./a'; require('./b')" "x.js" =
        (found.flatten.map fun stretch => String.ofList stretch.specifier) ∧
      ∀ stretch ∈ found.flatten, ∃ place opening closing,
        Delimited "import a from \"./a'; require('./b')".toList stretch place opening closing ∧
          (LiteralAt "import a from \"./a'; require('./b')".toList place stretch.specifier ↔
            opening = closing) :=
  ⟨_, initial_extractor, by decide +kernel,
    script_specifiers_delimited initial_extractor (by decide +kernel) _⟩

/-- A call inside a literal, cut off by the quote that ends this literal, is reported although the
text between its quotes is no literal anywhere. -/
theorem mismatched_quotes_reported : ∃ extractor, Extractor.ofSettings .initial = .ok extractor ∧
    extractor.categorize "a.js" = some .script ∧
    "./a" ∈ extractor.extract "log(\"call require('./a\")" "a.js" ∧
    ∀ place, ¬LiteralAt "log(\"call require('./a\")".toList place "./a".toList := by
  refine ⟨_, initial_extractor, by decide +kernel, by decide +kernel, ?_⟩
  rintro place ⟨quote, either, -, written⟩
  have inside := written.isInfix.trans (List.drop_suffix place _).isInfix
  rcases either with rfl | rfl
  · exact absurd inside (by decide +kernel)
  · exact absurd inside (by decide +kernel)

end ImportImpact
