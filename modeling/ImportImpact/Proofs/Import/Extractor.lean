import ImportImpact.Proofs.Import.ScriptForms
import ImportImpact.Proofs.Import.StyleForms
import ImportImpact.Proofs.Outcome

/-!
Extraction against the grammar. The forms of each category read the surfaces of that category in
the same order, and the specifiers of a text are those of the leftmost occurrences of one surface
after another.
-/

namespace ImportImpact

open Surface

theorem script_forms_read :
    List.Forall₂ Form.Reads Form.scriptForms (Surface.ofCategory .script) :=
  .cons Form.static_import_reads <| .cons Form.export_from_reads <|
    .cons (Form.call_reads (by decide)) <| .cons (Form.call_reads (by decide)) .nil

theorem style_forms_read :
    List.Forall₂ Form.Reads Form.styleForms (Surface.ofCategory .style) :=
  .cons Form.style_import_reads <| .cons Form.style_import_url_reads <|
    .cons Form.style_use_reads .nil

section Forms

variable {forms : List Form} {surfaces : List Surface} {text : List Char}

theorem exists_leftmost_of_forms (reads : List.Forall₂ Form.Reads forms surfaces)
    (text : List Char) :
    ∃ found, List.Forall₂ (fun surface stretches => surface.Leftmost text stretches)
        surfaces found ∧
      forms.flatMap (·.specifiers text) = found.flatten.map Stretch.specifier := by
  induction reads with
  | nil => exact ⟨[], .nil, rfl⟩
  | cons first rest induction =>
      obtain ⟨stretches, leftmost, same⟩ := first.specifiers_leftmost text
      obtain ⟨found, others, later⟩ := induction
      refine ⟨stretches :: found, .cons leftmost others, ?_⟩
      rw [List.flatMap_cons, same, later, List.flatten_cons, List.map_append]

theorem leftmost_of_forms_unique (reads : List.Forall₂ Form.Reads forms surfaces)
    {found other : List (List Stretch)}
    (left : List.Forall₂ (fun surface stretches => surface.Leftmost text stretches) surfaces found)
    (right : List.Forall₂ (fun surface stretches => surface.Leftmost text stretches)
      surfaces other) : found = other := by
  induction reads generalizing found other with
  | nil =>
      cases left
      cases right
      rfl
  | cons first rest induction =>
      obtain _ | ⟨here, later⟩ := left
      obtain _ | ⟨there, after⟩ := right
      rw [here.unique first.filled there, induction later after]

theorem specifiers_of_forms_iff (reads : List.Forall₂ Form.Reads forms surfaces)
    {specifiers : List (List Char)} : forms.flatMap (·.specifiers text) = specifiers ↔
      ∃ found, List.Forall₂ (fun surface stretches => surface.Leftmost text stretches)
          surfaces found ∧ specifiers = found.flatten.map Stretch.specifier := by
  obtain ⟨found, leftmost, same⟩ := exists_leftmost_of_forms reads text
  constructor
  · rintro rfl
    exact ⟨found, leftmost, same⟩
  · rintro ⟨other, again, rfl⟩
    rw [same, leftmost_of_forms_unique reads leftmost again]

end Forms

theorem forms_of_settings {settings : Settings} {extractor : Extractor}
    (made : Extractor.ofSettings settings = .ok extractor) :
    extractor.forms .script = Form.scriptForms ∧ extractor.forms .style = Form.styleForms := by
  simp only [Extractor.ofSettings, Outcome.bind_ok_iff, Outcome.pure_ok_iff] at made
  obtain ⟨scripts, -, styles, -, rfl⟩ := made
  exact ⟨rfl, rfl⟩

theorem forms_read {settings : Settings} {extractor : Extractor}
    (made : Extractor.ofSettings settings = .ok extractor) (category : Category) :
    List.Forall₂ Form.Reads (extractor.forms category) (Surface.ofCategory category) := by
  obtain ⟨script, style⟩ := forms_of_settings made
  cases category with
  | script => exact script ▸ script_forms_read
  | style => exact style ▸ style_forms_read

/-- Whatever the suffixes are set to, a text is reported with the specifiers of the leftmost
occurrences of each surface of its category, in the order of the table, and with nothing else. -/
theorem extract_iff_leftmost_occurrences {settings : Settings} {extractor : Extractor}
    (made : Extractor.ofSettings settings = .ok extractor) (content path : String)
    (specifiers : List String) : extractor.extract content path = specifiers ↔
      ∃ found, List.Forall₂ (fun surface stretches => surface.Leftmost content.toList stretches)
          ((extractor.categorize path).elim [] Surface.ofCategory) found ∧
        specifiers = found.flatten.map fun stretch => String.ofList stretch.specifier := by
  rw [Extractor.extract]
  cases extractor.categorize path with
  | none => simp [eq_comm]
  | some category =>
      have reads := forms_read made category
      have texts : ((extractor.forms category).flatMap fun form =>
          (form.specifiers content.toList).map String.ofList) =
            ((extractor.forms category).flatMap (·.specifiers content.toList)).map
              String.ofList := by
        rw [List.map_flatMap]
      simp only [texts, Option.elim]
      constructor
      · rintro rfl
        obtain ⟨found, leftmost, same⟩ := (specifiers_of_forms_iff reads).1 rfl
        exact ⟨found, leftmost, by rw [same, List.map_map]; rfl⟩
      · rintro ⟨found, leftmost, rfl⟩
        have same := (specifiers_of_forms_iff reads).2 ⟨found, leftmost, rfl⟩
        rw [same, List.map_map]
        rfl

theorem initial_extractor : Extractor.ofSettings .initial =
    .ok ⟨[".js", ".ts", ".jsx", ".tsx", ".svelte", ".mjs", ".cjs", ".vue"],
      [".css", ".scss", ".sass", ".less"], Form.scriptForms, Form.styleForms⟩ := rfl

/-- The word `from` may be among the names, and a call is reported after the statements that it
stands before. -/
theorem script_specifiers_leftmost : ∃ extractor, Extractor.ofSettings .initial = .ok extractor ∧
    ∃ found, List.Forall₂ (fun surface stretches => surface.Leftmost
          "import(\"a\");import \x7bfrom\x7d from './b'\nexport * as c from 'd'".toList stretches)
        ((extractor.categorize "x.js").elim [] Surface.ofCategory) found ∧
      ["./b", "d", "a"] = found.flatten.map fun stretch => String.ofList stretch.specifier := by
  have made : Extractor.ofSettings .initial =
      .ok ⟨[".js", ".ts", ".jsx", ".tsx", ".svelte", ".mjs", ".cjs", ".vue"],
        [".css", ".scss", ".sass", ".less"], Form.scriptForms, Form.styleForms⟩ := rfl
  refine ⟨_, made, (extract_iff_leftmost_occurrences made _ "x.js" _).1 ?_⟩
  decide +kernel

end ImportImpact
