import ImportImpact.Proofs.Import.Extractor
import ImportImpact.Proofs.Text.Returns
import Mathlib.Data.List.Infix

/-!
Imports in files whose lines end with a carriage return and a line feed. Every step of a form goes
on from the place that it goes on from without the returns, and no form begins between a return and
its line feed, so the same specifiers are found. The number of blanks counts in one place only, in
the clause of a static import when nothing else stands before its word `from`.
-/

namespace ImportImpact

open Text

/-- Nowhere in the text do only blanks stand between `import` and `from`. -/
def ImportFromApart (text : List Char) : Prop :=
  ∀ gap, SomeBlanks gap → ¬"import".toList ++ (gap ++ "from".toList) <:+: text

theorem ImportFromApart.below {text part : List Char} (apart : ImportFromApart text)
    (below : part <:+: text) : ImportFromApart part :=
  fun gap blanks here => apart gap blanks (here.trans below)

theorem import_from_apart_iff {text : List Char} : ImportFromApart text ↔
    ∀ tail ∈ text.tails, ((after? "import".toList tail).bind afterBlanks?).bind
      (after? "from".toList ·) = none := by
  constructor
  · intro apart tail member
    rw [Option.eq_none_iff_forall_ne_some]
    intro rest given
    simp only [Option.bind_eq_some_iff, after_eq_some_iff] at given
    obtain ⟨source, ⟨behind, rfl, blanks⟩, rfl⟩ := given
    obtain ⟨gap, filled, rfl, -⟩ := exists_blanks blanks
    apply apart gap filled
    have here : "import".toList ++ (gap ++ "from".toList) <+:
        "import".toList ++ (gap ++ ("from".toList ++ rest)) := ⟨rest, by simp⟩
    exact here.isInfix.trans ((List.mem_tails _ _).1 member).isInfix
  · intro none gap blanks here
    obtain ⟨passed, rest, rfl⟩ := here
    have ends : Ends isBlank ("from".toList ++ rest) := ends_append (by decide) rest
    have given := none ("import".toList ++ (gap ++ ("from".toList ++ rest)))
      ((List.mem_tails _ _).2 ⟨passed, by simp⟩)
    rw [after_word, Option.bind_some, after_blanks_run blanks ends, Option.bind_some,
      after_word] at given
    cases given

instance (text : List Char) : Decidable (ImportFromApart text) :=
  decidable_of_iff _ import_from_apart_iff.symm

namespace Occurrence

def withReturns (occurrence : Occurrence) : Occurrence :=
  { occurrence with rest := Text.withReturns occurrence.rest }

theorem quoted_with_returns (text : List Char) :
    quoted? (Text.withReturns text) = (quoted? text).map withReturns := by
  ext occurrence
  rw [Option.map_eq_some_iff]
  constructor
  · intro given
    obtain ⟨written, cut, last, source⟩ := quoted_sound given
    obtain ⟨closing, closed, read⟩ := quoted_complete source
    obtain rfl := Option.some.inj (last.symm.trans closed)
    have quote : written.getLast? ≠ some '\r' :=
      fun turn => absurd (source.last_quote turn) (by simp [Surface.Quote])
    obtain ⟨rest, rfl, same⟩ := (with_returns_eq_append_iff source.one_line quote).1 cut
    exact ⟨_, read rest, by rw [withReturns, same]⟩
  · rintro ⟨found, given, rfl⟩
    obtain ⟨written, rfl, last, source⟩ := quoted_sound given
    obtain ⟨closing, closed, read⟩ := quoted_complete source
    obtain rfl := Option.some.inj (last.symm.trans closed)
    rw [with_returns_append, with_returns_of_one_line source.one_line, read]
    rfl

theorem parenthesised_eq (occurrence : Occurrence) : occurrence.parenthesised? =
    (after? [')'] (skipBlanks occurrence.rest)).map fun rest =>
      { occurrence with closing := ')', rest } := by
  rw [parenthesised?]
  split
  next rest shape => rw [shape, after_mark, Option.map_some]
  next other => rw [after_mark_none other, Option.map_none]

theorem parenthesised_with_returns (occurrence : Occurrence) :
    occurrence.withReturns.parenthesised? = occurrence.parenthesised?.map withReturns := by
  rw [parenthesised_eq, parenthesised_eq, withReturns, skip_blanks_with_returns,
    after_with_returns (by decide) (by decide), Option.map_map, Option.map_map]
  rfl

end Occurrence

namespace Form

open Occurrence

theorem statement_with_returns (before : Option Char) (text : List Char) :
    statement? before (Text.withReturns text) = (statement? before text).map Text.withReturns := by
  have tabs := drop_while_with_returns isTabOrSpace (by decide)
  cases text with
  | nil => rfl
  | cons character rest =>
      have whole := tabs (character :: rest)
      by_cases line : character = '\n'
      · subst line
        have feed : opensStatement '\n' = false := by decide
        have turn : opensStatement '\r' = false := by decide
        rw [with_returns_line_end] at whole ⊢
        cases start : atLineStart before with
        | true => simp [statement?, feed, turn, start, whole]
        | false => simp [statement?, feed, turn, start]
      · rw [with_returns_cons line] at whole ⊢
        cases opens : opensStatement character with
        | true => simp [statement?, opens, tabs]
        | false =>
            cases start : atLineStart before with
            | true => simp [statement?, opens, start, whole]
            | false => simp [statement?, opens, start]

section ExportFrom

theorem after_from_with_returns (text : List Char) :
    afterFrom? (Text.withReturns text) = (afterFrom? text).map Text.withReturns := by
  simp (disch := decide) only [afterFrom?, after_with_returns, Option.bind_map, Option.map_bind,
    Function.comp_def, after_blanks_with_returns]

theorem after_alias_with_returns (text : List Char) :
    afterAlias? (Text.withReturns text) = (afterAlias? text).map Text.withReturns := by
  have name := take_line_with_returns isNameCharacter (by decide) (by decide) text
  have behind := drop_while_with_returns isNameCharacter (by decide) text
  simp only [afterAlias?, name, behind, skip_blanks_with_returns, after_from_with_returns,
    after_blanks_with_returns]
  cases afterFrom? (skipBlanks (text.dropWhile isNameCharacter)) with
  | none =>
      simp only [Option.map_none]
      split_ifs <;> rfl
  | some rest =>
      simp only [Option.map_some]
      split_ifs <;> rfl

theorem after_star_with_returns (text : List Char) :
    afterStar? (Text.withReturns text) = (afterStar? text).map Text.withReturns := by
  have name : ((afterBlanks? (Text.withReturns text)).bind (after? "as".toList ·)).bind
      afterBlanks? = (((afterBlanks? text).bind (after? "as".toList ·)).bind afterBlanks?).map
        Text.withReturns := by
    simp (disch := decide) only [after_with_returns, Option.bind_map, Option.map_bind,
      Function.comp_def, after_blanks_with_returns, Option.bind_assoc]
  rw [afterStar?, afterStar?, name]
  cases ((afterBlanks? text).bind (after? "as".toList ·)).bind afterBlanks? with
  | none => simp only [Option.map_none, skip_blanks_with_returns, after_from_with_returns]
  | some name => exact after_alias_with_returns name

theorem after_group_eq (text : List Char) : afterGroup? text =
    (after? ['\x7d'] (text.dropWhile (!isBrace ·))).bind fun rest =>
      afterFrom? (skipBlanks rest) := by
  rw [afterGroup?]
  split
  next rest shape => rw [shape, after_mark, Option.bind_some]
  next other => rw [after_mark_none other, Option.bind_none]

theorem after_group_with_returns (text : List Char) :
    afterGroup? (Text.withReturns text) = (afterGroup? text).map Text.withReturns := by
  have names := drop_while_with_returns (!isBrace ·) (by decide) text
  simp (disch := decide) only [after_group_eq, names, after_with_returns, Option.bind_map,
    Option.map_bind, Function.comp_def, skip_blanks_with_returns, after_from_with_returns]

theorem after_exported_with_returns (text : List Char) :
    afterExported? (Text.withReturns text) = (afterExported? text).map Text.withReturns := by
  cases text with
  | nil => rfl
  | cons character rest =>
      by_cases line : character = '\n'
      · rw [line]
        rfl
      · rw [with_returns_cons line]
        by_cases star : character = '*'
        · rw [star]
          exact after_star_with_returns rest
        · by_cases group : character = '\x7b'
          · rw [group]
            exact after_group_with_returns rest
          · simp [afterExported?, star, group]

theorem skip_type_with_returns (text : List Char) :
    skipType (Text.withReturns text) = Text.withReturns (skipType text) := by
  have word : (after? "type".toList (Text.withReturns text)).bind afterBlanks? =
      ((after? "type".toList text).bind afterBlanks?).map Text.withReturns := by
    simp (disch := decide) only [after_with_returns, Option.bind_map, Option.map_bind,
      Function.comp_def, after_blanks_with_returns]
  rw [skipType, skipType, word]
  cases (after? "type".toList text).bind afterBlanks? with
  | none => rfl
  | some rest => rfl

theorem export_from_with_returns (before : Option Char) (text : List Char) :
    readExportFrom before (Text.withReturns text) =
      (readExportFrom before text).map Occurrence.withReturns := by
  simp (disch := decide) only [readExportFrom, bind, statement_with_returns, after_with_returns,
    Option.bind_map, Option.map_bind, Function.comp_def, after_blanks_with_returns,
    skip_type_with_returns, after_exported_with_returns, quoted_with_returns]

end ExportFrom

section StaticImport

/-- What is not of blanks alone but stands between blanks has something between two of them. -/
theorem exists_between_blanks {part : List Char} (first : part.head?.any isBlank = true)
    (last : part.getLast?.any isBlank = true) (mixed : ¬SomeBlanks part) :
    ∃ opening names closing, isBlank opening = true ∧ names ≠ [] ∧ isBlank closing = true ∧
      part = opening :: (names ++ [closing]) := by
  cases part with
  | nil => simp at first
  | cons opening rest =>
      have opens : isBlank opening = true := by simpa using first
      rcases List.eq_nil_or_concat rest with rfl | ⟨names, closing, rfl⟩
      · exact absurd ⟨by simp, by simpa using opens⟩ mixed
      · rw [List.concat_eq_append] at last mixed ⊢
        have closes : isBlank closing = true := by
          rw [← List.cons_append, List.getLast?_concat] at last
          simpa using last
        refine ⟨opening, names, closing, opens, ?_, closes, rfl⟩
        rintro rfl
        exact mixed ⟨by simp, by simp [opens, closes]⟩

theorem clause_fits_iff {gap : List Char}
    (inside : ∀ character ∈ gap, isClauseCharacter character = true) : clauseFits gap = true ↔
      ∃ first clause, SomeBlanks first ∧ Surface.Clause clause ∧ gap = first ++ clause := by
  constructor
  · exact clause_fits_sound inside
  · rintro ⟨first, clause, blanks, names, rfl⟩
    exact clause_fits_complete blanks names

theorem clause_with_returns {clause : List Char} (names : Surface.Clause clause) :
    Surface.Clause (Text.withReturns clause) := by
  cases names with
  | none => exact .none
  | @names names gap space filled inside blanks last =>
      have listed := (all_with_returns_iff isClauseCharacter (by decide) names).2
        fun character member => clause_character_iff.2 (inside character member)
      rw [with_returns_append, with_returns_append, with_returns_append,
        with_returns_of_one_line (by decide : '\n' ∉ "from".toList)]
      apply Surface.Clause.names
      · simpa [with_returns_eq_nil_iff] using filled
      · exact fun character member => clause_character_iff.1 (listed character member)
      · exact some_blanks_with_returns_iff.2 blanks
      · exact some_blanks_with_returns_iff.2 last

theorem clause_fits_with_returns {gap : List Char}
    (inside : ∀ character ∈ gap, isClauseCharacter character = true)
    (apart : ∀ space, SomeBlanks space → ¬space ++ "from".toList <+: gap) :
    clauseFits (Text.withReturns gap) = clauseFits gap := by
  have insideToo := (all_with_returns_iff isClauseCharacter (by decide) gap).2 inside
  rw [Bool.eq_iff_iff, clause_fits_iff inside, clause_fits_iff insideToo]
  constructor
  · rintro ⟨first, clause, blanks, names, cut⟩
    cases names with
    | none =>
        rw [List.append_nil] at cut
        rw [← cut, some_blanks_with_returns_iff] at blanks
        exact ⟨gap, [], blanks, .none, (List.append_nil gap).symm⟩
    | @names names between space filled named spaced final =>
        rw [← List.append_assoc names, ← List.append_assoc first] at cut
        obtain ⟨front, back, rfl, above, below⟩ :=
          exists_cut_of_with_returns cut fun _ _ => by simp
        obtain ⟨behind, rfl, rfl⟩ :=
          (with_returns_eq_append_iff (by decide) (by decide)).1 below
        have mixed : ¬SomeBlanks front := fun blank =>
          apart front blank ⟨behind, by simp⟩
        have opened : front.head?.any isBlank = true := by
          obtain ⟨opening, others, blank, rfl⟩ := blanks.exists_cons
          rw [← first_with_returns isBlank (by decide), above]
          simpa using blank
        have closed : front.getLast?.any isBlank = true := by
          obtain ⟨closing, others, blank, turned⟩ := spaced.reverse.exists_cons
          have last : between.getLast? = some closing := by
            rw [← List.head?_reverse, turned, List.head?_cons]
          rw [← last_with_returns, above, last_of_append (last_of_append last)]
          exact blank
        obtain ⟨opening, listed, closing, opens, some, closes, rfl⟩ :=
          exists_between_blanks opened closed mixed
        refine ⟨[opening], listed ++ ([closing] ++ ("from".toList ++ behind)), ?_, ?_, by simp⟩
        · exact ⟨by simp, by simpa using opens⟩
        · apply Surface.Clause.names some
          · intro character member
            apply clause_character_iff.1
            apply inside
            simp [member]
          · exact ⟨by simp, by simpa using closes⟩
          · exact some_blanks_with_returns_iff.1 final
  · rintro ⟨first, clause, blanks, names, rfl⟩
    exact ⟨_, _, some_blanks_with_returns_iff.2 blanks, clause_with_returns names,
      with_returns_append first clause⟩

theorem gap_fits_with_returns {before : Option Char} {text start rest : List Char}
    (apart : ImportFromApart text) (opened : statement? before text = some start)
    (word : after? "import".toList start = some rest) :
    clauseFits (Text.withReturns (rest.takeWhile isClauseCharacter)) =
      clauseFits (rest.takeWhile isClauseCharacter) := by
  apply clause_fits_with_returns (fun _ member => List.mem_takeWhile_imp member)
  intro space blanks written
  obtain ⟨lead, -, rfl⟩ := statement_sound opened
  rw [after_eq_some_iff] at word
  have here : "import".toList ++ (space ++ "from".toList) <+: start := by
    rw [word, List.prefix_append_right_inj]
    exact written.trans (List.takeWhile_prefix _)
  exact apart space blanks (here.isInfix.trans (List.suffix_append lead start).isInfix)

theorem static_import_with_returns (before : Option Char) {text : List Char}
    (apart : ImportFromApart text) : readStaticImport before (Text.withReturns text) =
      (readStaticImport before text).map Occurrence.withReturns := by
  have inside := take_while_with_returns isClauseCharacter (by decide)
  have behind := drop_while_with_returns isClauseCharacter (by decide)
  rw [readStaticImport, readStaticImport, statement_with_returns]
  cases opened : statement? before text with
  | none => rfl
  | some start =>
      simp (disch := decide) only [bind, Option.map_some, Option.bind_some, after_with_returns]
      cases word : after? "import".toList start with
      | none => rfl
      | some rest =>
          simp only [Option.map_some, Option.bind_some, inside, behind,
            gap_fits_with_returns apart opened word]
          split
          · exact quoted_with_returns _
          · rfl

end StaticImport

section Others

theorem call_eq (function : String) (before : Option Char) (text : List Char) :
    readCall function before text = if before.any isWord then none
      else (after? function.toList text).bind fun rest =>
        (after? ['('] (skipBlanks rest)).bind fun inner =>
          (quoted? (skipBlanks inner)).bind parenthesised? := by
  rw [readCall]
  split
  · rfl
  · simp only [bind]
    congr 1
    funext rest
    split
    next inner shape => rw [shape, after_mark, Option.bind_some]
    next other => rw [after_mark_none other, Option.bind_none]

theorem call_with_returns {function : String} (line : '\n' ∉ function.toList)
    (last : function.toList.getLast? ≠ some '\r') (before : Option Char) (text : List Char) :
    readCall function before (Text.withReturns text) =
      (readCall function before text).map Occurrence.withReturns := by
  rw [call_eq, call_eq, after_with_returns line last]
  split
  · rfl
  · simp (disch := decide) only [Option.bind_map, Option.map_bind, Function.comp_def,
      after_with_returns, skip_blanks_with_returns, quoted_with_returns,
      parenthesised_with_returns]

theorem directive_with_returns (word : String) (line : '\n' ∉ word.toList)
    (last : word.toList.getLast? ≠ some '\r') (text : List Char) :
    readDirective word (Text.withReturns text) =
      (readDirective word text).map Occurrence.withReturns := by
  simp only [readDirective, bind, after_with_returns line last, Option.bind_map, Option.map_bind,
    Function.comp_def, after_blanks_with_returns, quoted_with_returns]

theorem style_use_with_returns (before : Option Char) (text : List Char) :
    styleUse.read before (Text.withReturns text) =
      (styleUse.read before text).map Occurrence.withReturns := by
  have use := directive_with_returns "@use" (by decide) (by decide) text
  have forward := directive_with_returns "@forward" (by decide) (by decide) text
  simp only [styleUse, use, forward]
  cases readDirective "@use" text with
  | none => rfl
  | some occurrence => rfl

theorem skip_quote_with_returns (text : List Char) :
    skipQuote (Text.withReturns text) = Text.withReturns (skipQuote text) := by
  cases text with
  | nil => rfl
  | cons character rest =>
      by_cases line : character = '\n'
      · rw [line]
        rfl
      · rw [with_returns_cons line, skipQuote, skipQuote]
        split
        · rfl
        · rw [with_returns_cons line]

theorem location_with_returns (text : List Char) :
    readLocation (Text.withReturns text) = (readLocation text).map Occurrence.withReturns := by
  have inside := take_line_with_returns isLocationCharacter (by decide) (by decide)
  have behind := drop_while_with_returns isLocationCharacter (by decide)
  simp only [readLocation, skip_blanks_with_returns, skip_quote_with_returns, inside, behind]
  split
  · rfl
  · exact parenthesised_with_returns ⟨_, ')', _⟩

theorem import_url_with_returns (text : List Char) :
    readImportUrl (Text.withReturns text) = (readImportUrl text).map Occurrence.withReturns := by
  simp (disch := decide) only [readImportUrl, bind, after_with_returns, Option.bind_map,
    Option.map_bind, Function.comp_def, after_blanks_with_returns, location_with_returns]

end Others

/-- What the form reads is the same with the returns, and nothing of the form begins between a
return and its line feed. -/
structure LineEndsAlike (form : Form) : Prop where
  reads : ∀ (before : Option Char) {text : List Char}, ImportFromApart text →
    form.read before (Text.withReturns text) = (form.read before text).map Occurrence.withReturns
  between : ∀ text, form.read (some '\r') ('\n' :: text) = none

theorem script_forms_alike : ∀ form ∈ scriptForms, form.LineEndsAlike := by
  simp only [scriptForms, List.forall_mem_cons, List.not_mem_nil, false_implies, implies_true,
    and_true]
  refine ⟨?_, ?_, ?_, ?_⟩
  · exact ⟨static_import_with_returns, fun _ => rfl⟩
  · exact ⟨fun before _ _ => export_from_with_returns before _, fun _ => rfl⟩
  · exact ⟨fun before _ _ => call_with_returns (by decide) (by decide) before _, fun _ => rfl⟩
  · exact ⟨fun before _ _ => call_with_returns (by decide) (by decide) before _, fun _ => rfl⟩

theorem style_forms_alike : ∀ form ∈ styleForms, form.LineEndsAlike := by
  simp only [styleForms, List.forall_mem_cons, List.not_mem_nil, false_implies, implies_true,
    and_true]
  refine ⟨?_, ?_, ?_⟩
  · exact ⟨fun _ _ _ => directive_with_returns _ (by decide) (by decide) _, fun _ => rfl⟩
  · exact ⟨fun _ _ _ => import_url_with_returns _, fun _ => rfl⟩
  · exact ⟨fun before _ _ => style_use_with_returns before _, fun _ => rfl⟩

/-- By induction on the length: the search goes on behind an occurrence or behind a character, and
before a line feed it passes the return as well. -/
theorem LineEndsAlike.specifiers_from {form : Form} {surface : Surface}
    (alike : form.LineEndsAlike) (reads : form.Reads surface) (before : Option Char)
    {text : List Char} (apart : ImportFromApart text) :
    form.specifiersFrom before (Text.withReturns text) = form.specifiersFrom before text := by
  induction size : text.length using Nat.strong_induction_on generalizing before text with
  | _ length induction =>
      subst size
      have readToo := alike.reads before apart
      cases read : form.read before text with
      | some occurrence =>
          rw [read, Option.map_some] at readToo
          obtain ⟨written, shape, -⟩ := reads.sound read
          have below : ImportFromApart occurrence.rest := by
            apply apart.below
            rw [shape]
            exact (List.suffix_append written _).isInfix
          rw [specifiers_from_read read, specifiers_from_read readToo]
          congr 1
          exact induction _ (form.shorter read) _ below rfl
      | none =>
          rw [read, Option.map_none] at readToo
          cases text with
          | nil => rfl
          | cons character rest =>
              have below := apart.below (List.suffix_cons character rest).isInfix
              rw [specifiers_from_free read]
              have later := induction rest.length (by simp) (some character) below rfl
              by_cases line : character = '\n'
              · subst line
                rw [with_returns_line_end] at readToo ⊢
                rw [specifiers_from_free readToo, specifiers_from_free (alike.between _), later]
              · rw [with_returns_cons line] at readToo ⊢
                rw [specifiers_from_free readToo, later]

theorem specifiers_of_forms_with_returns {forms : List Form} {surfaces : List Surface}
    (alike : ∀ form ∈ forms, form.LineEndsAlike) (reads : List.Forall₂ Form.Reads forms surfaces)
    {text : List Char} (apart : ImportFromApart text) :
    forms.flatMap (·.specifiers (Text.withReturns text)) = forms.flatMap (·.specifiers text) := by
  induction reads with
  | nil => rfl
  | cons first rest induction =>
      obtain ⟨here, later⟩ := List.forall_mem_cons.1 alike
      rw [List.flatMap_cons, List.flatMap_cons, induction later]
      congr 1
      exact here.specifiers_from first none apart

end Form

theorem forms_alike {settings : Settings} {extractor : Extractor}
    (made : Extractor.ofSettings settings = .ok extractor) (category : Category) :
    ∀ form ∈ extractor.forms category, form.LineEndsAlike := by
  obtain ⟨script, style⟩ := forms_of_settings made
  cases category with
  | script => exact script ▸ Form.script_forms_alike
  | style => exact style ▸ Form.style_forms_alike

/-- A file has the same specifiers whether its lines end with a line feed or with a carriage return
and a line feed, if no blanks alone stand between `import` and `from`. -/
theorem extract_with_returns {settings : Settings} {extractor : Extractor}
    (made : Extractor.ofSettings settings = .ok extractor) {content : String}
    (apart : ImportFromApart content.toList) (path : String) :
    extractor.extract (String.ofList (Text.withReturns content.toList)) path =
      extractor.extract content path := by
  rw [Extractor.extract, Extractor.extract, String.toList_ofList]
  cases extractor.categorize path with
  | none => rfl
  | some category =>
      have same := Form.specifiers_of_forms_with_returns (forms_alike made category)
        (forms_read made category) apart
      simp only [← List.map_flatMap, same]

/-- Names over several lines, and a call at the end of a line. -/
theorem names_over_lines_found_with_returns : ∃ extractor,
    Extractor.ofSettings .initial = .ok extractor ∧
    ImportFromApart "import \x7ba,\n  from\x7d from './a'\nrequire(\n'./b')\n".toList ∧
    extractor.extract (String.ofList (withReturns
        "import \x7ba,\n  from\x7d from './a'\nrequire(\n'./b')\n".toList)) "x.js" =
      extractor.extract "import \x7ba,\n  from\x7d from './a'\nrequire(\n'./b')\n" "x.js" := by
  have apart : ImportFromApart
      "import \x7ba,\n  from\x7d from './a'\nrequire(\n'./b')\n".toList := by
    decide +kernel
  exact ⟨_, initial_extractor, apart, extract_with_returns initial_extractor apart "x.js"⟩

/-- With two blanks alone before `from` nothing stands between them, and a return is something. -/
example : Form.staticImport.specifiers "import \nfrom './a'".toList = [] ∧
    Form.staticImport.specifiers (withReturns "import \nfrom './a'".toList) =
      ["./a".toList] := by
  decide +kernel

end ImportImpact
