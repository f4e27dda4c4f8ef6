import ImportImpact.Proofs.Import.Extractor

/-!
Static imports that begin a line. An occurrence that begins before the line and reaches into it has
its line end among the names of an import clause, and goes on as a clause through the blanks and
words of the line to the first quote. So it has the same specifier, and none is hidden by what
stands before or after.
-/

namespace ImportImpact

open Surface Text Occurrence

/-- A static import with nothing but tabs and spaces before it. -/
inductive ImportLine : (written specifier : List Char) → Prop
  | indented {indent gap clause quoted specifier : List Char}
      (tabs : ∀ character ∈ indent, character = ' ' ∨ character = '\t') (blanks : SomeBlanks gap)
      (names : Clause clause) (source : Quoted quoted specifier) :
      ImportLine (indent ++ ("import".toList ++ (gap ++ (clause ++ quoted)))) specifier

theorem prefix_of_append {part front back : List Char} (written : part <+: front ++ back) :
    part <+: front ∨ ∃ rest, part = front ++ rest ∧ rest <+: back := by
  rcases List.prefix_or_prefix_of_prefix written (List.prefix_append front back) with short | long
  · exact Or.inl short
  · obtain ⟨rest, rfl⟩ := long
    exact Or.inr ⟨rest, rfl, (List.prefix_append_right_inj front).1 written⟩

theorem ends_in_middle {front middle back part : List Char} {mark : Char}
    (written : part ++ [mark] <+: front ++ (middle ++ back)) (above : mark ∉ front)
    (below : mark ∉ back) : ∃ inner, part ++ [mark] = front ++ inner ∧ inner <+: middle := by
  rcases prefix_of_append written with short | ⟨inner, same, within⟩
  · exact absurd (short.subset (by simp)) above
  · refine ⟨inner, same, ?_⟩
    rcases prefix_of_append within with inside | ⟨tail, rfl, beyond⟩
    · exact inside
    · by_cases nothing : tail = []
      · simp [nothing]
      · have last : tail.getLast? = some mark := by
          rw [← List.getLast?_append_of_ne_nil _ nothing, ← List.getLast?_append_of_ne_nil front,
            ← same, List.getLast?_concat]
          simp [nothing]
        exact absurd (beyond.subset (List.mem_of_getLast? last)) below

section Occurrences

variable {before : Option Char} {written specifier : List Char}

theorem ImportLine.statement (line : ImportLine written specifier) :
    StaticImport (some '\n') written specifier := by
  cases line with
  | indented tabs blanks names source =>
      exact .statement (.indented .line tabs) blanks names source

/-- What stands before the quote of a static import: a beginning on one line, and a run of clause
characters. -/
theorem static_import_parts (here : StaticImport before written specifier) :
    ∃ front run quoted, written = front ++ (run ++ quoted) ∧ '\n' ∉ front ∧
      (∀ character ∈ run, Form.isClauseCharacter character = true) ∧ Quoted quoted specifier := by
  cases here with
  | @statement lead gap clause quoted _ starts blanks names source =>
      refine ⟨lead ++ "import".toList, gap ++ clause, quoted, by simp, ?_,
        Form.clause_run blanks names, source⟩
      cases starts with
      | @indented opening indent opens tabs =>
          have level : '\n' ∉ indent := fun member => absurd (tabs '\n' member) (by decide)
          have word : '\n' ∉ "import".toList := by decide
          have plain : '\n' ∉ opening := by
            cases opens with
            | text => simp
            | line => simp
            | after opens =>
                intro member
                rw [← List.mem_singleton.1 member] at opens
                exact absurd opens (by decide)
          simp only [List.mem_append, not_or]
          exact ⟨⟨plain, level⟩, word⟩

theorem import_line_parts (line : ImportLine written specifier) :
    ∃ run quoted, written = run ++ quoted ∧
      (∀ character ∈ run, Form.isClauseCharacter character = true) ∧ Quoted quoted specifier := by
  cases line with
  | @indented indent gap clause quoted _ tabs blanks names source =>
      refine ⟨indent ++ ("import".toList ++ (gap ++ clause)), quoted, by simp, ?_, source⟩
      have letters : "import".toList.all Form.isClauseCharacter = true := by decide
      simp only [List.mem_append]
      rintro character (member | member | member)
      · rw [Form.clause_character_iff]
        apply Or.inr ∘ Or.inr
        apply blank_of_tab_or_space
        exact Form.tab_or_space_iff.2 (tabs character member)
      · exact List.all_eq_true.1 letters character member
      · exact Form.clause_run blanks names character (List.mem_append.2 member)

end Occurrences

/-- An occurrence that begins before an import line and reaches into it has its specifier. -/
theorem specifier_of_overlap {before : Option Char} {part line written after rest : List Char}
    {specifier other : List Char} (imported : ImportLine line specifier)
    (here : StaticImport before written other)
    (shape : written ++ after = part ++ '\n' :: (line ++ rest))
    (reaches : part.length + 1 ≤ written.length) : other = specifier := by
  obtain ⟨run, quoted, rfl, inside, source⟩ := import_line_parts imported
  obtain ⟨front, runToo, quotedToo, rfl, level, insideToo, sourceToo⟩ := static_import_parts here
  have begins : part ++ ['\n'] <+: front ++ (runToo ++ quotedToo) := by
    apply List.prefix_of_prefix_length_le _ (List.prefix_append _ after)
    · simpa using reaches
    · exact ⟨run ++ quoted ++ rest, by simp [shape]⟩
  obtain ⟨inner, same, within⟩ :=
    ends_in_middle begins level sourceToo.one_line
  have whole : runToo ++ (quotedToo ++ after) = (inner ++ run) ++ (quoted ++ rest) := by
    have joined : front ++ (runToo ++ (quotedToo ++ after)) =
        front ++ (inner ++ (run ++ (quoted ++ rest))) := by
      rw [← List.append_assoc front inner, ← same]
      simpa using shape
    simpa using List.append_cancel_left joined
  have insideBoth : ∀ character ∈ inner ++ run, Form.isClauseCharacter character = true := by
    intro character member
    rcases List.mem_append.1 member with above | below
    · exact insideToo character (within.subset above)
    · exact inside character below
  have ends : Ends Form.isClauseCharacter (quoted ++ rest) :=
    source.ends (by decide) (by decide) rest
  have endsToo : Ends Form.isClauseCharacter (quotedToo ++ after) :=
    sourceToo.ends (by decide) (by decide) after
  have dropped := drop_while_run insideToo endsToo
  rw [whole, drop_while_run insideBoth ends] at dropped
  obtain ⟨closing, -, read⟩ := quoted_complete source
  obtain ⟨closingToo, -, readToo⟩ := quoted_complete sourceToo
  have first := read rest
  rw [dropped, readToo] at first
  exact congrArg Occurrence.specifier (Option.some.inj first)

theorem specifier_of_import_line {line specifier : List Char} (imported : ImportLine line specifier)
    (before after : List Char) :
    specifier ∈ Form.staticImport.specifiers (before ++ '\n' :: (line ++ after)) := by
  obtain ⟨found, leftmost, same⟩ :=
    Form.static_import_reads.specifiers_leftmost (before ++ '\n' :: (line ++ after))
  rw [same]
  have stands : Surface.Stands StaticImport (before ++ '\n' :: (line ++ after))
      ⟨(before ++ ['\n']).length, (before ++ ['\n']).length + line.length, specifier⟩ :=
    ⟨before ++ ['\n'], line, after, by simp, rfl, rfl, by simpa using imported.statement⟩
  rcases leftmost.none_missed _ stands with member | ⟨earlier, member, less, reaches⟩
  · exact List.mem_map.2 ⟨_, member, rfl⟩
  · refine List.mem_map.2 ⟨earlier, member, ?_⟩
    obtain ⟨passed, written, rest, shape, start, stop, here⟩ := leftmost.stands earlier member
    simp only [List.length_append, List.length_singleton, start, stop] at less reaches
    -- What was passed before the occurrence is all before the line end.
    have above : passed <+: before := by
      have whole : passed <+: before ++ '\n' :: (line ++ after) := ⟨written ++ rest, shape.symm⟩
      exact List.prefix_of_prefix_length_le whole (List.prefix_append before _) (by omega)
    obtain ⟨part, rfl⟩ := above
    rw [List.append_assoc] at shape
    have there := (List.append_cancel_left shape).symm
    rw [List.length_append] at reaches
    exact specifier_of_overlap imported here there (by omega)

/-- A static import at the start of a line is reported, whatever stands before and after it. -/
theorem import_on_line_found {settings : Settings} {extractor : Extractor} {path : String}
    (made : Extractor.ofSettings settings = .ok extractor)
    (script : extractor.categorize path = some .script) {line specifier : String}
    (imported : ImportLine line.toList specifier.toList) (before after : String) :
    specifier ∈ extractor.extract (before ++ "\n" ++ line ++ after) path := by
  have shape : (before ++ "\n" ++ line ++ after).toList =
      before.toList ++ '\n' :: (line.toList ++ after.toList) := by
    simp [String.toList_append]
  simp only [Extractor.extract, script, (forms_of_settings made).1, shape]
  apply List.mem_flatMap.2
  refine ⟨Form.staticImport, by simp [Form.scriptForms], List.mem_map.2 ⟨specifier.toList, ?_, ?_⟩⟩
  · exact specifier_of_import_line imported _ _
  · exact String.ofList_toList

/-- The clause of an import that is broken off takes in the line, and its specifier is found. -/
theorem import_after_broken_import_found : ∃ extractor,
    Extractor.ofSettings .initial = .ok extractor ∧ extractor.categorize "x.js" = some .script ∧
    ImportLine "  import b from './b'".toList "./b".toList ∧
    "./b" ∈ extractor.extract ("import \x7ba," ++ "\n" ++ "  import b from './b'" ++ " from 'c'")
      "x.js" := by
  have line : ImportLine "  import b from './b'".toList "./b".toList := by
    have blanks : [' '].all isBlank = true := by decide
    have tabs : [' ', ' '].all isTabOrSpace = true := by decide
    have name : "b".toList.all Form.isClauseCharacter = true := by decide
    have plain : "./b".toList.all (!endsQuoted ·) = true := by decide
    have gap : SomeBlanks [' '] := ⟨by simp, List.all_eq_true.1 blanks⟩
    have names : Clause ("b".toList ++ ([' '] ++ ("from".toList ++ [' ']))) :=
      .names (by decide) (fun character member => Form.clause_character_iff.1
        (List.all_eq_true.1 name character member)) gap gap
    have source : Quoted ('\'' :: ("./b".toList ++ ['\''])) "./b".toList :=
      .between (Or.inl rfl) (by decide) (fun character member => not_ends_quoted_iff.1
        (List.all_eq_true.1 plain character member)) (Or.inl rfl)
    exact .indented (fun character member => Form.tab_or_space_iff.1
      (List.all_eq_true.1 tabs character member)) gap names source
  refine ⟨_, initial_extractor, by decide +kernel, line, ?_⟩
  exact import_on_line_found initial_extractor (by decide +kernel) line _ _

end ImportImpact
