import ImportImpact.Proofs.Import.Extractor

/-!
Statements inside string literals. Inside a literal on one line no statement begins, unless one of
the four characters that may open a statement stands there in front of it.
-/

namespace ImportImpact

open Surface Text

namespace Surface

def Opens (surface : Surface) (word : List Char) : Prop :=
  ∀ {before : Option Char} {written specifier : List Char}, surface before written specifier →
    ∃ lead blank rest, Lead before lead ∧ isBlank blank = true ∧
      written = lead ++ (word ++ (blank :: rest))

theorem static_import_opens : Opens StaticImport "import".toList := by
  intro before written specifier here
  cases here with
  | statement starts blanks names source =>
      obtain ⟨blank, gap, space, rfl⟩ := blanks.exists_cons
      exact ⟨_, blank, _, starts, space, rfl⟩

theorem export_from_opens : Opens ExportFrom "export".toList := by
  intro before written specifier here
  cases here with
  | statement starts blanks typed names loose closing source =>
      obtain ⟨blank, gap, space, rfl⟩ := blanks.exists_cons
      exact ⟨_, blank, _, starts, space, rfl⟩

end Surface

/-- A statement with this word begins at the front, behind one of the four characters. -/
inductive Begins (word : List Char) : List Char → Prop
  | after {character blank : Char} {indent rest : List Char}
      (opens : character ∈ [';', '\x7b', '\x7d', '>'])
      (tabs : ∀ character ∈ indent, character = ' ' ∨ character = '\t')
      (gap : isBlank blank = true) :
      Begins word (character :: (indent ++ (word ++ (blank :: rest))))

/-- What the form finds in the text, and none of it starts in the stretch between two places. -/
def ReportsNoneWithin (form : Form) (surface : Surface) (text : List Char) (start stop : Nat) :
    Prop :=
  ∃ found, surface.Leftmost text found ∧
    form.specifiers text = found.map Stretch.specifier ∧
    ∀ stretch ∈ found, ¬(start ≤ stretch.start ∧ stretch.start < stop)

theorem prefix_before_quote {part inside after : List Char} {quote : Char} (free : quote ∉ part)
    (written : part <+: inside ++ quote :: after) : part <+: inside := by
  have whole : inside ++ [quote] <+: inside ++ quote :: after := ⟨after, by simp⟩
  rcases List.prefix_or_prefix_of_prefix written whole with short | ⟨rest, rfl⟩
  · rcases List.prefix_concat_iff.1 short with rfl | within
    · simp at free
    · exact within
  · simp at free

theorem Surface.Lead.opened {before : Option Char} {lead : List Char} (starts : Lead before lead)
    (some : before ≠ none) (line : before ≠ Option.some '\n') :
    ∃ character indent, character ∈ [';', '\x7b', '\x7d', '>'] ∧
      (∀ character ∈ indent, character = ' ' ∨ character = '\t') ∧
        lead = character :: indent := by
  cases starts with
  | indented opens tabs =>
      cases opens with
      | text => exact absurd rfl some
      | line => exact absurd rfl line
      | after opens => exact ⟨_, _, opens, tabs, rfl⟩

/-- Up to the blank behind its word, the beginning of a statement holds no quote. -/
theorem no_quote_in_beginning {quote character blank : Char} {indent word : List Char}
    (quoted : Quote quote) (opens : character ∈ [';', '\x7b', '\x7d', '>'])
    (tabs : ∀ character ∈ indent, character = ' ' ∨ character = '\t') (plain : quote ∉ word)
    (gap : isBlank blank = true) : quote ∉ character :: (indent ++ (word ++ [blank])) := by
  have other : quote ∉ [';', '\x7b', '\x7d', '>'] ∧ ¬(quote = ' ' ∨ quote = '\t') ∧
      isBlank quote = false := by
    rcases quoted with rfl | rfl
    · decide
    · decide
  obtain ⟨opener, space, solid⟩ := other
  simp only [List.mem_cons, List.mem_append, List.not_mem_nil, or_false, not_or]
  refine ⟨?_, fun member => space (tabs quote member), plain, ?_⟩
  · rintro rfl
    exact opener (by simpa using opens)
  · rintro rfl
    simp [gap] at solid

section Inside

variable {before inside after : List Char} {quote : Char} {surface : Surface} {word : List Char}

/-- What is written in an occurrence up to the blank behind the word holds no quote, so it ends
before the literal does. -/
theorem begins_of_stands (opening : Opens surface word) (plain : quote ∉ word)
    (quoted : Quote quote) (line : '\n' ∉ inside) {stretch : Stretch}
    (stands : surface.Stands (before ++ quote :: (inside ++ quote :: after)) stretch)
    (above : before.length + 1 ≤ stretch.start)
    (below : stretch.start < before.length + 1 + inside.length) :
    ∃ rest, rest <:+ inside ∧ Begins word rest := by
  obtain ⟨passed, written, following, shape, start, -, here⟩ := stands
  obtain ⟨front, back, rfl, size⟩ : ∃ front back, inside = front ++ back ∧
      (before ++ quote :: front).length = passed.length := by
    refine ⟨inside.take (stretch.start - (before.length + 1)),
      inside.drop (stretch.start - (before.length + 1)), by simp, ?_⟩
    simp only [List.length_append, List.length_cons, List.length_take]
    omega
  have cut : (before ++ quote :: front) ++ (back ++ quote :: after) =
      passed ++ (written ++ following) := by simpa using shape
  obtain ⟨rfl, tail⟩ := List.append_inj cut size
  -- The character before the occurrence is the quote or one inside, so no line starts here.
  have last : (before ++ quote :: front).getLast? = (quote :: front).getLast? :=
    List.getLast?_append_of_ne_nil _ (by simp)
  have noLine : (quote :: front).getLast? ≠ some '\n' := by
    intro ends
    rcases List.mem_cons.1 (List.mem_of_getLast? ends) with rfl | member
    · exact absurd quoted (by simp [Quote])
    · exact line (List.mem_append_left _ member)
  obtain ⟨lead, blank, rest, starts, gap, rfl⟩ := opening here
  obtain ⟨character, indent, opens, tabs, rfl⟩ :=
    starts.opened (by simp [last]) (last ▸ noLine)
  have free := no_quote_in_beginning quoted opens tabs plain gap
  have written : character :: (indent ++ (word ++ [blank])) <+: back ++ quote :: after :=
    ⟨rest ++ following, by simp [tail]⟩
  obtain ⟨behind, rfl⟩ := prefix_before_quote free written
  refine ⟨_, List.suffix_append front _, ?_⟩
  rw [List.cons_append, List.append_assoc, List.append_assoc, List.singleton_append]
  exact .after opens tabs gap

theorem reports_none_within {form : Form} (reads : form.Reads surface)
    (opening : Opens surface word) (plain : quote ∉ word) (quoted : Quote quote)
    (line : '\n' ∉ inside) (quiet : ∀ rest, rest <:+ inside → ¬Begins word rest) :
    ReportsNoneWithin form surface (before ++ quote :: (inside ++ quote :: after))
      (before.length + 1) (before.length + 1 + inside.length) := by
  obtain ⟨found, leftmost, same⟩ :=
    reads.specifiers_leftmost (before ++ quote :: (inside ++ quote :: after))
  refine ⟨found, leftmost, same, ?_⟩
  rintro stretch member ⟨above, below⟩
  obtain ⟨rest, within, begins⟩ :=
    begins_of_stands opening plain quoted line (leftmost.stands stretch member) above below
  exact quiet rest within begins

end Inside

/-- Between two quote characters on one line, where no `import` or `export` begins a statement,
neither statement form finds an occurrence, whatever stands around them. -/
theorem literal_text_is_no_statement {before inside after : List Char} {quote : Char}
    (quoted : Quote quote) (line : '\n' ∉ inside)
    (quiet : ∀ rest, rest <:+ inside →
      ¬Begins "import".toList rest ∧ ¬Begins "export".toList rest) :
    ReportsNoneWithin Form.staticImport StaticImport
        (before ++ quote :: (inside ++ quote :: after))
        (before.length + 1) (before.length + 1 + inside.length) ∧
      ReportsNoneWithin Form.exportFrom ExportFrom
        (before ++ quote :: (inside ++ quote :: after))
        (before.length + 1) (before.length + 1 + inside.length) := by
  have plain : quote ∉ "import".toList ∧ quote ∉ "export".toList := by
    rcases quoted with rfl | rfl
    · decide
    · decide
  constructor
  · exact reports_none_within Form.static_import_reads static_import_opens plain.1 quoted line
      fun rest within => (quiet rest within).1
  · exact reports_none_within Form.export_from_reads export_from_opens plain.2 quoted line
      fun rest within => (quiet rest within).2

theorem quiet_without_opening {inside rest word : List Char}
    (free : ∀ character ∈ [';', '\x7b', '\x7d', '>'], character ∉ inside)
    (within : rest <:+ inside) : ¬Begins word rest := by
  rintro ⟨opens, -, -⟩
  exact free _ opens (within.subset List.mem_cons_self)

theorem import_in_literal_is_no_statement : Quote '\'' ∧ '\n' ∉ "import \"./fake\"".toList ∧
    (∀ rest, rest <:+ "import \"./fake\"".toList →
      ¬Begins "import".toList rest ∧ ¬Begins "export".toList rest) ∧
    ReportsNoneWithin Form.staticImport StaticImport
      ("const s = ".toList ++ '\'' :: ("import \"./fake\"".toList ++ '\'' :: ";".toList)) 11 26 ∧
    ReportsNoneWithin Form.exportFrom ExportFrom
      ("const s = ".toList ++ '\'' :: ("import \"./fake\"".toList ++ '\'' :: ";".toList))
        11 26 := by
  have quoted : Quote '\'' := Or.inl rfl
  have line : '\n' ∉ "import \"./fake\"".toList := by decide +kernel
  have free : ∀ character ∈ [';', '\x7b', '\x7d', '>'],
      character ∉ "import \"./fake\"".toList := by
    simp only [List.forall_mem_cons]
    exact ⟨by decide +kernel, by decide +kernel, by decide +kernel, by decide +kernel,
      fun _ none => absurd none List.not_mem_nil⟩
  have quiet : ∀ rest, rest <:+ "import \"./fake\"".toList →
      ¬Begins "import".toList rest ∧ ¬Begins "export".toList rest := fun rest within =>
    ⟨quiet_without_opening free within, quiet_without_opening free within⟩
  exact ⟨quoted, line, quiet, literal_text_is_no_statement quoted line quiet⟩

/-- Behind a semicolon in a literal a statement is found. -/
theorem statement_in_literal_found : Quote '"' ∧ '"' ∉ "; import './a'".toList ∧
    '\n' ∉ "; import './a'".toList ∧ '\\' ∉ "; import './a'".toList ∧
    Form.staticImport.specifiers ('"' :: ("; import './a'".toList ++ ['"'])) = ["./a".toList] ∧
    ¬ReportsNoneWithin Form.staticImport StaticImport
      ('"' :: ("; import './a'".toList ++ ['"'])) 1 15 := by
  refine ⟨Or.inr rfl, by decide, by decide, by decide, by decide +kernel, ?_⟩
  rintro ⟨found, leftmost, -, outside⟩
  have read : Form.staticImport.read (some '"') ("; import './a'".toList ++ ['"']) =
      some ⟨"./a".toList, '\'', ['"']⟩ := by rfl
  obtain ⟨written, shape, -, here⟩ := Form.static_import_reads.sound read
  obtain rfl := List.append_cancel_right shape
  have stands : Surface.Stands StaticImport ('"' :: ("; import './a'".toList ++ ['"']))
      ⟨1, 15, "./a".toList⟩ := ⟨['"'], _, ['"'], rfl, rfl, rfl, here⟩
  rcases leftmost.none_missed _ stands with member | ⟨earlier, member, less, -⟩
  · exact outside _ member ⟨Nat.le_refl 1, by decide⟩
  · have first : earlier.start = ([] : List Char).length := Nat.lt_one_iff.1 less
    have nothing : Form.staticImport.read none ('"' :: ("; import './a'".toList ++ ['"'])) =
      Option.none := by rfl
    obtain ⟨occurrence, given, -⟩ := Form.static_import_reads.read_of_stands
      (leftmost.stands earlier member) first
    rw [List.getLast?_nil, nothing] at given
    cases given

end ImportImpact
