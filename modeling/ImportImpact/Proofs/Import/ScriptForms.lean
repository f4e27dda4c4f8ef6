import ImportImpact.Proofs.Import.Quoted

/-!
The script forms read their grammar. What a form passes over is a run of one class whose end the
next character shows, so nothing that is read could have been cut in another way; where the
grammar leaves a choice, the next character decides it.
-/

namespace ImportImpact.Form

open Text Surface Occurrence

section Statement

variable {before : Option Char} {text rest : List Char}

theorem opens_statement_iff {character : Char} :
    opensStatement character = true ↔ character ∈ [';', '\x7b', '\x7d', '>'] := by
  simp [opensStatement, or_assoc]

theorem tab_or_space_iff {character : Char} :
    isTabOrSpace character = true ↔ character = ' ' ∨ character = '\t' := by
  simp [isTabOrSpace]

theorem statement_sound (given : statement? before text = some rest) :
    ∃ lead, Lead before lead ∧ text = lead ++ rest := by
  have indented : ∀ {opening tail : List Char}, Opening before opening →
      ∃ lead, Lead before lead ∧
        opening ++ tail = lead ++ tail.dropWhile isTabOrSpace := by
    intro opening tail opens
    obtain ⟨indent, after, rfl, tabs, ends⟩ := exists_run isTabOrSpace tail
    refine ⟨opening ++ indent, .indented opens fun character member =>
      tab_or_space_iff.1 (tabs character member), ?_⟩
    rw [drop_while_run tabs ends, List.append_assoc]
  cases text with
  | nil => simp [statement?] at given
  | cons character tail =>
      simp only [statement?] at given
      split at given
      next opens =>
        cases given
        exact indented (.after (opens_statement_iff.1 opens))
      · split at given
        next line =>
          cases given
          cases before with
          | none => exact indented .text
          | some last =>
              have : last = '\n' := by simpa [atLineStart] using line
              subst this
              exact indented .line
        · simp at given

/-- A word that neither a statement nor an indentation could begin with shows where both end. -/
theorem statement_complete {lead : List Char} (starts : Lead before lead) (filled : rest ≠ [])
    (tabs : Ends isTabOrSpace rest) (plain : Ends opensStatement rest) :
    statement? before (lead ++ rest) = some rest := by
  cases starts with
  | @indented opening indent opens indentation =>
      have blank : ∀ character ∈ indent, isTabOrSpace character = true :=
        fun character member => tab_or_space_iff.2 (indentation character member)
      have line : atLineStart before = true →
          statement? before (indent ++ rest) = some rest := by
        intro atLine
        have dropped := drop_while_run blank tabs
        cases shape : indent ++ rest with
        | nil => simp_all
        | cons character tail =>
            have closed : opensStatement character = false := by
              cases indent with
              | nil => exact plain character (by rw [List.nil_append] at shape; simp [shape])
              | cons first others =>
                  obtain ⟨rfl, -⟩ := List.cons.inj shape
                  rcases indentation first List.mem_cons_self with rfl | rfl
                  · decide
                  · decide
            rw [statement?, if_neg (by simp [closed]), if_pos atLine, ← shape, dropped]
      cases opens with
      | text => exact line rfl
      | line => exact line rfl
      | after opens =>
          rw [List.append_assoc, List.singleton_append, statement?,
            if_pos (opens_statement_iff.2 opens), drop_while_run blank tabs]

end Statement

section StaticImport

theorem clause_character_iff {character : Char} : isClauseCharacter character = true ↔
    isWord character = true ∨ character ∈ ['$', '*', '\x7b', '\x7d', ','] ∨
      isBlank character = true := by
  simp [isClauseCharacter, or_assoc]

theorem framed_iff {part : List Char} : framed part = true ↔
    ∃ last names first, isBlank last = true ∧ names ≠ [] ∧ isBlank first = true ∧
      part = last :: (names ++ [first]) := by
  constructor
  · intro given
    simp only [framed, Bool.and_eq_true, decide_eq_true_eq] at given
    obtain ⟨⟨long, blankHead⟩, blankLast⟩ := given
    cases part with
    | nil => simp at long
    | cons last rest =>
        rcases List.eq_nil_or_concat rest with rfl | ⟨names, first, rfl⟩
        · simp at long
        · rw [List.concat_eq_append] at long blankLast ⊢
          have shape : last :: (names ++ [first]) = (last :: names) ++ [first] := rfl
          rw [shape, List.getLast?_concat] at blankLast
          refine ⟨last, names, first, by simpa using blankHead, ?_, by simpa using blankLast, rfl⟩
          rintro rfl
          simp at long
  · intro given
    obtain ⟨last, names, first, blankLast, filled, blankFirst, rfl⟩ := given
    have shape : last :: (names ++ [first]) = (last :: names) ++ [first] := rfl
    have := List.length_pos_of_ne_nil filled
    rw [framed, shape, List.getLast?_concat]
    simp only [List.cons_append, List.head?_cons, Option.any_some, blankLast, blankFirst,
      List.length_cons, List.length_append, List.length_nil, Bool.and_true, decide_eq_true_eq]
    omega

theorem clause_fits_sound {gap : List Char}
    (inside : ∀ character ∈ gap, isClauseCharacter character = true)
    (given : clauseFits gap = true) :
    ∃ first clause, SomeBlanks first ∧ Clause clause ∧ gap = first ++ clause := by
  simp only [clauseFits, Bool.and_eq_true] at given
  obtain ⟨⟨blankHead, blankLast⟩, given⟩ := given
  obtain ⟨run, rest, shape, blank, ends⟩ := exists_run isBlank gap.reverse
  have turned : gap = rest.reverse ++ run.reverse := by
    rw [← List.reverse_append, ← shape, List.reverse_reverse]
  have blankTail : ∀ character ∈ run.reverse, isBlank character = true :=
    fun character member => blank character (List.mem_reverse.1 member)
  rw [shape, drop_while_run blank ends] at given
  split at given
  · refine ⟨gap, [], ⟨?_, ?_⟩, .none, by simp⟩
    · rintro rfl
      simp at blankHead
    · rw [turned, List.reverse_nil, List.nil_append]
      exact blankTail
  next part =>
    obtain ⟨last, names, first, lastBlank, filled, firstBlank, rfl⟩ := framed_iff.1 given
    have front : ('m' :: 'o' :: 'r' :: 'f' :: last :: (names ++ [first])).reverse =
        [first] ++ (names.reverse ++ ([last] ++ "from".toList)) := by simp
    rw [front] at turned
    have space : SomeBlanks run.reverse := by
      refine ⟨?_, blankTail⟩
      intro empty
      rw [empty, List.append_nil] at turned
      have ended : gap.getLast? = some 'm' := by
        rw [turned]
        exact last_of_append (last_of_append (last_of_append rfl))
      rw [ended] at blankLast
      revert blankLast
      decide
    refine ⟨[first], names.reverse ++ ([last] ++ ("from".toList ++ run.reverse)), ?_, ?_, ?_⟩
    · exact ⟨by simp, by simpa using firstBlank⟩
    · refine .names (by simpa using filled) ?_ ⟨by simp, by simpa using lastBlank⟩ space
      intro character member
      apply clause_character_iff.1
      apply inside
      rw [turned]
      simp only [List.mem_append]
      exact Or.inl (Or.inr (Or.inl member))
    · rw [turned]
      simp only [List.append_assoc]
  · simp at given

theorem clause_fits_complete {first clause : List Char} (blanks : SomeBlanks first)
    (names : Clause clause) : clauseFits (first ++ clause) = true := by
  obtain ⟨head, tail, blankHead, headed⟩ := blanks.exists_cons
  rw [clauseFits, ← List.head?_reverse]
  cases names with
  | none =>
      obtain ⟨last, others, blankLast, ended⟩ := blanks.reverse.exists_cons
      rw [List.append_nil, List.dropWhile_eq_nil_iff.2 blanks.reverse.blank, ended, headed]
      simp [blankHead, blankLast]
  | @names names between behind filled _ space final =>
      obtain ⟨before, spaces, blankBefore, spaced⟩ := space.reverse.exists_cons
      obtain ⟨last, others, blankLast, ended⟩ := final.reverse.exists_cons
      have turned : (first ++ (names ++ (between ++ ("from".toList ++ behind)))).reverse =
          behind.reverse ++ ('m' :: 'o' :: 'r' :: 'f' :: before ::
            ((spaces ++ (names.reverse ++ tail.reverse)) ++ [head])) := by
        simp [headed, spaced]
      have ends : Ends isBlank ('m' :: 'o' :: 'r' :: 'f' :: before ::
          ((spaces ++ (names.reverse ++ tail.reverse)) ++ [head])) :=
        ends_cons_iff.2 (by decide)
      have fits : framed (before :: ((spaces ++ (names.reverse ++ tail.reverse)) ++ [head])) =
          true :=
        framed_iff.2 ⟨before, _, head, blankBefore, by simp [filled], blankHead, rfl⟩
      rw [turned, drop_while_run final.reverse.blank ends, ended, headed]
      simpa [blankHead, blankLast] using fits

/-- The run of clause characters goes to the quote: blanks, names and the word `from` are of the
class and quotes are not. -/
theorem clause_run {first clause : List Char} (blanks : SomeBlanks first) (names : Clause clause) :
    ∀ character ∈ first ++ clause, isClauseCharacter character = true := by
  intro character member
  apply clause_character_iff.2
  rcases List.mem_append.1 member with gap | inside
  · exact Or.inr (Or.inr (blanks.blank character gap))
  · cases names with
    | none => simp at inside
    | names _ named between behind =>
        simp only [List.mem_append] at inside
        rcases inside with name | gap | word | space
        · exact named character name
        · exact Or.inr (Or.inr (between.blank character gap))
        · left
          have letters : "from".toList.all isWord = true := by decide
          exact List.all_eq_true.1 letters character word
        · exact Or.inr (Or.inr (behind.blank character space))

theorem static_import_reads : staticImport.Reads StaticImport where
  sound := by
    intro before text occurrence given
    simp only [staticImport, readStaticImport, bind, Option.bind_eq_some_iff] at given
    obtain ⟨start, atStart, rest, word, given⟩ := given
    obtain ⟨lead, starts, rfl⟩ := statement_sound atStart
    rw [after_eq_some_iff] at word
    subst word
    obtain ⟨run, others, rfl, inside, ends⟩ := exists_run isClauseCharacter rest
    rw [take_while_run inside ends, drop_while_run inside ends] at given
    split at given
    next fits =>
      obtain ⟨gap, clause, blanks, names, rfl⟩ := clause_fits_sound inside fits
      obtain ⟨quoted, rfl, last, source⟩ := quoted_sound given
      refine ⟨_, ?_, ?_, .statement starts blanks names source⟩
      · simp only [List.append_assoc]
      · exact last_of_append (last_of_append (last_of_append (last_of_append last)))
    · simp at given
  complete := by
    intro before written specifier rest here
    cases here with
    | @statement lead gap clause quoted _ starts blanks names source =>
        obtain ⟨closing, last, read⟩ := quoted_complete source
        refine ⟨closing, last_of_append (last_of_append (last_of_append (last_of_append last))),
          ?_⟩
        have ends : Ends isClauseCharacter (quoted ++ rest) :=
          source.ends (by decide) (by decide) rest
        have inside := clause_run blanks names
        have begins : ∀ tail, statement? before (lead ++ ("import".toList ++ tail)) =
            some ("import".toList ++ tail) := fun tail =>
          statement_complete starts (by simp) (ends_append (by decide) _)
            (ends_append (by decide) _)
        have shape : lead ++ ("import".toList ++ (gap ++ (clause ++ quoted))) ++ rest =
            lead ++ ("import".toList ++ (gap ++ clause ++ (quoted ++ rest))) := by
          simp only [List.append_assoc]
        simp only [staticImport, readStaticImport, shape, begins, after_word, bind,
          Option.bind_some, take_while_run inside ends, drop_while_run inside ends,
          clause_fits_complete blanks names, if_true, read]

end StaticImport

section ExportFrom

variable {text rest : List Char}

theorem after_from_sound (given : afterFrom? text = some rest) :
    ∃ space, SomeBlanks space ∧ text = "from".toList ++ (space ++ rest) := by
  simp only [afterFrom?, Option.bind_eq_some_iff, after_eq_some_iff] at given
  obtain ⟨middle, rfl, blanks⟩ := given
  obtain ⟨space, filled, rfl, -⟩ := exists_blanks blanks
  exact ⟨space, filled, rfl⟩

theorem after_from_complete {space : List Char} (blanks : SomeBlanks space)
    (ends : Ends isBlank rest) : afterFrom? ("from".toList ++ (space ++ rest)) = some rest := by
  rw [afterFrom?, after_word, Option.bind_some, after_blanks_run blanks ends]

theorem after_loose_from_sound (given : afterFrom? (skipBlanks text) = some rest) :
    ∃ space last, (∀ character ∈ space, isBlank character = true) ∧ SomeBlanks last ∧
      text = space ++ ("from".toList ++ (last ++ rest)) := by
  obtain ⟨space, others, rfl, blank, ends⟩ := exists_run isBlank text
  rw [skip_blanks_run blank ends] at given
  obtain ⟨last, filled, rfl⟩ := after_from_sound given
  exact ⟨space, last, blank, filled, rfl⟩

theorem after_loose_from_complete {space last : List Char}
    (blank : ∀ character ∈ space, isBlank character = true) (blanks : SomeBlanks last)
    (ends : Ends isBlank rest) :
    afterFrom? (skipBlanks (space ++ ("from".toList ++ (last ++ rest)))) = some rest := by
  rw [skip_blanks_run blank (ends_append (by decide) _), after_from_complete blanks ends]

theorem name_character_iff {character : Char} : isNameCharacter character = true ↔
    isWord character = true ∨ character = '$' := by
  simp [isNameCharacter]

theorem blank_ends_name {gap : List Char} (blanks : SomeBlanks gap) (rest : List Char) :
    Ends isNameCharacter (gap ++ rest) := by
  obtain ⟨character, others, blank, rfl⟩ := blanks.exists_cons
  refine ends_cons_iff.2 ?_
  rw [isNameCharacter, not_word_of_blank blank, Bool.false_or, decide_eq_false_iff_not]
  rintro rfl
  revert blank
  decide

theorem name_ends_blank {name : List Char} (filled : name ≠ [])
    (inside : ∀ character ∈ name, isWord character = true ∨ character = '$')
    (rest : List Char) : Ends isBlank (name ++ rest) := by
  obtain ⟨character, others, rfl⟩ := List.exists_cons_of_ne_nil filled
  refine ends_cons_iff.2 (Bool.eq_false_iff.2 fun blank => ?_)
  rcases inside character List.mem_cons_self with word | rfl
  · simp [not_word_of_blank blank] at word
  · revert blank
    decide

/-- An alias is followed by blanks, then the word `from`; without blanks the word ends the name. -/
theorem after_alias_sound (given : afterAlias? text = some rest) :
    ∃ name space last, name ≠ [] ∧
      (∀ character ∈ name, isWord character = true ∨ character = '$') ∧
      (∀ character ∈ space, isBlank character = true) ∧ SomeBlanks last ∧
      text = name ++ (space ++ ("from".toList ++ (last ++ rest))) := by
  obtain ⟨name, others, rfl, inside, ends⟩ := exists_run isNameCharacter text
  simp only [afterAlias?, take_while_run inside ends, drop_while_run inside ends] at given
  split at given
  · simp at given
  next filled =>
    split at given
    next after found =>
      cases given
      obtain ⟨space, last, blank, blanks, rfl⟩ := after_loose_from_sound found
      exact ⟨name, space, last, by simpa using filled,
        fun character member => name_character_iff.1 (inside character member), blank, blanks, rfl⟩
    · split at given
      next ended =>
        simp only [Bool.and_eq_true, decide_eq_true_eq, List.isSuffixOf_iff_suffix] at ended
        obtain ⟨long, front, rfl⟩ := ended
        obtain ⟨last, blanks, rfl, -⟩ := exists_blanks given
        refine ⟨front, [], last, ?_, ?_, by simp, blanks, by simp only [List.append_assoc]; rfl⟩
        · rintro rfl
          simp at long
        · intro character member
          exact name_character_iff.1 (inside character (List.mem_append_left _ member))
      · simp at given

theorem after_alias_complete {name space last quoted specifier : List Char} (filled : name ≠ [])
    (inside : ∀ character ∈ name, isWord character = true ∨ character = '$')
    (blank : ∀ character ∈ space, isBlank character = true) (blanks : SomeBlanks last)
    (source : Quoted quoted specifier) (rest : List Char) :
    afterAlias? (name ++ (space ++ ("from".toList ++ (last ++ (quoted ++ rest))))) =
      some (quoted ++ rest) := by
  have named : ∀ character ∈ name, isNameCharacter character = true :=
    fun character member => name_character_iff.2 (inside character member)
  have quote : Ends isBlank (quoted ++ rest) := source.ends (by decide) (by decide) rest
  rw [afterAlias?]
  rcases List.eq_nil_or_concat space with rfl | ⟨others, final, shape⟩
  · -- The run of name characters takes the word `from` with it.
    have long : ∀ character ∈ name ++ "from".toList, isNameCharacter character = true := by
      intro character member
      rcases List.mem_append.1 member with name | word
      · exact named character name
      · have letters : "from".toList.all isNameCharacter = true := by decide
        exact List.all_eq_true.1 letters character word
    have whole : name ++ ([] ++ ("from".toList ++ (last ++ (quoted ++ rest)))) =
        (name ++ "from".toList) ++ (last ++ (quoted ++ rest)) := by simp
    have stuck : afterFrom? (skipBlanks (last ++ (quoted ++ rest))) = none := by
      obtain ⟨character, tail, either, rfl⟩ := source.head
      have other : "from".toList.head? ≠ (character :: tail ++ rest).head? := by
        rcases either with rfl | rfl
        · simp
        · simp
      rw [skip_blanks_run blanks.blank quote, afterFrom?, after_eq_none (by decide) other]
      rfl
    have some := List.length_pos_of_ne_nil filled
    have ended : "from".toList.isSuffixOf (name ++ "from".toList) = true :=
      List.isSuffixOf_iff_suffix.2 (List.suffix_append _ _)
    simp only [whole, take_while_run long (blank_ends_name blanks _),
      drop_while_run long (blank_ends_name blanks _), stuck, ended, Bool.and_true,
      after_blanks_run blanks quote]
    rw [if_neg (by simp [filled]), if_pos (by simp; omega)]
  · have some : SomeBlanks space := ⟨by simp [shape], blank⟩
    simp only [take_while_run named (blank_ends_name some _),
      drop_while_run named (blank_ends_name some _), after_loose_from_complete blank blanks quote]
    rw [if_neg (by simp [filled])]

theorem after_exported_sound (given : afterExported? text = some rest) :
    ∃ exported space last, Exported exported ∧ (∀ character ∈ space, isBlank character = true) ∧
      SomeBlanks last ∧ text = exported ++ (space ++ ("from".toList ++ (last ++ rest))) := by
  simp only [afterExported?] at given
  split at given
  next others =>
    simp only [afterStar?] at given
    split at given
    next name found =>
      simp only [Option.bind_eq_some_iff, after_eq_some_iff] at found
      obtain ⟨second, ⟨first, before, rfl⟩, behind⟩ := found
      obtain ⟨gap, blanks, rfl, -⟩ := exists_blanks before
      obtain ⟨middle, final, rfl, -⟩ := exists_blanks behind
      obtain ⟨name, space, last, filled, inside, blank, ended, rfl⟩ := after_alias_sound given
      exact ⟨_, space, last, .alias blanks final filled inside, blank, ended, by
        simp only [List.append_assoc, List.cons_append]⟩
    · obtain ⟨space, last, blank, ended, rfl⟩ := after_loose_from_sound given
      exact ⟨['*'], space, last, .star, blank, ended, rfl⟩
  next others =>
    simp only [afterGroup?] at given
    split at given
    next inner shape =>
      obtain ⟨names, tail, rfl, plain, ends⟩ := exists_run (!isBrace ·) others
      rw [drop_while_run plain ends] at shape
      subst shape
      obtain ⟨space, last, blank, ended, rfl⟩ := after_loose_from_sound given
      refine ⟨'\x7b' :: (names ++ ['\x7d']), space, last, .group ?_, blank, ended, by simp⟩
      intro character member
      simpa [isBrace] using plain character member
    · simp at given
  · simp at given

theorem after_exported_complete {exported space last quoted specifier : List Char}
    (names : Exported exported) (blank : ∀ character ∈ space, isBlank character = true)
    (blanks : SomeBlanks last) (source : Quoted quoted specifier) (rest : List Char) :
    afterExported? (exported ++ (space ++ ("from".toList ++ (last ++ (quoted ++ rest))))) =
      some (quoted ++ rest) := by
  have quote : Ends isBlank (quoted ++ rest) := source.ends (by decide) (by decide) rest
  cases names with
  | star =>
      have unnamed : ((afterBlanks? (space ++ ("from".toList ++ (last ++ (quoted ++ rest))))).bind
          (after? "as".toList ·)).bind afterBlanks? = none := by
        rcases List.eq_nil_or_concat space with rfl | ⟨others, final, shape⟩
        · rw [List.nil_append, after_blanks_none (ends_append (by decide) _)]
          rfl
        · have some : SomeBlanks space := ⟨by simp [shape], blank⟩
          rw [after_blanks_run some (ends_append (by decide) _), Option.bind_some,
            after_eq_none (by decide) (by simp)]
          rfl
      rw [List.singleton_append, afterExported?, afterStar?, unnamed]
      exact after_loose_from_complete blank blanks quote
  | @«alias» gap middle name first final filled inside =>
      have whole : ('*' :: (gap ++ ("as".toList ++ (middle ++ name)))) ++
          (space ++ ("from".toList ++ (last ++ (quoted ++ rest)))) =
          '*' :: (gap ++ ("as".toList ++ (middle ++ (name ++
            (space ++ ("from".toList ++ (last ++ (quoted ++ rest)))))))) := by
        simp only [List.cons_append, List.append_assoc]
      rw [whole, afterExported?, afterStar?, after_blanks_run first (ends_append (by decide) _),
        Option.bind_some, after_word, Option.bind_some,
        after_blanks_run final (name_ends_blank filled inside _)]
      exact after_alias_complete filled inside blank blanks source rest
  | @group names plain =>
      have inside : ∀ character ∈ names, (!isBrace character) = true := by
        intro character member
        simpa [isBrace] using plain character member
      have whole : ('\x7b' :: (names ++ ['\x7d'])) ++
          (space ++ ("from".toList ++ (last ++ (quoted ++ rest)))) =
          '\x7b' :: (names ++ ('\x7d' :: (space ++
            ("from".toList ++ (last ++ (quoted ++ rest)))))) := by
        simp
      rw [whole, afterExported?, afterGroup?, drop_while_run inside (ends_cons_iff.2 (by decide))]
      exact after_loose_from_complete blank blanks quote

theorem skip_type_sound (text : List Char) :
    ∃ type, TypeWord type ∧ text = type ++ skipType text := by
  simp only [skipType]
  cases found : (after? "type".toList text).bind afterBlanks? with
  | none => exact ⟨[], .absent, rfl⟩
  | some rest =>
      simp only [Option.bind_eq_some_iff, after_eq_some_iff] at found
      obtain ⟨middle, rfl, blanks⟩ := found
      obtain ⟨gap, filled, rfl, -⟩ := exists_blanks blanks
      exact ⟨"type".toList ++ gap, .present filled, by simp⟩

theorem exported_head {exported : List Char} (names : Exported exported) :
    ∃ character others, (character = '*' ∨ character = '\x7b') ∧
      exported = character :: others := by
  cases names with
  | star => exact ⟨_, _, Or.inl rfl, rfl⟩
  | «alias» => exact ⟨_, _, Or.inl rfl, rfl⟩
  | group => exact ⟨_, _, Or.inr rfl, rfl⟩

theorem type_ends_blank {type exported : List Char} (typed : TypeWord type)
    (names : Exported exported) (rest : List Char) : Ends isBlank (type ++ (exported ++ rest)) := by
  cases typed with
  | absent =>
      obtain ⟨character, others, either, rfl⟩ := exported_head names
      rcases either with rfl | rfl <;> exact ends_cons_iff.2 (by decide)
  | present =>
      rw [List.append_assoc]
      exact ends_append (by decide) _

theorem skip_type_complete {type exported : List Char} (typed : TypeWord type)
    (names : Exported exported) (rest : List Char) :
    skipType (type ++ (exported ++ rest)) = exported ++ rest := by
  obtain ⟨character, others, either, rfl⟩ := exported_head names
  cases typed with
  | absent =>
      have other : "type".toList.head? ≠ (character :: others ++ rest).head? := by
        rcases either with rfl | rfl
        · simp
        · simp
      rw [List.nil_append, skipType, after_eq_none (by decide) other]
      rfl
  | present blanks =>
      have ends : Ends isBlank (character :: others ++ rest) :=
        type_ends_blank .absent names rest
      rw [List.append_assoc, skipType, after_word, Option.bind_some, after_blanks_run blanks ends]
      rfl

theorem export_from_reads : exportFrom.Reads ExportFrom where
  sound := by
    intro before text occurrence given
    simp only [exportFrom, readExportFrom, bind, Option.bind_eq_some_iff] at given
    obtain ⟨start, atStart, rest, word, names, gapped, source, exported, given⟩ := given
    obtain ⟨lead, starts, rfl⟩ := statement_sound atStart
    rw [after_eq_some_iff] at word
    subst word
    obtain ⟨gap, blanks, rfl, -⟩ := exists_blanks gapped
    obtain ⟨type, typed, shape⟩ := skip_type_sound names
    obtain ⟨listed, space, final, exports, loose, closing, whole⟩ := after_exported_sound exported
    obtain ⟨quoted, rfl, last, literal⟩ := quoted_sound given
    refine ⟨_, ?_, ?_, .statement starts blanks typed exports loose closing literal⟩
    · rw [shape, whole]
      simp only [List.append_assoc]
    · iterate 8 apply last_of_append
      exact last
  complete := by
    intro before written specifier rest here
    cases here with
    | @statement lead gap type exported space final quoted _ starts blanks typed names loose closing
        source =>
        obtain ⟨ending, last, read⟩ := quoted_complete source
        refine ⟨ending, ?_, ?_⟩
        · iterate 8 apply last_of_append
          exact last
        · have whole : lead ++ ("export".toList ++ (gap ++ (type ++ (exported ++ (space ++
              ("from".toList ++ (final ++ quoted))))))) ++ rest =
              lead ++ ("export".toList ++ (gap ++ (type ++ (exported ++ (space ++
                ("from".toList ++ (final ++ (quoted ++ rest)))))))) := by
            simp only [List.append_assoc]
          have begins : ∀ tail, statement? before (lead ++ ("export".toList ++ tail)) =
              some ("export".toList ++ tail) := fun tail =>
            statement_complete starts (by simp) (ends_append (by decide) _)
              (ends_append (by decide) _)
          simp only [exportFrom, readExportFrom, bind, whole, begins, after_word, Option.bind_some,
            after_blanks_run blanks (type_ends_blank typed names _),
            skip_type_complete typed names, after_exported_complete names loose closing source,
            read]

end ExportFrom

section Call

/-- The name of a function starts with a word character, so a call of it starts at a boundary just
where no word character comes before. -/
theorem boundary_iff {before : Option Char} {function : List Char}
    (word : function.head?.any isWord = true) :
    Boundary before function.head? ↔ before.any isWord = false := by
  rw [Boundary, word]
  simp

theorem call_sound {name function : String} (word : function.toList.head?.any isWord = true)
    {before : Option Char} {text : List Char} {occurrence : Occurrence}
    (given : (call name function).read before text = some occurrence) :
    ∃ written, text = written ++ occurrence.rest ∧
      written.getLast? = some occurrence.closing ∧
        Call function.toList before written occurrence.specifier := by
  simp only [call, readCall] at given
  split at given
  · simp at given
  next free =>
    simp only [bind, Option.bind_eq_some_iff, after_eq_some_iff] at given
    obtain ⟨rest, rfl, given⟩ := given
    obtain ⟨outer, others, rfl, outside, ends⟩ := exists_run isBlank rest
    rw [skip_blanks_run outside ends] at given
    split at given
    next argument =>
      simp only [Option.bind_eq_some_iff] at given
      obtain ⟨literal, quote, closed⟩ := given
      obtain ⟨inner, tail, rfl, inside, opens⟩ := exists_run isBlank argument
      rw [skip_blanks_run inside opens] at quote
      obtain ⟨quoted, rfl, -, source⟩ := quoted_sound quote
      obtain ⟨space, blank, shape, closing, same⟩ := parenthesised_sound closed
      rw [shape, closing, same]
      refine ⟨_, ?_, ?_, .expression ?_ outside inside source blank⟩
      · simp only [List.append_assoc, List.cons_append, List.nil_append]
      · exact last_of_append (last_of_append (last_of_cons (last_of_append (last_of_append
          (last_of_append rfl)))))
      · exact (boundary_iff word).2 (by simpa using free)
    · simp at given

/-- The steps of the reader one after another: the name, blanks to the parenthesis, blanks to the
quote, the literal, blanks to the closing parenthesis. -/
theorem read_call_written {function : String} {before : Option Char} {outer inner space quoted
    specifier : List Char} (free : before.any isWord = false)
    (outside : ∀ character ∈ outer, isBlank character = true)
    (inside : ∀ character ∈ inner, isBlank character = true)
    (source : Quoted quoted specifier) (blank : ∀ character ∈ space, isBlank character = true)
    (rest : List Char) :
    readCall function before (function.toList ++ (outer ++ ('(' :: (inner ++ (quoted ++
      (space ++ (')' :: rest))))))) = some ⟨specifier, ')', rest⟩ := by
  obtain ⟨closing, -, read⟩ := quoted_complete source
  have quote : Ends isBlank (quoted ++ (space ++ (')' :: rest))) :=
    source.ends (by decide) (by decide) _
  have opened : ∀ tail, skipBlanks (outer ++ ('(' :: tail)) = '(' :: tail := fun tail =>
    skip_blanks_run outside (ends_cons_iff.2 (by decide))
  simp only [readCall, free, bind, after_word, Option.bind_some, opened,
    skip_blanks_run inside quote, read, parenthesised_complete blank]
  rfl

theorem call_reads {name function : String} (word : function.toList.head?.any isWord = true) :
    (call name function).Reads (Call function.toList) where
  sound := call_sound word
  complete := by
    intro before written specifier rest here
    cases here with
    | @expression outer inner space quoted _ free outside inside source blank =>
        refine ⟨')', ?_, ?_⟩
        · exact last_of_append (last_of_append (last_of_cons (last_of_append (last_of_append
            (last_of_append rfl)))))
        · have whole : function.toList ++ (outer ++ ('(' :: (inner ++ (quoted ++
              (space ++ [')']))))) ++ rest = function.toList ++ (outer ++ ('(' :: (inner ++
                (quoted ++ (space ++ (')' :: rest)))))) := by
            simp only [List.append_assoc, List.cons_append, List.nil_append]
          rw [whole]
          exact read_call_written ((boundary_iff word).1 free) outside inside source blank rest

end Call

end ImportImpact.Form
