import ImportImpact.Proofs.Import.Quoted

/-!
The forms of style sheets read their grammar. Quotes around a location may be missing on either
side, and no quote belongs to a location, so it is seen at once whether one is there.
-/

namespace ImportImpact.Form

open Text Surface Occurrence

section Directive

variable {word : String}

theorem directive_sound {before : Option Char} {text : List Char} {occurrence : Occurrence}
    (given : readDirective word text = some occurrence) :
    ∃ written, text = written ++ occurrence.rest ∧ written.getLast? = some occurrence.closing ∧
      Directive word.toList before written occurrence.specifier := by
  simp only [readDirective, bind, Option.bind_eq_some_iff, after_eq_some_iff] at given
  obtain ⟨rest, rfl, source, gapped, given⟩ := given
  obtain ⟨gap, blanks, rfl, -⟩ := exists_blanks gapped
  obtain ⟨quoted, rfl, last, literal⟩ := quoted_sound given
  refine ⟨_, ?_, last_of_append (last_of_append last), .rule blanks literal⟩
  simp only [List.append_assoc]

theorem directive_complete {before : Option Char} {written specifier : List Char}
    (here : Directive word.toList before written specifier) :
    ∃ closing, written.getLast? = some closing ∧
      ∀ rest, readDirective word (written ++ rest) = some ⟨specifier, closing, rest⟩ := by
  cases here with
  | rule blanks source =>
      obtain ⟨closing, last, read⟩ := quoted_complete source
      refine ⟨closing, last_of_append (last_of_append last), fun rest => ?_⟩
      rw [List.append_assoc, List.append_assoc]
      simp only [readDirective, after_word, bind, Option.bind_some,
        after_blanks_run blanks (source.ends (by decide) (by decide) rest), read]

theorem style_import_reads : styleImport.Reads (Directive "@import".toList) where
  sound given := directive_sound given
  complete rest here := by
    obtain ⟨closing, last, read⟩ := directive_complete here
    exact ⟨closing, last, read rest⟩

theorem style_use_reads : styleUse.Reads StyleUse where
  sound := by
    intro before text occurrence given
    rcases Option.or_eq_some_iff.1 given with use | ⟨-, forward⟩
    · obtain ⟨written, shape, last, rule⟩ := directive_sound use
      exact ⟨written, shape, last, .use rule⟩
    · obtain ⟨written, shape, last, rule⟩ := directive_sound forward
      exact ⟨written, shape, last, .forward rule⟩
  complete := by
    intro before written specifier rest here
    cases here with
    | use rule =>
        obtain ⟨closing, last, read⟩ := directive_complete rule
        refine ⟨closing, last, ?_⟩
        simp only [styleUse, read, Option.or]
    | forward rule =>
        obtain ⟨closing, last, read⟩ := directive_complete rule
        refine ⟨closing, last, ?_⟩
        have other : readDirective "@use" (written ++ rest) = none := by
          cases rule with
          | rule => rw [List.append_assoc]; rfl
        simp only [styleUse, other, read, Option.or]

end Directive

section ImportUrl

theorem skip_quote_sound (text : List Char) :
    ∃ opening, QuoteOrNone opening ∧ text = opening ++ skipQuote text := by
  cases text with
  | nil => exact ⟨[], .absent, rfl⟩
  | cons character rest =>
      simp only [skipQuote]
      split
      next quote => exact ⟨[character], .present (is_quote_iff.1 quote), rfl⟩
      · exact ⟨[], .absent, rfl⟩

theorem skip_quote_complete {opening rest : List Char} (opens : QuoteOrNone opening)
    (ends : Ends isQuote rest) : skipQuote (opening ++ rest) = rest := by
  cases opens with
  | absent =>
      cases rest with
      | nil => rfl
      | cons character others => simp [skipQuote, ends character rfl]
  | present quote => simp [skipQuote, is_quote_iff.2 quote]

theorem location_character_iff {character : Char} : isLocationCharacter character = true ↔
    ¬Quote character ∧ character ≠ ')' ∧ isBlank character = false := by
  rw [← is_quote_iff]
  simp [isLocationCharacter, and_assoc]

theorem blank_ends_quote {space : List Char} (blank : ∀ character ∈ space, isBlank character = true)
    (rest : List Char) : Ends isQuote (space ++ (')' :: rest)) := by
  cases space with
  | nil => exact ends_cons_iff.2 (by decide)
  | cons character others =>
      refine ends_cons_iff.2 (Bool.eq_false_iff.2 fun quote => ?_)
      have := blank character List.mem_cons_self
      rcases is_quote_iff.1 quote with rfl | rfl
      · revert this
        decide
      · revert this
        decide

theorem quote_or_blank_ends_location {closing space : List Char} (closes : QuoteOrNone closing)
    (blank : ∀ character ∈ space, isBlank character = true) (rest : List Char) :
    Ends isLocationCharacter (closing ++ (space ++ (')' :: rest))) := by
  cases closes with
  | absent =>
      cases space with
      | nil => exact ends_cons_iff.2 (by decide)
      | cons character others =>
          exact ends_cons_iff.2 (by simp [isLocationCharacter, blank character List.mem_cons_self])
  | present quote => exact ends_cons_iff.2 (by simp [isLocationCharacter, is_quote_iff.2 quote])

theorem quote_or_location_ends_blank {opening location : List Char} (opens : QuoteOrNone opening)
    (filled : location ≠ [])
    (plain : ∀ character ∈ location, isLocationCharacter character = true) (rest : List Char) :
    Ends isBlank (opening ++ (location ++ rest)) ∧ Ends isQuote (location ++ rest) := by
  obtain ⟨first, others, rfl⟩ := List.exists_cons_of_ne_nil filled
  obtain ⟨noQuote, -, noBlank⟩ := location_character_iff.1 (plain first List.mem_cons_self)
  refine ⟨?_, ends_cons_iff.2 (Bool.eq_false_iff.2 fun quote => noQuote (is_quote_iff.1 quote))⟩
  cases opens with
  | absent => exact ends_cons_iff.2 noBlank
  | present quote => rcases quote with rfl | rfl <;> exact ends_cons_iff.2 (by decide)

theorem location_sound {text : List Char} {occurrence : Occurrence}
    (given : readLocation text = some occurrence) :
    ∃ inner opening closing space, (∀ character ∈ inner, isBlank character = true) ∧
      QuoteOrNone opening ∧ occurrence.specifier ≠ [] ∧
      (∀ character ∈ occurrence.specifier, isLocationCharacter character = true) ∧
      QuoteOrNone closing ∧ (∀ character ∈ space, isBlank character = true) ∧
      occurrence.closing = ')' ∧ text = inner ++ (opening ++ (occurrence.specifier ++ (closing ++
        (space ++ (')' :: occurrence.rest))))) := by
  obtain ⟨inner, others, rfl, inside, ends⟩ := exists_run isBlank text
  obtain ⟨opening, opens, shape⟩ := skip_quote_sound others
  simp only [readLocation, skip_blanks_run inside ends] at given
  obtain ⟨location, after, whole, plain, stops⟩ := exists_run isLocationCharacter (skipQuote others)
  rw [whole, take_while_run plain stops, drop_while_run plain stops] at given
  split at given
  · simp at given
  next filled =>
    obtain ⟨closing, closes, final⟩ := skip_quote_sound after
    obtain ⟨space, blank, rest, closed, same⟩ := parenthesised_sound given
    rw [same, closed]
    refine ⟨inner, opening, closing, space, inside, opens, by simpa using filled, plain, closes,
      blank, rfl, ?_⟩
    rw [← rest, ← final, ← whole, ← shape]

theorem location_complete {inner opening location closing space : List Char}
    (inside : ∀ character ∈ inner, isBlank character = true) (opens : QuoteOrNone opening)
    (filled : location ≠ [])
    (plain : ∀ character ∈ location, isLocationCharacter character = true)
    (closes : QuoteOrNone closing) (blank : ∀ character ∈ space, isBlank character = true)
    (rest : List Char) :
    readLocation (inner ++ (opening ++ (location ++ (closing ++ (space ++ (')' :: rest)))))) =
      some ⟨location, ')', rest⟩ := by
  have stops := quote_or_blank_ends_location closes blank rest
  obtain ⟨ends, begins⟩ := quote_or_location_ends_blank opens filled plain
    (closing ++ (space ++ (')' :: rest)))
  simp only [readLocation, skip_blanks_run inside ends, skip_quote_complete opens begins,
    take_while_run plain stops, drop_while_run plain stops,
    skip_quote_complete closes (blank_ends_quote blank rest), parenthesised_complete blank]
  rw [if_neg (by simp [filled])]

theorem style_import_url_reads : styleImportUrl.Reads ImportUrl where
  sound := by
    intro before text occurrence given
    simp only [styleImportUrl, readImportUrl, bind, Option.bind_eq_some_iff,
      after_eq_some_iff] at given
    obtain ⟨rest, rfl, function, gapped, argument, rfl, given⟩ := given
    obtain ⟨gap, blanks, rfl, -⟩ := exists_blanks gapped
    obtain ⟨inner, opening, closing, space, inside, opens, filled, plain, closes, blank, last,
      rfl⟩ := location_sound given
    refine ⟨_, ?_, ?_, .rule blanks inside opens filled
      (fun character member => location_character_iff.1 (plain character member)) closes blank⟩
    · simp only [List.append_assoc, List.cons_append, List.nil_append]
    · rw [last]
      iterate 8 apply last_of_append
      rfl
  complete := by
    intro before written specifier rest here
    cases here with
    | @rule gap inner opening _ closing space blanks inside opens filled plain closes blank =>
        refine ⟨')', ?_, ?_⟩
        · iterate 8 apply last_of_append
          rfl
        · have whole : "@import".toList ++ (gap ++ ("url(".toList ++ (inner ++ (opening ++
              (specifier ++ (closing ++ (space ++ [')']))))))) ++ rest =
              "@import".toList ++ (gap ++ ("url(".toList ++ (inner ++ (opening ++
                (specifier ++ (closing ++ (space ++ (')' :: rest)))))))) := by
            simp only [List.append_assoc, List.cons_append, List.nil_append]
          have gapped : ∀ tail, afterBlanks? (gap ++ ("url(".toList ++ tail)) =
              some ("url(".toList ++ tail) := fun tail =>
            after_blanks_run blanks (ends_append (by decide) _)
          have argument := location_complete inside opens filled
            (fun character member => location_character_iff.2 (plain character member)) closes
            blank rest
          simp only [styleImportUrl, readImportUrl, bind, whole, after_word, Option.bind_some,
            gapped, argument]

end ImportUrl

end ImportImpact.Form
