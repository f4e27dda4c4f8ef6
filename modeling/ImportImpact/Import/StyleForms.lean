import ImportImpact.Import.Form

/-!
The import forms of style sheets: `@import` with a quoted specifier, `@import url(…)` with or
without quotes, `@use` and `@forward`.
-/

namespace ImportImpact.Form

open Text

def readDirective (word : String) (text : List Char) : Option Occurrence := do
  let rest ← after? word.toList text
  let source ← afterBlanks? rest
  Occurrence.quoted? source

theorem directive_shorter {word : String} {text : List Char} {occurrence : Occurrence}
    (given : readDirective word text = some occurrence) :
    occurrence.rest.length < text.length := by
  simp only [readDirective, bind, Option.bind_eq_some_iff] at given
  obtain ⟨rest, atWord, source, blanks, quoted⟩ := given
  have := after_length atWord
  have := after_blanks_length blanks
  have := Occurrence.quoted_shorter quoted
  omega

def styleImport : Form where
  name := "import"
  read _ text := readDirective "@import" text
  shorter given := directive_shorter given

def styleUse : Form where
  name := "use"
  read _ text := (readDirective "@use" text).or (readDirective "@forward" text)
  shorter given := by
    rcases Option.or_eq_some_iff.1 given with given | ⟨-, given⟩ <;> exact directive_shorter given

def skipQuote (text : List Char) : List Char :=
  match text with
  | character :: rest => if Occurrence.isQuote character then rest else text
  | [] => []

theorem skip_quote_length (text : List Char) : (skipQuote text).length ≤ text.length := by
  cases text with
  | nil => simp [skipQuote]
  | cons character rest => simp only [skipQuote]; split <;> simp

def isLocationCharacter (character : Char) : Bool :=
  !(Occurrence.isQuote character || character = ')' || isBlank character)

/-- The location in parentheses that have been opened. Either quote may be missing. -/
def readLocation (text : List Char) : Option Occurrence :=
  let inner := skipQuote (skipBlanks text)
  let location := inner.takeWhile isLocationCharacter
  if location.isEmpty then none
  else
    Occurrence.parenthesised? ⟨location, ')', skipQuote (inner.dropWhile isLocationCharacter)⟩

theorem location_shorter {text : List Char} {occurrence : Occurrence}
    (given : readLocation text = some occurrence) : occurrence.rest.length < text.length := by
  simp only [readLocation] at given
  split at given
  · simp at given
  · have closed := Occurrence.parenthesised_shorter given
    have := skip_quote_length
      ((skipQuote (skipBlanks text)).dropWhile isLocationCharacter)
    have := drop_while_length_le isLocationCharacter (skipQuote (skipBlanks text))
    have := skip_quote_length (skipBlanks text)
    have := drop_while_length_le isBlank text
    simp only [skipBlanks] at *
    omega

def readImportUrl (text : List Char) : Option Occurrence := do
  let rest ← after? "@import".toList text
  let function ← afterBlanks? rest
  let inner ← after? "url(".toList function
  readLocation inner

def styleImportUrl : Form where
  name := "import_url"
  read _ text := readImportUrl text
  shorter given := by
    simp only [readImportUrl, bind, Option.bind_eq_some_iff] at given
    obtain ⟨rest, word, function, blanks, inner, opened, given⟩ := given
    have := after_length word
    have := after_blanks_length blanks
    have := after_length opened
    have := location_shorter given
    omega

def styleForms : List Form := [styleImport, styleImportUrl, styleUse]

end ImportImpact.Form
