import ImportImpact.Import.Form

/-!
The import forms of scripts. A static `import` or `export … from` begins a statement: at the
start of a line or after one of `;`, `{`, `}` and `>`. The calls `require(…)` and `import(…)` may
stand anywhere after a character that is not of a word.
-/

namespace ImportImpact.Form

open Text

def opensStatement (character : Char) : Bool :=
  character = ';' || character = '\x7b' || character = '\x7d' || character = '>'

def atLineStart (before : Option Char) : Bool := before.isNone || before = some '\n'

def statement? (before : Option Char) (text : List Char) : Option (List Char) :=
  match text with
  | [] => none
  | character :: rest =>
      if opensStatement character then some (rest.dropWhile isTabOrSpace)
      else if atLineStart before then some (text.dropWhile isTabOrSpace)
      else none

theorem statement_length {before : Option Char} {text rest : List Char}
    (given : statement? before text = some rest) : rest.length ≤ text.length := by
  cases text with
  | nil => simp [statement?] at given
  | cons character tail =>
      simp only [statement?] at given
      split at given
      · simp only [Option.some.injEq] at given
        subst given
        exact Nat.le_succ_of_le (drop_while_length_le _ _)
      · split at given
        · simp only [Option.some.injEq] at given
          subst given
          exact drop_while_length_le _ _
        · simp at given

/-- The characters of an import clause; blanks and line ends are among them. -/
def isClauseCharacter (character : Char) : Bool :=
  isWord character || character = '$' || character = '*' || character = '\x7b' ||
    character = '\x7d' || character = ',' || isBlank character

def framed (part : List Char) : Bool :=
  2 < part.length && part.head?.any isBlank && part.getLast?.any isBlank

/-- What stands between `import` and the quote: blanks, or a framed clause and `from` and
blanks. -/
def clauseFits (gap : List Char) : Bool :=
  gap.head?.any isBlank && gap.getLast?.any isBlank &&
    match gap.reverse.dropWhile isBlank with
    | [] => true
    | 'm' :: 'o' :: 'r' :: 'f' :: part => framed part
    | _ => false

def readStaticImport (before : Option Char) (text : List Char) : Option Occurrence := do
  let start ← statement? before text
  let rest ← after? "import".toList start
  if clauseFits (rest.takeWhile isClauseCharacter) then
    Occurrence.quoted? (rest.dropWhile isClauseCharacter)
  else none

def staticImport : Form where
  name := "import"
  read := readStaticImport
  shorter given := by
    simp only [readStaticImport, bind, Option.bind_eq_some_iff] at given
    obtain ⟨start, atStart, rest, afterWord, given⟩ := given
    split at given
    · have ended := Occurrence.quoted_shorter given
      have dropped := drop_while_length_le isClauseCharacter rest
      have word := after_length afterWord
      have := statement_length atStart
      omega
    · simp at given

def afterFrom? (text : List Char) : Option (List Char) :=
  (after? "from".toList text).bind afterBlanks?

theorem after_from_length {text rest : List Char} (given : afterFrom? text = some rest) :
    rest.length < text.length := by
  simp only [afterFrom?, Option.bind_eq_some_iff] at given
  obtain ⟨middle, word, blanks⟩ := given
  have := after_length word
  have := after_blanks_length blanks
  omega

/-- What is left after the name that follows `as` and the word `from` with its blanks. The name
takes all it can, so without a blank between them the word is found at the end of the name. -/
def afterAlias? (text : List Char) : Option (List Char) :=
  let name := text.takeWhile isNameCharacter
  let rest := text.dropWhile isNameCharacter
  if name.isEmpty then none
  else match afterFrom? (skipBlanks rest) with
    | some after => some after
    | none =>
        if 4 < name.length && "from".toList.isSuffixOf name then afterBlanks? rest else none

theorem after_alias_length {text rest : List Char} (given : afterAlias? text = some rest) :
    rest.length < text.length := by
  have dropped := drop_while_length_le isNameCharacter text
  simp only [afterAlias?] at given
  split at given
  · simp at given
  · split at given
    next after found =>
      simp only [Option.some.injEq] at given
      subst given
      have := after_from_length found
      have := drop_while_length_le isBlank (text.dropWhile isNameCharacter)
      simp only [skipBlanks] at *
      omega
    · split at given
      · have := after_blanks_length given
        omega
      · simp at given

def afterStar? (text : List Char) : Option (List Char) :=
  match (afterBlanks? text).bind (after? "as".toList ·) |>.bind afterBlanks? with
  | some name => afterAlias? name
  | none => afterFrom? (skipBlanks text)

theorem after_star_length {text rest : List Char} (given : afterStar? text = some rest) :
    rest.length < text.length := by
  simp only [afterStar?] at given
  split at given
  next name found =>
    simp only [Option.bind_eq_some_iff] at found
    obtain ⟨second, ⟨first, blanks, word⟩, blanksAgain⟩ := found
    have := after_blanks_length blanks
    have := after_length word
    have := after_blanks_length blanksAgain
    have := after_alias_length given
    omega
  · have := after_from_length given
    have := drop_while_length_le isBlank text
    simp only [skipBlanks] at *
    omega

def isBrace (character : Char) : Bool := character = '\x7b' || character = '\x7d'

def afterGroup? (text : List Char) : Option (List Char) :=
  match text.dropWhile (!isBrace ·) with
  | '\x7d' :: rest => afterFrom? (skipBlanks rest)
  | _ => none

theorem after_group_length {text rest : List Char} (given : afterGroup? text = some rest) :
    rest.length < text.length := by
  simp only [afterGroup?] at given
  split at given
  next inner shape =>
    have := drop_while_length_le (!isBrace ·) text
    rw [shape] at this
    have := after_from_length given
    have := drop_while_length_le isBlank inner
    simp only [skipBlanks, List.length_cons] at *
    omega
  · simp at given

def afterExported? (text : List Char) : Option (List Char) :=
  match text with
  | '*' :: rest => afterStar? rest
  | '\x7b' :: rest => afterGroup? rest
  | _ => none

theorem after_exported_length {text rest : List Char} (given : afterExported? text = some rest) :
    rest.length < text.length := by
  simp only [afterExported?] at given
  split at given
  · have := after_star_length given
    simp only [List.length_cons]; omega
  · have := after_group_length given
    simp only [List.length_cons]; omega
  · simp at given

def skipType (text : List Char) : List Char :=
  ((after? "type".toList text).bind afterBlanks?).getD text

theorem skip_type_length (text : List Char) : (skipType text).length ≤ text.length := by
  simp only [skipType]
  cases found : (after? "type".toList text).bind afterBlanks? with
  | none => simp
  | some rest =>
      simp only [Option.bind_eq_some_iff] at found
      obtain ⟨middle, word, blanks⟩ := found
      have := after_length word
      have := after_blanks_length blanks
      simp only [Option.getD_some]; omega

def readExportFrom (before : Option Char) (text : List Char) : Option Occurrence := do
  let start ← statement? before text
  let rest ← after? "export".toList start
  let names ← afterBlanks? rest
  let source ← afterExported? (skipType names)
  Occurrence.quoted? source

def exportFrom : Form where
  name := "export_from"
  read := readExportFrom
  shorter given := by
    simp only [readExportFrom, bind, Option.bind_eq_some_iff] at given
    obtain ⟨start, atStart, rest, word, names, blanks, source, exported, given⟩ := given
    have := statement_length atStart
    have := after_length word
    have := after_blanks_length blanks
    have := skip_type_length names
    have := after_exported_length exported
    have := Occurrence.quoted_shorter given
    omega

def readCall (function : String) (before : Option Char) (text : List Char) :
    Option Occurrence :=
  if before.any isWord then none
  else do
    let rest ← after? function.toList text
    match skipBlanks rest with
    | '(' :: inner => (← Occurrence.quoted? (skipBlanks inner)).parenthesised?
    | _ => none

def call (name function : String) : Form where
  name := name
  read := readCall function
  shorter given := by
    simp only [readCall] at given
    split at given
    · simp at given
    · simp only [bind, Option.bind_eq_some_iff] at given
      obtain ⟨rest, word, given⟩ := given
      split at given
      next inner shape =>
        simp only [Option.bind_eq_some_iff] at given
        obtain ⟨occurrence, quoted, closed⟩ := given
        have := after_length word
        have open_ := drop_while_length_le isBlank rest
        rw [← skipBlanks, shape] at open_
        have := drop_while_length_le isBlank inner
        have := Occurrence.quoted_shorter quoted
        have := Occurrence.parenthesised_shorter closed
        simp only [skipBlanks, List.length_cons] at *
        omega
      · simp at given

def scriptForms : List Form :=
  [staticImport, exportFrom, call "require" "require", call "dynamic_import" "import"]

end ImportImpact.Form
