import ImportImpact.Text.Blank
import ImportImpact.Text.Scan

/-!
Places in a YAML document. A document is read line by line: a place is what is left of one line,
the column where that begins, and the lines that follow. Between two parts of a document, spaces,
comments and line ends do not count; tabs do.
-/

namespace ImportImpact.Yaml

/-- A line together with the character that ended the line before it. -/
structure Line where
  opening : Char
  text : List Char
  deriving DecidableEq

def isLineEnd (character : Char) : Bool :=
  character = '\n' || character = '\u0085' || character = '\u2028' || character = '\u2029'

def endMark (character : Char) : Char := if character = '\u0085' then '\n' else character

def cutLines : List Char → List Char × List Line
  | [] => ([], [])
  | character :: rest =>
      let (line, later) := cutLines rest
      if isLineEnd character then ([], ⟨endMark character, line⟩ :: later)
      else (character :: line, later)

structure Place where
  column : Nat
  rest : List Char
  later : List Line
  deriving DecidableEq

def apart (text : List Char) : Bool := text.head?.all Text.isTabOrSpace

def opensDocument (line : List Char) : Bool :=
  match line with
  | '-' :: '-' :: '-' :: rest => apart rest
  | _ => false

def closesDocument (line : List Char) : Bool :=
  match line with
  | '.' :: '.' :: '.' :: rest => apart rest
  | _ => false

def isMarker (line : List Char) : Bool := opensDocument line || closesDocument line

namespace Place

def skip (place : Place) (count : Nat) : Place :=
  { place with column := place.column + count, rest := place.rest.drop count }

def before (place : Place) (rest : List Char) : Place :=
  { place with column := place.column + (place.rest.length - rest.length), rest }

def isSpace (character : Char) : Bool := character = ' '

def nextFrom (column : Nat) (rest : List Char) (later : List Line) : Place :=
  let visible := rest.dropWhile isSpace
  let column := column + (rest.length - visible.length)
  if visible.isEmpty || visible.head? = some '#' then
    match later with
    | [] => ⟨column, [], []⟩
    | line :: later => nextFrom 0 line.text later
  else ⟨column, visible, later⟩

def next (place : Place) : Place := nextFrom place.column place.rest place.later

def ended (place : Place) : Bool :=
  place.rest.isEmpty || place.column = 0 && isMarker place.rest

def sameLine (place other : Place) : Bool := place.later.length = other.later.length

def distance (place other : Place) : Nat := place.rest.length - other.rest.length

end Place

/-- The line ends between two lines of one text. A single line end counts as a space; of several,
the first does not count. Unusual line ends are kept. -/
def foldLineEnds : List Char → List Char
  | [] => []
  | ['\n'] => [' ']
  | '\n' :: others => others
  | marks => marks

end ImportImpact.Yaml
