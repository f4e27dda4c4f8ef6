import ImportImpact.Text.Quoted
import ImportImpact.Yaml.Meaning
import ImportImpact.Yaml.Plain
import ImportImpact.Yaml.Quoted

/-!
How a text is written in a YAML document: plain where it reads back as itself, in single quotes
where it would not, and in double quotes where it holds characters that need an escape. Lines
that grow too long are broken at single spaces.
-/

namespace ImportImpact.Yaml

inductive Style where
  | plain
  | single
  | double
  deriving DecidableEq

def isVisible (character : Char) : Bool := ' ' ≤ character && character ≤ '~'

def isGap (character : Char) : Bool := character = ' ' || character = '\n'

def gapFirst (text : List Char) : Bool := text.head?.all isGap

def leadingSigns : List Char :=
  ['#', ',', '[', ']', '\x7b', '\x7d', '&', '*', '!', '|', '>', '\'', '"', '%', '@',
   Char.ofNat 0x60]

def holdsSign (afterGap : Bool) : List Char → Bool
  | [] => false
  | character :: rest =>
      character = ':' && gapFirst rest || character = '#' && afterGap ||
        holdsSign (isGap character) rest

def beginsWithSign (text : List Char) : Bool :=
  match text with
  | [] => false
  | first :: rest =>
      leadingSigns.contains first ||
        (first = '-' || first = '?' || first = ':') && gapFirst rest

def beginsWithMark (text : List Char) : Bool :=
  ['-', '-', '-'].isPrefixOf text || ['.', '.', '.'].isPrefixOf text

/-- The text reads back as itself without quotes. -/
def plainText (text : List Char) : Bool :=
  text.all isVisible && text.head? != some ' ' && text.getLast? != some ' ' &&
    !beginsWithMark text && !beginsWithSign text && !holdsSign true text &&
    (Meaning.ofText text).isText

def brokenSpace : List Char → Bool
  | [] => false
  | character :: rest =>
      (character = ' ' && rest.head? = some '\n' || character = '\n' && rest.head? = some ' ') ||
        brokenSpace rest

/-- Quotes suffice. Keys stay on one line. -/
def singleText (key : Bool) (text : List Char) : Bool :=
  text.all (fun character => isVisible character || character = '\n') &&
    !brokenSpace text && !(key && text.contains '\n')

def styleFor (key : Bool) (text : List Char) : Style :=
  if plainText text then .plain else if singleText key text then .single else .double

def widest : Nat := 80

def newLine (indentation : Nat) : List Char := '\n' :: List.replicate indentation ' '

/-- Where a text begins and whether and how far its further lines are indented. -/
structure Frame where
  column : Nat
  broken : Bool
  indentation : Nat

/-- Writes a text with quotes doubled. A single space between words of a line that is too long
becomes a new line; a line end becomes one line more than there were. `gap` holds spaces or line
ends that have been read but not written; `inside` says that something was written before. -/
def foldedFrom (frame : Frame) (double : Bool) (column : Nat) (inside : Bool) (gap : List Char) :
    List Char → List Char
  | [] => closeGap column gap
  | character :: rest =>
      if isGap character && (gap.isEmpty || gap.head? = some character) then
        foldedFrom frame double column inside (character :: gap) rest
      else
        let (opened, column) := openGap column gap
        if isGap character then opened ++ foldedFrom frame double column true [character] rest
        else
          let written := if double && character = '\'' then ['\'', '\''] else [character]
          opened ++ written ++ foldedFrom frame double (column + written.length) true [] rest
where
  lineEnds (gap : List Char) : List Char := List.replicate (gap.length + 1) '\n'
  closeGap (_column : Nat) (gap : List Char) : List Char :=
    if gap.head? = some '\n' then
      lineEnds gap ++ List.replicate frame.indentation ' '
    else gap
  openGap (column : Nat) (gap : List Char) : List Char × Nat :=
    if gap.head? = some '\n' then
      (lineEnds gap ++ List.replicate frame.indentation ' ', frame.indentation)
    else if gap.length = 1 && widest < column && frame.broken && inside then
      (newLine frame.indentation, frame.indentation)
    else (gap, column + gap.length)

def escaped? (character : Char) : Option (List Char) :=
  if isVisible character && character != '"' && character != '\\' then none
  else match writtenEscapes.find? fun entry => entry.2 = character with
    | some (letter, _) => some ['\\', letter]
    | none =>
        let code := character.toNat
        let digits (width : Nat) := (Text.lowerHexDigits width code).map Char.toUpper
        some (if code ≤ 0xFF then '\\' :: 'x' :: digits 2
          else if code ≤ 0xFFFF then '\\' :: 'u' :: digits 4
          else '\\' :: 'U' :: digits 8)
where
  writtenEscapes : List (Char × Char) :=
    escapes.filter fun entry => entry.1 != '\t' && entry.1 != ' ' && entry.1 != '/'

/-- Breaks a line: a backslash ends it, and another one keeps a space that begins the next
line. -/
def escapedBreak (frame : Frame) (next : Option Char) : List Char × Nat :=
  let opening := if next = some ' ' then ['\\'] else []
  ('\\' :: newLine frame.indentation ++ opening, frame.indentation + opening.length)

/-- Writes a text with escapes. `pending` counts the characters written since the last escape or
new line; `first` says that nothing was written before. A line is broken before a space and next
to an escape, but not before the last character. -/
def escapedFrom (frame : Frame) (column pending : Nat) (first : Bool) :
    List Char → List Char
  | [] => []
  | character :: rest =>
      let mayBreak := frame.broken && !first && !rest.isEmpty
      match escaped? character with
      | some written =>
          let column := column + pending + written.length
          if mayBreak && widest + 1 < column then
            let (ending, column) := escapedBreak frame rest.head?
            written ++ ending ++ escapedFrom frame column 0 false rest
          else written ++ escapedFrom frame column 0 false rest
      | none =>
          if mayBreak && (character = ' ' || pending = 0) && widest < column + pending then
            let (ending, column) := escapedBreak frame (some character)
            ending ++ character :: escapedFrom frame column 1 false rest
          else character :: escapedFrom frame column (pending + 1) false rest

def writeText (frame : Frame) (key : Bool) (text : List Char) : List Char :=
  match styleFor key text with
  | .plain => foldedFrom frame false frame.column false [] text
  | .single => '\'' :: foldedFrom frame true (frame.column + 1) false [] text ++ ['\'']
  | .double => '"' :: escapedFrom frame (frame.column + 1) 0 true text ++ ['"']

end ImportImpact.Yaml
