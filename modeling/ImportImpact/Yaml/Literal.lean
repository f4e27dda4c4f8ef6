import ImportImpact.Yaml.Place

/-!
Texts given as indented blocks of lines. After `|` line ends are kept, after `>` they are folded
between lines that are not indented further. The line ends at the end of the text are dropped,
reduced to one or kept.
-/

namespace ImportImpact.Yaml

inductive Chomping where
  | strip
  | clip
  | keep
  deriving DecidableEq

structure BlockHeader where
  folded : Bool
  chomping : Chomping
  indentation : Option Nat

def chomping? (character : Char) : Option Chomping :=
  if character = '-' then some .strip else if character = '+' then some .keep else none

def indentation? (character : Char) : Option Nat :=
  if character.isDigit && character != '0' then some (character.toNat - 48) else none

/-- The two signs may come in either order. -/
def blockHeader? (folded : Bool) (text : List Char) : Option BlockHeader :=
  let signs := text.takeWhile fun character =>
    (chomping? character).isSome || character.isDigit
  let left := text.drop signs.length
  let rest := left.dropWhile Place.isSpace
  let complete := rest.isEmpty || rest.head? = some '#' && rest.length < left.length
  let header : Option BlockHeader := match signs with
    | [] => some ⟨folded, .clip, none⟩
    | [sign] => match chomping? sign with
      | some chomping => some ⟨folded, chomping, none⟩
      | none => (indentation? sign).map fun count => ⟨folded, .clip, some count⟩
    | [first, second] => match chomping? first with
      | some chomping => (indentation? second).map fun count => ⟨folded, chomping, some count⟩
      | none => match indentation? first, chomping? second with
        | some count, some chomping => some ⟨folded, chomping, some count⟩
        | _, _ => none
    | _ => none
  if complete then header else none

def spacesBefore (line : List Char) : Nat := (line.takeWhile Place.isSpace).length

/-- The deepest indentation before the first line that is not empty, that line included. -/
def detectIndentation : List Line → Nat
  | [] => 0
  | line :: later =>
      let spaces := spacesBefore line.text
      if spaces = line.text.length then max spaces (detectIndentation later) else spaces

/-- A line of a block: what stands after its indentation, and the end of the line, if it has
one. -/
structure BlockLine where
  text : List Char
  ending : List Char

def cutBlock (indentation : Nat) : List Line → List BlockLine × List Line
  | [] => ([], [])
  | line :: later =>
      let spaces := spacesBefore line.text
      if indentation ≤ spaces || spaces = line.text.length then
        let (block, rest) := cutBlock indentation later
        (⟨line.text.drop indentation, (later.head?.map Line.opening).toList⟩ :: block, rest)
      else ([], line :: later)

def beginsBlank (text : List Char) : Bool := text.head?.any Text.isTabOrSpace

structure PendingEnd where
  ending : List Char
  foldable : Bool

/-- What takes the place of a line end before another line; `empty` are the ends of empty lines
in between. -/
def PendingEnd.glue (pending : PendingEnd) (folded : Bool) (empty text : List Char) :
    List Char :=
  if folded && pending.foldable && pending.ending = ['\n'] && !beginsBlank text then
    if empty.isEmpty then [' '] else []
  else pending.ending

def blockText (header : BlockHeader) (pending : Option PendingEnd) (empty : List Char) :
    List BlockLine → List Char
  | [] =>
      let ending := (pending.map PendingEnd.ending).getD []
      match header.chomping with
      | .strip => []
      | .clip => ending
      | .keep => ending ++ empty
  | line :: rest =>
      if line.text.isEmpty then blockText header pending (empty ++ line.ending) rest
      else
        let glue := match pending with
          | some pending => pending.glue header.folded empty line.text
          | none => []
        glue ++ empty ++ line.text ++
          blockText header (some ⟨line.ending, !beginsBlank line.text⟩) [] rest

def startOf (lines : List Line) : Place :=
  match lines with
  | [] => ⟨0, [], []⟩
  | line :: later => ⟨0, line.text, later⟩

def readBlockText? (folded : Bool) (least : Nat) (place : Place) :
    Option (List Char × Place) := do
  let header ← blockHeader? folded place.rest
  let least := max least 1
  let indentation := match header.indentation with
    | some count => least + count - 1
    | none => max least (detectIndentation place.later)
  let (block, rest) := cutBlock indentation place.later
  pure (blockText header none [] block, startOf rest)

end ImportImpact.Yaml
