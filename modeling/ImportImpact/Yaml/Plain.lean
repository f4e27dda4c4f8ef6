import ImportImpact.Yaml.Place

/-!
Texts without quotes. Such a text goes on over several lines as long as these are indented; it
ends before a comment and before a colon that ends a key. Among brackets it also ends before
every sign of a list or mapping, and indentation does not count.
-/

namespace ImportImpact.Yaml

def flowSigns : List Char := [',', '?', '[', ']', '\x7b', '\x7d']

def indicators : List Char :=
  ['-', '?', ':', ',', '[', ']', '\x7b', '\x7d', '#', '&', '*', '!', '|', '>', '\'', '"', '%',
   '@', Char.ofNat 0x60, ' ', '\t']

/-- A dash followed by something can begin a text, and outside of brackets a question mark or a
colon can, too. -/
def beginsPlain (flow : Bool) (text : List Char) : Bool :=
  match text with
  | [] => false
  | first :: rest =>
      !indicators.contains first ||
        !apart rest && (first = '-' || !flow && (first = '?' || first = ':'))

def endsKey (flow : Bool) (rest : List Char) : Bool :=
  apart rest || flow && rest.head?.any fun next => next != '?' && flowSigns.contains next

/-- The text of one line. `spaces` were read before; they count only if more text follows. Gives
also what is left of the line. -/
def plainOnLine (flow : Bool) (spaces : List Char) : List Char → List Char × List Char
  | [] => ([], [])
  | character :: rest =>
      if character = ' ' then plainOnLine flow (' ' :: spaces) rest
      else if character = '#' && !spaces.isEmpty || character = '\t'
          || character = ':' && endsKey flow rest || flow && flowSigns.contains character then
        ([], character :: rest)
      else
        let (text, left) := plainOnLine flow [] rest
        (spaces ++ character :: text, left)

def plainOnLines (flow : Bool) (least : Nat) (ends : List Char) :
    List Line → List Char × Place
  | [] => ([], ⟨0, [], []⟩)
  | line :: later =>
      let ends := ends ++ [line.opening]
      let visible := line.text.dropWhile Place.isSpace
      let column := line.text.length - visible.length
      if isMarker line.text then ([], ⟨0, line.text, later⟩)
      else if visible.isEmpty then plainOnLines flow least ends later
      else if visible.head? = some '#' || !flow && column < least then
        ([], ⟨column, visible, later⟩)
      else
        let (text, left) := plainOnLine flow [] visible
        if text.isEmpty then ([], ⟨column, visible, later⟩)
        else if left.isEmpty then
          let (more, place) := plainOnLines flow least [] later
          (foldLineEnds ends ++ text ++ more, place)
        else (foldLineEnds ends ++ text, (Place.mk column visible later).before left)

def readPlain (flow : Bool) (least : Nat) (place : Place) : List Char × Place :=
  let (text, left) := plainOnLine flow [] place.rest
  if left.isEmpty then
    let (more, after) := plainOnLines flow least [] place.later
    (text ++ more, after)
  else (text, place.before left)

end ImportImpact.Yaml
