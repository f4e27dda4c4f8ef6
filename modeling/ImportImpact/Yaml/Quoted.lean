import ImportImpact.Yaml.Place

/-!
Texts in quotes. Between single quotes a quote is written twice; between double quotes a
backslash begins an escape. Line ends inside a text are folded and blanks around them dropped.
-/

namespace ImportImpact.Yaml

def escapes : List (Char × Char) :=
  [('0', '\x00'), ('a', '\x07'), ('b', '\x08'), ('t', '\t'), ('\t', '\t'), ('n', '\n'),
   ('v', '\x0b'), ('f', '\x0c'), ('r', '\r'), ('e', '\x1b'), (' ', ' '), ('"', '"'),
   ('\\', '\\'), ('/', '/'), ('N', '\u0085'), ('_', '\u00a0'), ('L', '\u2028'),
   ('P', '\u2029')]

def numberEscapes : List (Char × Nat) := [('x', 2), ('u', 4), ('U', 8)]

def hexadecimalValue? (digits : List Char) : Option Nat :=
  digits.foldlM (fun value digit =>
    if digit.isDigit then some (16 * value + (digit.toNat - 48))
    else if 'a' ≤ digit.toLower && digit.toLower ≤ 'f' then
      some (16 * value + (digit.toLower.toNat - 87))
    else none) 0

inductive LineOutcome where
  | closed (left : List Char)
  | broken
  | continued

def escape? (text : List Char) : Option (Char × Nat) :=
  match text with
  | [] => none
  | letter :: digits => match escapes.lookup letter with
    | some character => some (character, 1)
    | none => do
        let count ← numberEscapes.lookup letter
        let digits := digits.take count
        if digits.length < count then none
        else
          let number ← hexadecimalValue? digits
          if number.isValidChar then some (Char.ofNat number, count + 1) else none

/-- The text of one line, up to the quote or the end of the line. `blanks` were read before; they
do not count at the end of the line. `passed` characters belong to an escape that has been
read. -/
def quotedOnLine (double : Bool) (blanks : List Char) (passed : Nat) :
    List Char → Option (List Char × LineOutcome)
  | [] => some ([], .broken)
  | character :: rest =>
      match passed with
      | passed + 1 => quotedOnLine double blanks passed rest
      | 0 =>
          let withText (text : List Char) (read : Option (List Char × LineOutcome)) :=
            read.map fun (more, outcome) => (blanks.reverse ++ text ++ more, outcome)
          if Text.isTabOrSpace character then quotedOnLine double (character :: blanks) 0 rest
          else if character = '\'' && !double then
            if rest.head? = some '\'' then withText ['\''] (quotedOnLine double [] 1 rest)
            else some (blanks.reverse, .closed rest)
          else if character = '"' && double then some (blanks.reverse, .closed rest)
          else if character = '\\' && double then
            if rest.isEmpty then some (blanks.reverse, .continued)
            else match escape? rest with
              | some (meant, count) => withText [meant] (quotedOnLine double [] count rest)
              | none => none
          else withText [character] (quotedOnLine double [] 0 rest)

def quotedOnLines (double folded : Bool) (ends : List Char) :
    List Line → Option (List Char × Place)
  | [] => none
  | line :: later =>
      let ends := ends ++ [line.opening]
      let visible := line.text.dropWhile Text.isTabOrSpace
      let start : Place := ⟨line.text.length - visible.length, visible, later⟩
      if isMarker line.text then none
      else if visible.isEmpty then quotedOnLines double folded ends later
      else do
        let glue := if folded then foldLineEnds ends else ends.drop 1
        let (text, outcome) ← quotedOnLine double [] 0 visible
        match outcome with
        | .closed left => pure (glue ++ text, start.before left)
        | .broken =>
            let (more, place) ← quotedOnLines double true [] later
            pure (glue ++ text ++ more, place)
        | .continued =>
            let (more, place) ← quotedOnLines double false [] later
            pure (glue ++ text ++ more, place)

def readQuoted? (double : Bool) (place : Place) : Option (List Char × Place) := do
  let (text, outcome) ← quotedOnLine double [] 0 place.rest
  match outcome with
  | .closed left => pure (text, place.before left)
  | .broken =>
      let (more, after) ← quotedOnLines double true [] place.later
      pure (text ++ more, after)
  | .continued =>
      let (more, after) ← quotedOnLines double false [] place.later
      pure (text ++ more, after)

end ImportImpact.Yaml
