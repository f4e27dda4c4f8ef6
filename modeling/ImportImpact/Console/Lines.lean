import ImportImpact.Text.Blank
import ImportImpact.Text.Split

/-!
Text on a console of limited width. Lines are broken between words, words that are longer than a
line are cut, and no line ends in blanks. Every character is taken to be one column wide.
-/

namespace ImportImpact.Console

def width : Nat := 400

def tabWidth : Nat := 8

def isDropped (character : Char) : Bool :=
  ['\x07', '\x08', '\x0b', '\x0c', '\r'].contains character

def expandTabs (column : Nat) : List Char → List Char
  | [] => []
  | character :: rest =>
      if character = '\t' then
        let count := tabWidth - column % tabWidth
        List.replicate count ' ' ++ expandTabs (column + count) rest
      else character :: expandTabs (column + 1) rest

/-- The words of a line, each with the blanks after it; the first one has those before it, too.
A line of blanks has no words. -/
def words : List Char → List (List Char)
  | [] => []
  | character :: rest =>
      match words rest with
      | [] => if Text.isBlank character then [] else [character :: rest]
      | word :: others =>
          if !Text.isBlank character && word.head?.any Text.isBlank then
            (character :: word.takeWhile Text.isBlank) ::
              word.dropWhile Text.isBlank :: others
          else (character :: word) :: others

def trimEnd (text : List Char) : List Char := (text.reverse.dropWhile Text.isBlank).reverse

def chop (word : List Char) : List (List Char) :=
  if word.length ≤ width then [word] else word.take width :: chop (word.drop width)
  termination_by word.length
  decreasing_by simp only [List.length_drop, width] at *; omega

/-- Complete lines, the last one first, and the line that is being filled. -/
structure Filling where
  lines : List (List Char)
  current : List Char

def Filling.add (filling : Filling) (word : List Char) : Filling :=
  let needed := (trimEnd word).length
  if filling.current.length + needed ≤ width then
    { filling with current := filling.current ++ word }
  else
    let lines := if filling.current.isEmpty then filling.lines
      else filling.current :: filling.lines
    if needed > width then
      match (chop word).reverse with
      | [] => ⟨lines, []⟩
      | last :: earlier => ⟨earlier ++ lines, last⟩
    else ⟨lines, word⟩

def wrap (line : List Char) : List (List Char) :=
  let filled := (words line).foldl Filling.add ⟨[], []⟩
  (filled.current :: filled.lines).reverse

def display (text : List Char) : String :=
  let lines := (Text.split '\n' (text.filter fun character => !isDropped character)).flatMap
    fun line => wrap (expandTabs 0 line)
  String.ofList (lines.flatMap fun line => trimEnd line ++ ['\n'])

end ImportImpact.Console
