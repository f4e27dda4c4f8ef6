import ImportImpact.Text.Blank
import ImportImpact.Text.LowerCase

/-!
Messages with markup. A tag in brackets opens a style, and a tag that begins with a slash closes
one; without colours nothing of them is shown. A bracket after an odd number of backslashes is
shown as it is. A closing tag must have something to close.
-/

namespace ImportImpact.Console

def beginsTag (character : Char) : Bool :=
  'a' ≤ character && character ≤ 'z' || character = '#' || character = '/' || character = '@'

/-- The content of a tag after its opening bracket, and what follows the closing one. -/
def cutTag? (text : List Char) : Option (List Char × List Char) :=
  match text with
  | first :: _ =>
      if !beginsTag first then none
      else
        let inside := text.takeWhile fun character => character != '[' && character != ']'
        match text.drop inside.length with
        | ']' :: rest => some (inside, rest)
        | _ => none
  | [] => none

theorem cut_tag_length {text inside rest : List Char} (given : cutTag? text = some (inside, rest)) :
    rest.length < text.length := by
  simp only [cutTag?] at given
  split at given
  · split at given
    · simp at given
    · split at given
      next shape =>
        simp only [Option.some.injEq, Prod.mk.injEq] at given
        have := congrArg List.length shape
        simp only [List.length_drop, List.length_cons] at this
        grind
      · simp at given
  · simp at given

inductive Part where
  | text (content : List Char)
  | tag (content : List Char)
  deriving DecidableEq

/-- The parts of a message. `slashes` counts backslashes that have been read. A pair of them
before a tag shows one; elsewhere they are shown as they are, except for one that stands before a
bracket. -/
def parts (slashes : Nat) (message : List Char) : List Part :=
  match message with
  | [] => [.text (List.replicate slashes '\\')]
  | '\\' :: rest => parts (slashes + 1) rest
  | '[' :: rest =>
      match _cut : cutTag? rest with
      | some (inside, after) =>
          .text (List.replicate (slashes / 2) '\\') ::
            (if slashes % 2 = 1 then .text ('[' :: inside ++ [']']) else .tag inside) ::
            parts 0 after
      | none => .text (List.replicate (slashes - 1) '\\' ++ ['[']) :: parts 0 rest
  | character :: rest =>
      .text (List.replicate slashes '\\' ++ [character]) :: parts 0 rest
  termination_by message.length
  decreasing_by
    · simp
    · have := cut_tag_length _cut; simp; omega
    · simp
    · simp

/-- Names of styles are compared without blanks around them and without case. -/
def styleName (written : List Char) : List Char := Text.lower (Text.trim written)

def applyTag (opened : List (List Char)) (content : List Char) : Option (List (List Char)) :=
  let name := content.takeWhile (· != '=')
  match name with
  | '/' :: closed =>
      if (Text.trim closed).isEmpty then
        match opened with
        | [] => none
        | _ :: others => some others
      else if opened.contains (styleName closed) then some (opened.erase (styleName closed))
      else none
  | _ => some (styleName name :: opened)

def showParts (opened : List (List Char)) : List Part → Option (List Char)
  | [] => some []
  | .text content :: rest => (showParts opened rest).map (content ++ ·)
  | .tag content :: rest => do showParts (← applyTag opened content) rest

/-- The text that a message shows, unless a tag in it closes nothing. -/
def shownText? (message : String) : Option (List Char) := showParts [] (parts 0 message.toList)

end ImportImpact.Console
