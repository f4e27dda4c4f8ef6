import ImportImpact.Text.Digit
import ImportImpact.Text.Split

/-!
Reading the words of a command line. A word that begins with a dash is a switch, unless it is
written like a negative number or holds a space and names no switch; after a double dash no word
is a switch. Long names may be cut short as long as they stay unambiguous, a value may follow a
name after `=`, and short names may share one dash.
-/

namespace ImportImpact.CommandLine

inductive Switch where
  | help
  | version
  | changed
  | changesFile
  | maxDepth
  | noReverse
  | output
  | verbose
  | format
  deriving DecidableEq

namespace Switch

def names : Switch → List String
  | .help => ["-h", "--help"]
  | .version => ["--version"]
  | .changed => ["-c", "--changed"]
  | .changesFile => ["--changes-file"]
  | .maxDepth => ["--max-depth"]
  | .noReverse => ["--no-reverse"]
  | .output => ["-o", "--output"]
  | .verbose => ["-v", "--verbose"]
  | .format => ["-f", "--format"]

def takesValue : Switch → Bool
  | .changed | .changesFile | .maxDepth | .output | .format => true
  | .help | .version | .noReverse | .verbose => false

def named? (known : List Switch) (name : List Char) : Option Switch :=
  known.find? fun switch => switch.names.contains (String.ofList name)

/-- The switches of which some name begins so, once for each such name. -/
def beginning (known : List Switch) (opening : List Char) : List Switch :=
  known.flatMap fun switch =>
    (switch.names.filter fun name => opening.isPrefixOf name.toList).map fun _ => switch

end Switch

/-- What a switch brings along in its own word. `marked` says that it stands after `=`. -/
structure Attached where
  text : List Char
  marked : Bool

structure Written where
  switch : Switch
  short : Bool
  attached : Option Attached

inductive Role where
  | plain
  | separator
  | switch (written : Written)
  | unknown

structure Word where
  text : String
  role : Role

namespace Word

def isPlain (word : Word) : Bool :=
  match word.role with
  | .plain => true
  | _ => false

def isSeparator (word : Word) : Bool :=
  match word.role with
  | .separator => true
  | _ => false

def isSwitch (word : Word) : Bool := !word.isPlain && !word.isSeparator

end Word

def isDigit (character : Char) : Bool := (Text.digitValue? character).isSome

/-- A minus sign and digits, perhaps with a point among or before them. -/
def isNegativeNumber (word : List Char) : Bool :=
  match word with
  | '-' :: rest =>
      match rest.dropWhile isDigit with
      | [] => !rest.isEmpty
      | '.' :: fraction => !fraction.isEmpty && fraction.all isDigit
      | _ => false
  | _ => false

def cutValue (word : List Char) : List Char × Option Attached :=
  match word.dropWhile (· != '=') with
  | [] => (word, none)
  | _ :: value => (word.takeWhile (· != '='), some ⟨value, true⟩)

/-- All ways to understand a word as a switch whose name is not written out. -/
def interpretations (known : List Switch) (word : List Char) : List Written :=
  match word with
  | '-' :: '-' :: _ =>
      let (name, attached) := cutValue word
      (Switch.beginning known name).map fun switch => ⟨switch, false, attached⟩
  | dash :: letter :: rest =>
      ((Switch.named? known [dash, letter]).map fun switch =>
        Written.mk switch true (some ⟨rest, false⟩)).toList
  | _ => []

/-- Classifies one word before any double dash; a name that fits several switches is none. -/
def classify? (known : List Switch) (text : String) : Option Role :=
  let word := text.toList
  let short := (word.drop 1).head? != some '-'
  if word.head? != some '-' || word.length = 1 then some .plain
  else match Switch.named? known word with
    | some switch => some (.switch ⟨switch, short, none⟩)
    | none =>
        let (name, attached) := cutValue word
        match attached, Switch.named? known name with
        | some value, some switch => some (.switch ⟨switch, short, some value⟩)
        | _, _ => match interpretations known word with
          | [written] => some (.switch written)
          | _ :: _ :: _ => none
          | [] =>
              if isNegativeNumber word || word.contains ' ' then some .plain else some .unknown

def classifyAll? (known : List Switch) : List String → Option (List Word)
  | [] => some []
  | text :: rest =>
      if text = "--" then some (⟨text, .separator⟩ :: rest.map fun text => ⟨text, .plain⟩)
      else do
        let role ← classify? known text
        pure (⟨text, role⟩ :: (← classifyAll? known rest))

/-- What a word with a switch amounts to: switches with their values, then a switch that still
needs a value from the next word, or a rest that nothing is known of. -/
structure Unpacked where
  given : List (Switch × Option String)
  needy : Option Switch
  unknown : List String

/-- Unpacks a switch with what is attached to it. Letters after a short switch without a value
are short switches themselves. -/
def unpackAttached? (known : List Switch) (switch : Switch) (short marked : Bool) :
    List Char → Option Unpacked
  | [] =>
      if switch.takesValue then some ⟨[(switch, some "")], none, []⟩ else none
  | letter :: rest =>
      if switch.takesValue then some ⟨[(switch, some (String.ofList (letter :: rest)))], none, []⟩
      else if !short || marked || letter = '-' then none
      else match Switch.named? known ['-', letter] with
        | none => some ⟨[(switch, none)], none, [String.ofList ('-' :: letter :: rest)]⟩
        | some next =>
            let first (unpacked : Unpacked) : Unpacked :=
              { unpacked with given := (switch, none) :: unpacked.given }
            match rest with
            | [] =>
                some (first (if next.takesValue then ⟨[], some next, []⟩
                  else ⟨[(next, none)], none, []⟩))
            | '=' :: value => (unpackAttached? known next true true value).map first
            | letters => (unpackAttached? known next true false letters).map first

def unpack? (known : List Switch) (written : Written) : Option Unpacked :=
  match written.attached with
  | some attached =>
      unpackAttached? known written.switch written.short attached.marked attached.text
  | none =>
      some (if written.switch.takesValue then ⟨[], some written.switch, []⟩
        else ⟨[(written.switch, none)], none, []⟩)

end ImportImpact.CommandLine
