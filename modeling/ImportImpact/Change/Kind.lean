import ImportImpact.Text.Blank
import ImportImpact.Text.LowerCase
import ImportImpact.Text.Split
import ImportImpact.Value.Printer

/-!
Kinds of change to a file. Of a combined kind the first one counts; what is no kind is the kind
`other`.
-/

namespace ImportImpact

inductive ChangeKind where
  | add
  | edit
  | delete
  | rename
  | other
  deriving DecidableEq

namespace ChangeKind

def name : ChangeKind → String
  | .add => "add"
  | .edit => "edit"
  | .delete => "delete"
  | .rename => "rename"
  | .other => "other"

def all : List ChangeKind := [.add, .edit, .delete, .rename, .other]

def ofWord (word : List Char) : ChangeKind :=
  (all.find? fun kind => kind.name.toList = word).getD .other

def firstPart (text : List Char) : List Char :=
  Text.trim (text.takeWhile (· != ','))

def parse (written : Value) : ChangeKind :=
  let text := if written.truthy then written.text else ""
  ofWord (firstPart (Text.lower (Text.trim text.toList)))

end ChangeKind

end ImportImpact
