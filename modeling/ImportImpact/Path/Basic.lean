import ImportImpact.Path.Written

/-!
Paths as places to look up: an anchor and the names below it. Idle segments are gone, but a
double dot stays, because what it means is known only when links are followed.
-/

namespace ImportImpact

inductive Anchor where
  | relative
  | root
  | doubleRoot
  deriving DecidableEq

def Anchor.text : Anchor → String
  | .relative => ""
  | .root => "/"
  | .doubleRoot => "//"

structure Path where
  anchor : Anchor
  names : List String
  deriving DecidableEq

namespace Path

def anchorOf (text : List Char) : Anchor :=
  match Written.rootSlashes text with
  | 0 => .relative
  | 2 => .doubleRoot
  | _ => .root

def namesOf (text : List Char) : List String :=
  ((Text.split '/' text).filter fun segment => !Segment.idle segment).map String.ofList

def parse (text : String) : Path := ⟨anchorOf text.toList, namesOf text.toList⟩

def text (path : Path) : String :=
  match path.anchor, path.names with
  | .relative, [] => "."
  | anchor, names => anchor.text ++ "/".intercalate names

def child (path : Path) (name : String) : Path := { path with names := path.names ++ [name] }

/-- The written path as seen from the first; a rooted one stands for itself. -/
def join (path : Path) (written : String) : Path :=
  let other := parse written
  match other.anchor with
  | .relative => { path with names := path.names ++ other.names }
  | _ => other

def lastName (path : Path) : String := path.names.getLast?.getD ""

def parent (path : Path) : Path := { path with names := path.names.dropLast }

def relativeTo? (base path : Path) : Option (List String) :=
  if path.anchor = base.anchor then
    if base.names.isPrefixOf path.names then some (path.names.drop base.names.length) else none
  else none

def below? (base path : Path) : Option String :=
  (relativeTo? base path).map fun names => text ⟨.relative, names⟩

/-- The last name from its last dot on, if something stands on both sides of that dot. -/
def suffix (path : Path) : String :=
  match path.names.getLast? with
  | none => ""
  | some name => match Text.splitLast? '.' name.toList with
    | none => ""
    | some (before, after) =>
        if before.isEmpty || after.isEmpty then "" else String.ofList ('.' :: after)

end Path

end ImportImpact
