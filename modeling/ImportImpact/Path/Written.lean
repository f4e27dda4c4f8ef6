import ImportImpact.Path.Segment

/-!
Paths as they are written, and operations that read nothing but the text. Two slashes at the
start are kept apart from one; more than two count as one.
-/

namespace ImportImpact.Written

open Segment

def slash : Char := '/'

def rootSlashes (path : List Char) : Nat :=
  match path with
  | '/' :: '/' :: '/' :: _ => 1
  | '/' :: '/' :: _ => 2
  | '/' :: _ => 1
  | _ => 0

def normalCharacters (path : List Char) : List Char :=
  let slashes := rootSlashes path
  let written := List.replicate slashes slash ++
    Text.join slash (reduce (slashes != 0) (Text.split slash path))
  if written.isEmpty then ['.'] else written

def normal (path : String) : String := String.ofList (normalCharacters path.toList)

/-- What stands before the last slash; a root keeps its slashes. -/
def directory (path : String) : String :=
  match Text.splitLast? slash path.toList with
  | none => ""
  | some (before, _) =>
      if before.all (· = slash) then String.ofList (before ++ [slash])
      else String.ofList (before.reverse.dropWhile (· = slash)).reverse

def lastCharacters (path : List Char) : List Char :=
  match Text.splitLast? slash path with
  | none => path
  | some (_, after) => after

def lastName (path : String) : String := String.ofList (lastCharacters path.toList)

def rooted (path : String) : Bool := path.toList.head? = some slash

def joined (base path : String) : String :=
  if rooted path then path
  else match base.toList.getLast? with
    | none => path
    | some last => if last = slash then base ++ path else base ++ "/" ++ path

def suffixCharacters (path : List Char) : List Char :=
  match Text.splitLast? '.' (lastCharacters path) with
  | none => []
  | some (before, after) => if before.all (· = '.') then [] else '.' :: after

/-- The last name from its last dot on. Dots that open the name start no suffix. -/
def suffix (path : String) : String := String.ofList (suffixCharacters path.toList)

def separated (character : Char) : Char := if character = '\\' then slash else character

def withSlashes (path : String) : String := String.ofList (path.toList.map separated)

/-- The form in which repository files are named: relative, with slashes, in normal form. Only
separators give the empty text. -/
def repositoryPath (path : String) : String :=
  match (path.toList.map separated).dropWhile (· = slash) with
  | [] => ""
  | relative => String.ofList (normalCharacters relative)

end ImportImpact.Written
