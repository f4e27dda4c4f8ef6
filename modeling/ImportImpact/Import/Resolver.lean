import ImportImpact.FileSystem.Basic
import ImportImpact.Settings.Basic

/-!
From specifiers to files. A specifier that starts with a dot is seen from the directory of the
importing file, one that starts with a slash from the repository root; all others name packages
and lead nowhere. Only the presence of files decides between the spellings that remain.
-/

namespace ImportImpact

def isLocalSpecifier (specifier : String) : Bool :=
  match specifier.toList with
  | '.' :: _ | '/' :: _ => true
  | _ => false

def specifiedPath (specifier importer : String) : String :=
  match specifier.toList with
  | '.' :: _ => Written.joined (Written.directory (Written.withSlashes importer)) specifier
  | characters => String.ofList (characters.dropWhile (· = '/'))

/-- The path leads out of the repository, or nowhere but to its root. -/
def leavesRepository (path : String) : Bool :=
  path = "." || path = ".." || "../".toList.isPrefixOf path.toList

def candidate? (specifier importer : String) : Option String :=
  if !isLocalSpecifier specifier then none
  else
    let written := specifiedPath specifier importer
    if written.isEmpty then none
    else
      let path := Written.normal written
      if leavesRepository path then none else some path

structure Resolver where
  system : FileSystem
  root : Path
  extensions : Value
  indexName : Value

namespace Resolver

def ofSettings (system : FileSystem) (root : Path) (settings : Settings) : Resolver :=
  ⟨system, root, settings.value .resolveExtensions, settings.value .indexName⟩

/-- A path that cannot be looked up names no file. -/
def hasFile (resolver : Resolver) (path : String) : Bool :=
  match resolver.system.isFile (resolver.root.join path) with
  | .ok found => found
  | .error _ => false

def appended (text : String) : Value → Outcome String
  | .str more => .ok (text ++ more)
  | other => Value.misused (.notJoinable "str" other.kindName)

def indexFile (indexName extension : Value) : Outcome String :=
  match indexName with
  | .str name => appended name extension
  | .list _ => Value.misused (.notJoinable "list" extension.kindName)
  | other => Value.misused (.operands "+" other.kindName extension.kindName)

/-- The first spelling that names a file; a spelling is made only when its turn comes. -/
def firstFile (resolver : Resolver) (spell : Value → Outcome String) :
    List Value → Outcome (Option String)
  | [] => .ok none
  | extension :: rest => do
      let path ← spell extension
      if resolver.hasFile path then pure (some path) else firstFile resolver spell rest

def resolveCandidate (resolver : Resolver) (candidate : String) : Outcome (Option String) :=
  if Written.suffix candidate ≠ "" then
    .ok (if resolver.hasFile candidate then some candidate else none)
  else do
    let extensions ← resolver.extensions.elements
    match ← resolver.firstFile (appended candidate) extensions with
    | some path => pure (some path)
    | none =>
        resolver.firstFile (fun extension => do
          pure (Written.joined candidate (← indexFile resolver.indexName extension))) extensions

def resolve (resolver : Resolver) (specifier importer : String) : Outcome (Option String) :=
  match candidate? specifier importer with
  | none => .ok none
  | some candidate => resolver.resolveCandidate candidate

end Resolver

end ImportImpact
