import ImportImpact.Change.Kind
import ImportImpact.Fault
import ImportImpact.Path.Written

/-!
Changed files, as records and as the documents that describe them. The address of a change is
kept as it is given, whatever its kind.
-/

namespace ImportImpact

structure ChangedFile where
  path : String
  kind : ChangeKind
  url : Value

namespace ChangedFile

def create (path : String) (kind : ChangeKind) (url : Value) : ChangedFile :=
  ⟨Written.repositoryPath path, kind, url⟩

def ofPath (path : String) : ChangedFile := create path .edit .null

def either? (first second : String) (entries : List (Value × Value)) : Option Value :=
  (Value.lookup first entries).or (Value.lookup second entries)

def ofEntries (entries : List (Value × Value)) : Outcome ChangedFile :=
  match Value.lookup "path" entries with
  | none => Value.misused (.missingKey "path")
  | some given => do
      let path ← given.textFor "replace"
      let written := either? "changeType" "change_type" entries
      (written.getD .null).demandWritable
      let kind := match written with
        | some written => ChangeKind.parse written
        | none => .edit
      pure (create path kind ((Value.lookup "url" entries).getD .null))

def ofValue : Value → Outcome ChangedFile
  | .dict entries => ofEntries entries
  | value@(.str _) | value@(.list _) => Value.misused (.badIndex value.kindName "str")
  | other => Value.misused (.notIndexable other.kindName)

def toValue (file : ChangedFile) : Value :=
  .record [("path", .str file.path), ("changeType", .str file.kind.name), ("url", file.url)]

end ChangedFile

inductive Change where
  | record (file : ChangedFile)
  | document (value : Value)

namespace Change

/-- A value that is no mapping stands for the path that its text is. -/
def normalized : Change → Outcome ChangedFile
  | .record file => .ok (.create file.path file.kind file.url)
  | .document (.dict entries) => ChangedFile.ofEntries entries
  | .document other => do
      other.demandWritable
      pure (.ofPath other.text)

def distinct (kept : List ChangedFile) : List ChangedFile → List ChangedFile
  | [] => kept
  | file :: rest =>
      if file.path.isEmpty || (kept.map ChangedFile.path).contains file.path then
        distinct kept rest
      else distinct (kept ++ [file]) rest

end Change

inductive Changes where
  | list (items : List Change)
  | document (value : Value)

namespace Changes

/-- A value that counts as false is an empty list. -/
def toList : Changes → Outcome (List Change)
  | .list items => .ok items
  | .document value =>
      if value.truthy then do pure ((← value.elements).map .document) else .ok []

def ofFiles (files : List ChangedFile) : Changes := .list (files.map .record)

def normalized (changes : Changes) : Outcome (List ChangedFile) := do
  let files ← (← changes.toList).mapM Change.normalized
  pure (Change.distinct [] files)

end Changes

end ImportImpact
