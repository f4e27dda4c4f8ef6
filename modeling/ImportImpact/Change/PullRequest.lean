import ImportImpact.Change.ChangedFile

/-!
Pull requests as a review service describes them. Two spellings of some names are known; the
first one wins where both are given. Only the identifier is turned into text.
-/

namespace ImportImpact

structure PullRequest where
  id : Option String
  title : Value
  url : Value
  sourceRef : Value
  targetRef : Value
  changedFiles : List ChangedFile

namespace PullRequest

def empty : PullRequest := ⟨none, .str "", .null, .null, .null, []⟩

def identifier : Value → Outcome (Option String)
  | .null => pure none
  | given => do
      given.demandWritable
      pure (some given.text)

def ofEntries (entries : List (Value × Value)) : Outcome PullRequest := do
  let field (name : String) : Value := (Value.lookup name entries).getD .null
  let either (first second : String) : Value :=
    (ChangedFile.either? first second entries).getD .null
  let id ← identifier (field "id")
  let listed := (ChangedFile.either? "changedFiles" "changed_files" entries).getD (.list [])
  let files ← (← listed.elements).mapM ChangedFile.ofValue
  pure
    { id
      title := (Value.lookup "title" entries).getD (.str "")
      url := field "url"
      sourceRef := either "sourceRefName" "source_ref"
      targetRef := either "targetRefName" "target_ref"
      changedFiles := files }

def ofValue : Value → Outcome PullRequest
  | .dict entries => ofEntries entries
  | other => Value.misused (.noMember other.kindName "get")

end PullRequest

end ImportImpact
