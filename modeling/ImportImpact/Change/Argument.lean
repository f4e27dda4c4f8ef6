import ImportImpact.Change.ChangedFile

/-!
Changed files on a command line: a path, or a path and a kind of change after the last colon. A
colon that opens the text or stands before a slash belongs to the path.
-/

namespace ImportImpact.ChangedFile

def ofArgument (argument : String) : ChangedFile :=
  match Text.splitLast? ':' argument.toList with
  | none => ofPath argument
  | some (path, kind) =>
      if path.isEmpty || kind.contains '/' then ofPath argument
      else create (String.ofList path) (.parse (.str (String.ofList kind))) .null

end ImportImpact.ChangedFile
