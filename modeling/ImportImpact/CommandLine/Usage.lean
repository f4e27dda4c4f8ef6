import ImportImpact.CommandLine.Switch

/-!
What a user is told about the commands and their switches.
-/

namespace ImportImpact.CommandLine

def switchLine (switch : Switch) (value meaning : String) : String :=
  let written := ", ".intercalate switch.names ++ (if switch.takesValue then " " ++ value else "")
  "  " ++ written ++ String.ofList (List.replicate (28 - written.length) ' ') ++ meaning

def usageLines : List String :=
  ["usage: prgraph [--version] COMMAND ...",
   "",
   "prgraph analyze REPOSITORY: the files that a change of some files reaches",
   switchLine .changed "PATH[:KIND]" "a changed file; may be repeated",
   switchLine .changesFile "FILE" "changed files or a pull request, as JSON",
   switchLine .maxDepth "DEPTH" "how far to follow importers of changed files",
   switchLine .noReverse "" "do not look for importers",
   switchLine .output "FILE" "where the graph is written",
   switchLine .verbose "" "tell more about the run",
   "",
   "prgraph init: make a settings file",
   switchLine .format "FORMAT" "yaml or json"]

end ImportImpact.CommandLine
