import ImportImpact.Change.Argument
import ImportImpact.CommandLine.Command
import ImportImpact.Console.Lines
import ImportImpact.Console.Table
import ImportImpact.Impact.PullRequest

/-!
Running a command line. Messages go to the console, the graph goes to a file or to the output.
A fault of the settings, of a file or of its content is reported and ends the run with status 1;
a value used as something that it is not ends the run without a report.
-/

namespace ImportImpact

/-- What ends a run early: a fault, or a message whose markup cannot be shown. -/
inductive Escape where
  | fault (fault : Fault)
  | markup

structure Session where
  host : Host
  console : String
  output : String

/-- A step of a run. What was done before an escape stays done. -/
abbrev Act := EStateM Escape Session

namespace Act

def lift {α : Type} (outcome : Outcome α) : Act α :=
  match outcome with
  | .ok value => pure value
  | .error fault => throw (.fault fault)

def host : Act Host := do pure (← get).host

def setHost (host : Host) : Act Unit := modify fun session => { session with host }

def setFiles (files : FileSystem) : Act Unit := do setHost { ← host with files }

def say (message : String) : Act Unit := do
  match (← host).files.platform.shownText? message with
  | some text =>
      modify fun session => { session with console := session.console ++ Console.display text }
  | none => throw .markup

def printTable (table : Console.Table) : Act Unit :=
  modify fun session => { session with console := session.console ++ table.text }

def print (line : String) : Act Unit :=
  modify fun session => { session with output := session.output ++ line ++ "\n" }

end Act

def Fault.isReported : Fault → Bool
  | .misuse _ | .linkLoop _ | .tooDeep _ | .unfollowed _ => false
  | _ => true

namespace Run

def readChanges (path : String) : Act Value := do
  let files := (← Act.host).files
  let text ← Act.lift (Settings.readPlainText files (.parse path))
  Act.lift (Json.read files.platform.readRoom text)

/-- A list holds changed files, anything else describes a pull request. -/
def pullRequestOf : Value → Outcome PullRequest
  | .list items => do
      pure { PullRequest.empty with changedFiles := ← items.mapM ChangedFile.ofValue }
  | other => PullRequest.ofValue other

/-- The pull request of a command: that of its file of changes, and then the changes that the
command names itself. -/
def pullRequest (command : AnalyzeCommand) : Act PullRequest := do
  let pull ← match command.changesFile with
    | none | some "" => pure PullRequest.empty
    | some path => do Act.lift (pullRequestOf (← readChanges path))
  let named := command.changed.map ChangedFile.ofArgument
  pure { pull with changedFiles := pull.changedFiles ++ named }

def settings (command : AnalyzeCommand) (root : Path) : Act Settings := do
  let found ← Act.lift ((← Act.host).discover (some root))
  pure (if command.verbose then found.set .logLevel (.str "DEBUG") else found)

/-- What the command line says wins over the settings. -/
def options (command : AnalyzeCommand) (settings : Settings) : Outcome Options :=
  Options.make
    (if command.noReverse then .bool false else settings.value .includeReverse)
    ((command.maxDepth.map Value.int).getD (settings.value .maxDepth))

def summary (counts : ImpactCounts) : Console.Table :=
  { title := "PR Impact"
    rows :=
      [⟨"Modified files", toString counts.changedFiles⟩,
       ⟨"Affected files", toString counts.affectedFiles⟩,
       ⟨"Dependencies", toString counts.dependencies⟩] }

def deliver (graph : ImpactGraph) (output : Option String) : Act Unit :=
  match output with
  | none | some "" => do
      Act.print (← Act.lift (graph.document.renderWithin (← Act.host).files.platform.jsonRoom))
  | some path => do
      Act.setFiles (← Act.lift (graph.save (← Act.host).files (.parse path)))
      Act.say s!"[green]Impact graph written to:[/green] {path}"

def analyze (command : AnalyzeCommand) : Act Nat := do
  let root := Path.parse command.repository
  if !(← Act.lift ((← Act.host).files.isDirectory root)) then
    Act.say s!"[red]Error:[/red] Repository not found: {root.text}"
    return 1
  let settings ← settings command root
  let pull ← pullRequest command
  if pull.changedFiles.isEmpty then
    Act.say "[yellow]No changed files given.[/yellow]"
    return 1
  let options ← Act.lift (options command settings)
  let done := (Analyzer.ofSettings (some settings)).analyze (← Act.host)
    (.ofFiles pull.changedFiles) root (.record options)
  Act.setHost done.host
  let graph ← Act.lift (done.graph pull .null)
  Act.printTable (summary graph.head.counts)
  for error in done.findings.errors do
    Act.say s!"[yellow]Warning:[/yellow] {error}"
  deliver graph command.output
  return 0

def init (format : String) : Act Nat := do
  let name := ".prgraph." ++ format
  let path := Path.parse name
  let files := (← Act.host).files
  if ← Act.lift (files.exists? path) then
    Act.say s!"Config file already exists: {name}"
    return 1
  Act.setFiles (← Act.lift (Settings.initial.save files path (.ofName format)))
  Act.say s!"Created config file: {name}"
  return 0

def reporting (act : Act Nat) : Act Nat :=
  tryCatch act fun escape => match escape with
    | .fault fault =>
        if fault.isReported then do
          Act.say s!"[red]Error:[/red] {fault.message}"
          pure 1
        else throw escape
    | .markup => throw escape

def command : Command → Act Nat
  | .analyze command => reporting (analyze command)
  | .init format => reporting (init format)
  | .help => pure 0

end Run

inductive Ending where
  | status (code : Nat)
  | stopped (stop : Stop)
  | escaped (escape : Escape)

structure Finished where
  ending : Ending
  /-- The user is to be shown how the program is used. -/
  needsHelp : Bool
  session : Session

def programName : String := "prgraph"

def runCommandLine (host : Host) (arguments : List String) : Finished :=
  let session : Session := ⟨host, "", ""⟩
  match CommandLine.understand arguments with
  | .error .version =>
      let output := s!"{programName} {programVersion}\n"
      ⟨.stopped .version, false, { session with output }⟩
  | .error stop => ⟨.stopped stop, true, session⟩
  | .ok command =>
      let needsHelp := match command with
        | .help => true
        | _ => false
      match Run.command command session with
      | .ok code session => ⟨.status code, needsHelp, session⟩
      | .error escape session => ⟨.escaped escape, needsHelp, session⟩

end ImportImpact
