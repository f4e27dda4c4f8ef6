import ImportImpact.Proofs.CommandLine.Act
import ImportImpact.Proofs.CommandLine.ChangesFile
import ImportImpact.Proofs.FileSystem.Written
import ImportImpact.Proofs.Impact.WellFormed
import ImportImpact.Proofs.Journal.Platform
import ImportImpact.Proofs.Json.RoundTrip
import ImportImpact.Proofs.Settings.Discovery

/-!
How a run of the program ends. A run that analyses a repository writes the document and ends with
status 0, or says what went wrong and ends with status 1, with three exceptions. A value that is
used as something it is not, in the settings or in the file of changes, ends the run without a word,
and so does one that is nested too deep to be read. A document may be too deep to be written. And a
message may quote something that markup cannot show; but no content of the file of changes leads to
such a message.
-/

namespace ImportImpact

open Outcome

namespace Run

def settingsOf (host : Host) (command : AnalyzeCommand) : Outcome Settings := do
  let found ← host.discover (some (.parse command.repository))
  pure (if command.verbose then found.set .logLevel (.str "DEBUG") else found)

def changesInFile (files : FileSystem) (command : AnalyzeCommand) : Outcome PullRequest :=
  match command.changesFile with
  | none | some "" => pure .empty
  | some path => changesIn files path

theorem changes_in_no_file {files : FileSystem} {command : AnalyzeCommand}
    (unnamed : command.changesFile = none ∨ command.changesFile = some "") :
    changesInFile files command = .ok .empty := by
  rcases unnamed with unnamed | unnamed <;> rw [changesInFile, unnamed] <;> rfl

theorem changes_in_file_named {files : FileSystem} {command : AnalyzeCommand} {path : String}
    (named : command.changesFile = some path) (filled : path ≠ "") :
    changesInFile files command = changesIn files path := by
  unfold changesInFile
  split
  next unnamed => cases named.symm.trans unnamed
  next empty =>
    cases named.symm.trans empty
    exact absurd rfl filled
  next other _ again =>
    cases named.symm.trans again
    rfl

/-- The changes of a command, those in its file before those that it names. -/
def changesOf (files : FileSystem) (command : AnalyzeCommand) : Outcome PullRequest := do
  let pull ← changesInFile files command
  pure { pull with
    changedFiles := pull.changedFiles ++ command.changed.map ChangedFile.ofArgument }

def asked (host : Host) (command : AnalyzeCommand) : Outcome (Settings × PullRequest) := do
  let settings ← settingsOf host command
  let pull ← changesOf host.files command
  pure (settings, pull)

def conclude (command : AnalyzeCommand) (settings : Settings) (pull : PullRequest) : Act Nat := do
  if pull.changedFiles.isEmpty then
    Act.say "[yellow]No changed files given.[/yellow]"
    return 1
  let options ← Act.lift (options command settings)
  let done := (Analyzer.ofSettings (some settings)).analyze (← Act.host)
    (.ofFiles pull.changedFiles) (.parse command.repository) (.record options)
  Act.setHost done.host
  let graph ← Act.lift (done.graph pull .null)
  Act.printTable (summary graph.head.counts)
  for error in done.findings.errors do
    Act.say s!"[yellow]Warning:[/yellow] {error}"
  deliver graph command.output
  return 0

section Steps

open Act

variable (command : AnalyzeCommand) (session : Session)

theorem settings_run : settings command (.parse command.repository) session =
    Act.lift (settingsOf session.host command) session := by
  have asked : settings command (.parse command.repository) session =
      (Act.lift (session.host.discover (some (.parse command.repository))) >>= fun found =>
        pure (if command.verbose then found.set .logLevel (.str "DEBUG") else found)) session := rfl
  rw [asked, settingsOf]
  cases session.host.discover (some (.parse command.repository)) <;> rfl

theorem read_changes_run (path : String) : readChanges path session =
    Act.lift (Settings.readPlainText session.host.files (.parse path) >>=
      Json.read session.host.files.platform.readRoom) session := by
  have asked : readChanges path session =
      (Act.lift (Settings.readPlainText session.host.files (.parse path)) >>= fun text =>
        Act.lift (Json.read session.host.files.platform.readRoom text)) session := rfl
  rw [asked]
  cases Settings.readPlainText session.host.files (.parse path) <;> rfl

theorem pull_request_eq : pullRequest command =
    Act.host >>= fun host => Act.lift (changesOf host.files command) := by
  unfold pullRequest
  split
  next unnamed =>
    refine funext fun session => ?_
    change _ = Act.lift (changesOf session.host.files command) session
    rw [changesOf, changes_in_no_file (Or.inl unnamed)]
    rfl
  next empty =>
    refine funext fun session => ?_
    change _ = Act.lift (changesOf session.host.files command) session
    rw [changesOf, changes_in_no_file (Or.inr empty)]
    rfl
  next path filled named =>
    refine funext fun session => (run_congr (read_changes_run session path) _).trans ?_
    change _ = Act.lift (changesOf session.host.files command) session
    have together : changesIn session.host.files path =
        Settings.readPlainText session.host.files (.parse path) >>=
          Json.read session.host.files.platform.readRoom >>= pullRequestOf :=
      (bind_assoc ..).symm
    rw [changesOf, changes_in_file_named named filled, together]
    generalize Settings.readPlainText session.host.files (.parse path) >>=
      Json.read session.host.files.platform.readRoom = document
    cases document with
    | error fault => rfl
    | ok value =>
        change (Act.lift (pullRequestOf value) >>= _) session =
          Act.lift (pullRequestOf value >>= _) session
        cases pullRequestOf value <;> rfl

theorem analyze_run
    (directory : session.host.files.isDirectory (.parse command.repository) = .ok true) :
    analyze command session = (Act.lift (asked session.host command) >>= fun known =>
      conclude command known.1 known.2) session := by
  have begun : analyze command session =
      (Act.lift (session.host.files.isDirectory (.parse command.repository)) >>= fun known =>
        if !known then do
          say s!"[red]Error:[/red] Repository not found: {(Path.parse command.repository).text}"
          pure 1
        else do
          let settings ← settings command (.parse command.repository)
          let pull ← pullRequest command
          conclude command settings pull) session := rfl
  rw [begun, directory, asked]
  refine (run_congr (settings_run command session) _).trans ?_
  cases settingsOf session.host command with
  | error fault => rfl
  | ok settings =>
      have read : pullRequest command session =
          Act.lift (changesOf session.host.files command) session :=
        congrFun (pull_request_eq command) session
      refine (run_congr read _).trans ?_
      cases changesOf session.host.files command <;> rfl

end Steps

section Delivery

variable {files : FileSystem} {graph : ImpactGraph} {output : Option String} {text : String}

/-- The text stands where the command wants it: in a file, or else in the output. -/
def StandsIn (output : Option String) (text : String) (session : Session) : Prop :=
  match output with
  | none | some "" => session.output = text ++ "\n"
  | some path => session.host.files.readBytes (.parse path) = .ok (Utf8.ofString text)

/-- Why a document does not get where the command wants it. -/
inductive Undelivered (files : FileSystem) (graph : ImpactGraph) : Option String → Escape → Prop
  | document {output : Option String} {fault : Fault} (printed : output = none ∨ output = some "")
      (failed : graph.document.renderWithin files.platform.jsonRoom = .error fault) :
      Undelivered files graph output (.fault fault)
  | file {path : String} {fault : Fault} (filled : path ≠ "")
      (failed : graph.save files (.parse path) = .error fault) :
      Undelivered files graph (some path) (.fault fault)
  | message {path : String} (filled : path ≠ "")
      (unshown : files.platform.shownText?
        s!"[green]Impact graph written to:[/green] {path}" = none) :
      Undelivered files graph (some path) .markup

theorem read_of_saved {path : Path} {saved : FileSystem}
    (done : graph.save files path = .ok saved) :
    saved.platform = files.platform ∧
      ∃ text, graph.document.renderWithin files.platform.jsonRoom = .ok text ∧
        saved.readBytes path = .ok (Utf8.ofString text) := by
  obtain ⟨grown, made, done⟩ := bind_ok_iff.1 done
  obtain ⟨text, rendered, done⟩ := bind_ok_iff.1 done
  obtain ⟨location, given, done⟩ := bind_ok_iff.1 done
  rw [pure_ok_iff] at done
  subst done
  have kept : grown.platform = files.platform := FileSystem.ensure_directories_platform made
  exact ⟨kept, text, rendered, FileSystem.read_of_written _ given⟩

theorem stands_in_output_iff {session : Session} (printed : output = none ∨ output = some "") :
    StandsIn output text session ↔ session.output = text ++ "\n" := by
  rcases printed with rfl | rfl <;> exact Iff.rfl

theorem stands_in_file_iff {session : Session} {path : String} (filled : path ≠ "") :
    StandsIn (some path) text session ↔
      session.host.files.readBytes (.parse path) = .ok (Utf8.ofString text) := by
  unfold StandsIn
  split
  next same => cases same
  next same => exact absurd (Option.some.inj same) filled
  next same =>
    cases same
    exact Iff.rfl

theorem ends_deliver {session : Session} (nothing : session.output = "") :
    (deliver graph output).Ends session
      (fun _ later => ∃ text,
        graph.document.renderWithin session.host.files.platform.jsonRoom = .ok text ∧
          StandsIn output text later)
      (fun escape later => (later.output = "" ∧
        later.host.files.platform = session.host.files.platform) ∧
          Undelivered session.host.files graph output escape) := by
  have printed (named : output = none ∨ output = some "") :
      (Act.host >>= fun host =>
        Act.lift (graph.document.renderWithin host.files.platform.jsonRoom) >>= Act.print).Ends
        session
        (fun _ later => ∃ text,
          graph.document.renderWithin session.host.files.platform.jsonRoom = .ok text ∧
            StandsIn output text later)
        (fun escape later => (later.output = "" ∧
          later.host.files.platform = session.host.files.platform) ∧
            Undelivered session.host.files graph output escape) := by
    refine Act.ends_host (Act.ends_lift (fun text rendered => ⟨text, rendered, ?_⟩)
      fun fault failed => ⟨⟨nothing, rfl⟩, .document named failed⟩)
    rw [stands_in_output_iff named]
    change session.output ++ text ++ "\n" = text ++ "\n"
    rw [nothing, String.empty_append]
  unfold deliver
  split
  · exact printed (Or.inl rfl)
  · exact printed (Or.inr rfl)
  next path filled =>
    refine Act.ends_host (Act.ends_lift (fun saved done => ?_) fun fault failed =>
      ⟨⟨nothing, rfl⟩, .file filled failed⟩)
    obtain ⟨platform, text, rendered, read⟩ := read_of_saved done
    refine Act.ends_set_files ?_
    rw [← bind_pure (Act.say _)]
    refine Act.ends_say (fun _ _ => ⟨text, rendered, (stands_in_file_iff filled).2 read⟩)
      fun unshown => ⟨⟨nothing, platform⟩, .message filled ?_⟩
    exact platform ▸ unshown

end Delivery

section Analysis

variable {host : Host} {command : AnalyzeCommand}

/-- The analysis that a command asks for, as it went, and its graph. -/
inductive Analysed (host : Host) (command : AnalyzeCommand) :
    Analyzer.Analyzed → ImpactGraph → Prop
  | intro {settings : Settings} {pull : PullRequest} {options : Options} {graph : ImpactGraph}
      (known : asked host command = .ok (settings, pull)) (filled : pull.changedFiles ≠ [])
      (valid : Run.options command settings = .ok options)
      (made : ((Analyzer.ofSettings (some settings)).analyze host (.ofFiles pull.changedFiles)
        (.parse command.repository) (.record options)).graph pull .null = .ok graph) :
      Analysed host command ((Analyzer.ofSettings (some settings)).analyze host
        (.ofFiles pull.changedFiles) (.parse command.repository) (.record options)) graph

/-- The run comes to this fault. -/
inductive Fails (host : Host) (command : AnalyzeCommand) : Fault → Prop
  | input {fault : Fault} (failed : asked host command = .error fault) : Fails host command fault
  | options {settings : Settings} {pull : PullRequest} {fault : Fault}
      (known : asked host command = .ok (settings, pull)) (filled : pull.changedFiles ≠ [])
      (failed : Run.options command settings = .error fault) : Fails host command fault
  | delivery {done : Analyzer.Analyzed} {graph : ImpactGraph} {fault : Fault}
      (analysed : Analysed host command done graph)
      (undelivered : Undelivered done.host.files graph command.output (.fault fault)) :
      Fails host command fault

/-- If the fault is one of the file of changes, then this file cannot be read at all: the fault is
none of its content. -/
def IsForeign (files : FileSystem) (command : AnalyzeCommand) (fault : Fault) : Prop :=
  ∀ path, command.changesFile = some path → changesIn files path = .error fault →
    files.readBytes (.parse path) = .error fault

/-- A message that quotes something from outside, but nothing from the file of changes. -/
inductive Quotes (host : Host) (command : AnalyzeCommand) : String → Prop
  | error {fault : Fault} (fails : Fails host command fault)
      (foreign : IsForeign host.files command fault) :
      Quotes host command s!"[red]Error:[/red] {fault.message}"
  | warning {done : Analyzer.Analyzed} {graph : ImpactGraph} {error : String}
      (analysed : Analysed host command done graph) (found : error ∈ done.findings.errors) :
      Quotes host command s!"[yellow]Warning:[/yellow] {error}"
  | written {done : Analyzer.Analyzed} {graph : ImpactGraph} {path : String}
      (analysed : Analysed host command done graph) (named : command.output = some path) :
      Quotes host command s!"[green]Impact graph written to:[/green] {path}"

/-- A message that says why there is no document. -/
inductive Explains (host : Host) (command : AnalyzeCommand) : String → Prop
  | unchanged {settings : Settings} {pull : PullRequest}
      (known : asked host command = .ok (settings, pull)) (nothing : pull.changedFiles = []) :
      Explains host command "[yellow]No changed files given.[/yellow]"
  | error {fault : Fault} (fails : Fails host command fault) (reported : fault.isReported = true) :
      Explains host command s!"[red]Error:[/red] {fault.message}"

/-- A value is used as something it is not: one in the settings, or the document in the file of
changes, which describes no changes. Or else there is no room for reading one of them. -/
inductive Misused (host : Host) (command : AnalyzeCommand) : Fault → Prop
  | settings {fault : Fault} (failed : settingsOf host command = .error fault)
      (silent : fault.isReported = false) (followed : fault.isFollowed = true) :
      Misused host command fault
  | changes {settings : Settings} {path : String} {fault : Fault}
      (found : settingsOf host command = .ok settings)
      (named : command.changesFile = some path) (filled : path ≠ "")
      (misdescribed : Misdescribes host.files path)
      (failed : changesIn host.files path = .error fault) : Misused host command fault
  | unfathomed {settings : Settings} {path detail : String}
      (found : settingsOf host command = .ok settings)
      (named : command.changesFile = some path) (filled : path ≠ "")
      (unfathomed : Unfathomed host.files path detail) : Misused host command (.tooDeep detail)

/-- What the settings and the file of changes hold is followed here: there is no half of a character
in a text, and no section of the settings is told to do without its attributes. -/
def Followed (host : Host) (command : AnalyzeCommand) : Prop :=
  ∀ fault, asked host command = .error fault → fault.isFollowed = true

/-- How a run that analyses a repository ends. -/
inductive Ended (host : Host) (command : AnalyzeCommand) : Ending → Session → Prop
  | delivered {done : Analyzer.Analyzed} {graph : ImpactGraph} {text : String} {session : Session}
      (analysed : Analysed host command done graph)
      (rendered : graph.document.renderWithin host.files.platform.jsonRoom = .ok text)
      (stands : StandsIn command.output text session) : Ended host command (.status 0) session
  | told {message before : String} {text : List Char} {session : Session}
      (explains : Explains host command message)
      (shown : host.files.platform.shownText? message = some text)
      (console : session.console = before ++ Console.display text) (nothing : session.output = "") :
      Ended host command (.status 1) session
  | misused {fault : Fault} {session : Session} (misused : Misused host command fault) :
      Ended host command (.escaped (.fault fault)) session
  | deep {done : Analyzer.Analyzed} {graph : ImpactGraph} {session : Session}
      (analysed : Analysed host command done graph)
      (deep : host.files.platform.jsonRoom.levels < graph.document.toValue.nesting) :
      Ended host command (.escaped (.fault host.files.platform.jsonRoom.fault)) session
  | unshown {message : String} {session : Session} (quotes : Quotes host command message)
      (unshown : host.files.platform.shownText? message = none) :
      Ended host command (.escaped .markup) session

def Broken (host : Host) (command : AnalyzeCommand) : Escape → Session → Prop
  | .fault fault, session => Fails host command fault ∧ session.output = "" ∧
      session.host.files.platform = host.files.platform
  | .markup, session => Ended host command (.escaped .markup) session

theorem graph_made (done : Analyzer.Analyzed) (pull : PullRequest) :
    ∃ graph, done.graph pull .null = .ok graph :=
  ImpactGraph.build_defined (Changes.files_normalized pull.changedFiles) (Or.inr rfl)

theorem Analysed.platform {done : Analyzer.Analyzed} {graph : ImpactGraph}
    (analysed : Analysed host command done graph) :
    done.host.files.platform = host.files.platform := by
  cases analysed with
  | intro => exact Analyzer.analyze_platform ..

theorem ends_analysed {done : Analyzer.Analyzed} {graph : ImpactGraph} {session : Session}
    (analysed : Analysed host command done graph) (left : session.host = done.host)
    (nothing : session.output = "") :
    (deliver graph command.output >>= fun _ => pure 0).Ends session
      (fun code => Ended host command (.status code)) (Broken host command) := by
  refine Act.Ends.bind ((ends_deliver nothing).imp (fun _ _ => id) ?_) ?_
  · rintro escape later ⟨⟨silent, platform⟩, undelivered⟩
    rw [left] at platform undelivered
    cases escape with
    | fault fault =>
        exact ⟨.delivery analysed undelivered, silent, platform.trans analysed.platform⟩
    | markup =>
        generalize named : command.output = output at undelivered
        cases undelivered with
        | message filled unshown =>
            rw [analysed.platform] at unshown
            exact .unshown (.written analysed named) unshown
  · rintro _ later ⟨text, rendered, stands⟩
    rw [left, analysed.platform] at rendered
    exact .delivered analysed rendered stands

section Shown

variable (shows : Console.ShowsStyled host.files.platform)

include shows

theorem ends_conclude {session : Session} (same : session.host = host) {settings : Settings}
    {pull : PullRequest} (known : asked host command = .ok (settings, pull))
    (nothing : session.output = "") :
    (conclude command settings pull).Ends session
      (fun code => Ended host command (.status code)) (Broken host command) := by
  subst same
  unfold conclude
  split
  next empty =>
    refine Act.ends_say (fun text shown => ?_) fun unshown => ?_
    · exact .told (.unchanged known (List.isEmpty_iff.1 empty)) shown rfl nothing
    · obtain ⟨text, shown⟩ := Console.no_change_shown shows
      rw [shown] at unshown
      cases unshown
  next some_changed =>
    have filled : pull.changedFiles ≠ [] := mt List.isEmpty_iff.2 some_changed
    refine Act.ends_lift (fun options valid => ?_) fun fault failed =>
      ⟨.options known filled failed, nothing, rfl⟩
    refine Act.ends_host (Act.ends_set_host (Act.ends_lift (fun graph made => ?_)
      fun fault unmade => ?_))
    · have analysed := Analysed.intro known filled valid made
      refine Act.ends_print_table (Act.ends_warnings (fun console => ?_) ?_)
      · exact ends_analysed analysed rfl nothing
      · intro error found unshown console
        exact .unshown (.warning analysed found) (analysed.platform ▸ unshown)
    · obtain ⟨graph, made⟩ := graph_made _ pull
      rw [made] at unmade
      cases unmade

theorem ends_analyze {session : Session} (same : session.host = host)
    (directory : host.files.isDirectory (.parse command.repository) = .ok true)
    (nothing : session.output = "") :
    (analyze command).Ends session (fun code => Ended host command (.status code))
      (Broken host command) := by
  subst same
  refine Act.ends_of_run (analyze_run command session directory) ?_
  refine Act.ends_lift (fun known found => ?_) fun fault failed => ⟨.input failed, nothing, rfl⟩
  exact ends_conclude shows rfl found nothing

end Shown

section Reported

variable {fault : Fault}

theorem ask_reported {files : FileSystem} {path : Path} {property : Entry → Bool}
    (failed : files.ask path property = .error fault) : fault.isReported = true := by
  unfold FileSystem.ask at failed
  split at failed
  · cases failed
  · split at failed <;> cases failed
    rfl

theorem ensure_directory_reported {files : FileSystem} {path : Path}
    (failed : files.ensureDirectory path = .error fault) : fault.isReported = true := by
  unfold FileSystem.ensureDirectory at failed
  split at failed
  · cases failed
  · rcases bind_error_iff.1 failed with unknown | ⟨known, -, failed⟩
    · exact ask_reported unknown
    · split at failed <;> cases failed
      rfl

theorem ensure_above_reported {files : FileSystem} {path : Path} {above : Nat}
    (failed : files.ensureAbove path above = .error fault) : fault.isReported = true := by
  induction above generalizing path fault with
  | zero => exact ensure_directory_reported failed
  | succ above induction =>
      rw [FileSystem.ensureAbove] at failed
      split at failed
      · rcases bind_error_iff.1 failed with before | ⟨grown, -, here⟩
        · exact induction before
        · exact ensure_directory_reported here
      · exact ensure_directory_reported failed

theorem ensure_directories_reported {files : FileSystem} {path : Path}
    (failed : files.ensureDirectories path = .error fault) : fault.isReported = true := by
  unfold FileSystem.ensureDirectories at failed
  split at failed
  · cases failed
    rfl
  · exact ensure_above_reported failed

theorem write_reported {files : FileSystem} {path : Path} {bytes : List UInt8}
    (failed : files.write path bytes = .error fault) : fault.isReported = true := by
  rcases bind_error_iff.1 failed with unwritable | ⟨location, -, done⟩
  · unfold FileSystem.writable at unwritable
    split at unwritable
    · cases unwritable
      rfl
    · split at unwritable
      · cases unwritable
      · split at unwritable <;> cases unwritable
        rfl
      · cases unwritable
        rfl
  · cases done

theorem render_reported {room : Room} {value : Value}
    (failed : Json.renderWithin room value = .error fault) :
    fault.isReported = true ∨ fault = room.fault ∧ room.levels < value.nesting := by
  have demanded := Value.demanded_within room.fault room.levels value
  rcases bind_error_iff.1 failed with refused | ⟨_, -, done⟩
  · rw [refused] at demanded
    cases demanded with
    | tooLong => exact Or.inl rfl
    | tooDeep deep => exact Or.inr ⟨rfl, deep⟩
  · cases done

theorem options_reported {command : AnalyzeCommand} {settings : Settings}
    (failed : Run.options command settings = .error fault) : fault.isReported = true := by
  have said {value : Value} {shown : Fault} (reported : shown.isReported = true)
      (failed : (value.demandWritable >>= fun _ => throw shown : Outcome Options) =
        .error fault) : fault.isReported = true := by
    unfold Value.demandWritable at failed
    split at failed <;> cases failed
    · exact reported
    · rfl
  unfold Run.options Options.make at failed
  split at failed
  · split at failed
    · exact said rfl failed
    · cases failed
  · exact said rfl failed

theorem Undelivered.reported {files : FileSystem} {graph : ImpactGraph} {output : Option String}
    (undelivered : Undelivered files graph output (.fault fault)) :
    fault.isReported = true ∨ fault = files.platform.jsonRoom.fault ∧
      files.platform.jsonRoom.levels < graph.document.toValue.nesting := by
  cases undelivered with
  | document printed failed => exact render_reported failed
  | file filled failed =>
      rcases bind_error_iff.1 failed with ungrown | ⟨grown, -, failed⟩
      · exact Or.inl (ensure_directories_reported ungrown)
      · rcases bind_error_iff.1 failed with unrendered | ⟨text, -, unwritten⟩
        · exact render_reported unrendered
        · exact Or.inl (write_reported unwritten)

end Reported

theorem fault_of_asked {fault : Fault} (failed : asked host command = .error fault) :
    settingsOf host command = .error fault ∨ ∃ settings path,
      settingsOf host command = .ok settings ∧ command.changesFile = some path ∧ path ≠ "" ∧
        changesIn host.files path = .error fault := by
  rcases bind_error_iff.1 failed with unset | ⟨settings, found, failed⟩
  · exact Or.inl unset
  · rcases bind_error_iff.1 failed with unread | ⟨pull, -, done⟩
    · rcases bind_error_iff.1 unread with unread | ⟨pull, -, done⟩
      · unfold changesInFile at unread
        split at unread
        · cases unread
        · cases unread
        next path filled named => exact Or.inr ⟨settings, path, found, named, filled, unread⟩
      · cases done
    · cases done

theorem Fails.misused {fault : Fault} (fails : Fails host command fault)
    (silent : fault.isReported = false) (followed : Followed host command) (session : Session) :
    Ended host command (.escaped (.fault fault)) session := by
  have reported (known : fault.isReported = true) : False :=
    Bool.false_ne_true (silent.symm.trans known)
  cases fails with
  | input failed =>
      rcases fault_of_asked failed with unset | ⟨settings, path, found, named, filled, unread⟩
      · exact .misused (.settings unset silent (followed fault failed))
      · rcases fault_of_changes unread with refused | ⟨content, -⟩ | ⟨detail, rfl, unfathomed⟩ |
          ⟨matter, rfl⟩ | ⟨undescribed, -⟩
        · exact (reported (FileSystem.read_bytes_reported refused).1).elim
        · exact (reported (Fault.reported_of_content content)).elim
        · exact .misused (.unfathomed found named filled unfathomed)
        · cases followed _ failed
        · exact .misused (.changes found named filled undescribed unread)
  | options known filled failed => exact (reported (options_reported failed)).elim
  | delivery analysed undelivered =>
      rcases undelivered.reported with known | ⟨rfl, deep⟩
      · exact (reported known).elim
      · rw [analysed.platform] at deep ⊢
        exact .deep analysed deep

theorem Fails.quotes (shows : Console.ShowsStyled host.files.platform) {fault : Fault}
    (fails : Fails host command fault) (reported : fault.isReported = true)
    (unshown : host.files.platform.shownText? s!"[red]Error:[/red] {fault.message}" = none) :
    Quotes host command s!"[red]Error:[/red] {fault.message}" := by
  refine .error fails fun path named failed => ?_
  rcases fault_of_changes failed with refused | ⟨-, plain⟩ | ⟨detail, rfl, -⟩ | ⟨matter, rfl⟩ |
    ⟨-, misuse, rfl⟩
  · exact refused
  · obtain ⟨text, shown⟩ := Console.error_shown shows plain
    rw [shown] at unshown
    cases unshown
  all_goals cases reported

theorem ends_reporting (followed : Followed host command)
    (shows : Console.ShowsStyled host.files.platform) {act : Act Nat} {session : Session}
    (ends : act.Ends session (fun code => Ended host command (.status code))
      (Broken host command)) :
    (reporting act).Ends session (fun code => Ended host command (.status code))
      (fun escape => Ended host command (.escaped escape)) := by
  refine ends.handled fun escape later broken => ?_
  cases escape with
  | markup => exact broken
  | fault fault =>
      obtain ⟨fails, nothing, platform⟩ := broken
      cases reported : fault.isReported with
      | false =>
          dsimp only
          rw [reported]
          exact fails.misused reported followed later
      | true =>
          dsimp only
          rw [reported]
          refine Act.ends_say (fun text shown => ?_) fun unshown => ?_
          · exact .told (.error fails reported) (platform ▸ shown) rfl nothing
          · rw [platform] at unshown
            exact .unshown (fails.quotes shows reported unshown) unshown

theorem asked_of_changes {settings : Settings} {path : String} {fault : Fault}
    (found : settingsOf host command = .ok settings) (named : command.changesFile = some path)
    (filled : path ≠ "") (failed : changesIn host.files path = .error fault) :
    asked host command = .error fault := by
  refine bind_error_iff.2 (Or.inr ⟨settings, found, ?_⟩)
  refine bind_error_iff.2 (Or.inl (bind_error_iff.2 (Or.inl ?_)))
  rw [changes_in_file_named named filled]
  exact failed

theorem asked_of_misused {fault : Fault} (misused : Misused host command fault) :
    asked host command = .error fault ∧ fault.isReported = false := by
  cases misused with
  | settings failed silent => exact ⟨bind_error_iff.2 (Or.inl failed), silent⟩
  | changes found named filled misdescribed failed =>
      refine ⟨asked_of_changes found named filled failed, ?_⟩
      obtain ⟨misuse, same⟩ := misuse_of_misdescribed misdescribed
      cases failed.symm.trans same
      rfl
  | unfathomed found named filled unfathomed =>
      exact ⟨asked_of_changes found named filled (fault_of_unfathomed unfathomed), rfl⟩

theorem run_of_misused {arguments : List String} {fault : Fault}
    (understood : CommandLine.understand arguments = .ok (.analyze command))
    (directory : host.files.isDirectory (.parse command.repository) = .ok true)
    (misused : Misused host command fault) :
    runCommandLine host arguments = ⟨.escaped (.fault fault), false, ⟨host, "", ""⟩⟩ := by
  obtain ⟨failed, silent⟩ := asked_of_misused misused
  have analysed : analyze command ⟨host, "", ""⟩ = .error (.fault fault) ⟨host, "", ""⟩ := by
    rw [analyze_run command ⟨host, "", ""⟩ directory, failed]
    rfl
  have ran : Run.command (.analyze command) ⟨host, "", ""⟩ =
      .error (.fault fault) ⟨host, "", ""⟩ := by
    change EStateM.tryCatch _ _ _ = _
    rw [EStateM.tryCatch, analysed]
    dsimp only
    rw [silent]
    rfl
  rw [runCommandLine, understood]
  dsimp only
  rw [ran]

theorem Ended.status_of_content {ending : Ending} {session : Session} {settings : Settings}
    {path : String} {fault : Fault} (ended : Ended host command ending session)
    (found : settingsOf host command = .ok settings) (named : command.changesFile = some path)
    (filled : path ≠ "") (failed : changesIn host.files path = .error fault)
    (content : fault.isContent = true) : ending = .status 1 := by
  have unknown := asked_of_changes found named filled failed
  have no_analysis {done : Analyzer.Analyzed} {graph : ImpactGraph}
      (analysed : Analysed host command done graph) : False := by
    cases analysed with
    | intro known => cases unknown.symm.trans known
  cases ended with
  | delivered analysed => exact (no_analysis analysed).elim
  | deep analysed => exact (no_analysis analysed).elim
  | told => rfl
  | misused misused =>
      obtain ⟨failed, silent⟩ := asked_of_misused misused
      cases unknown.symm.trans failed
      exact absurd (Fault.reported_of_content content) (by simp [silent])
  | unshown quotes =>
      cases quotes with
      | warning analysed => exact (no_analysis analysed).elim
      | written analysed => exact (no_analysis analysed).elim
      | error fails foreign =>
          cases fails with
          | options known => cases unknown.symm.trans known
          | delivery analysed => exact (no_analysis analysed).elim
          | input again =>
              cases unknown.symm.trans again
              have refused := FileSystem.read_bytes_reported (foreign path named failed)
              exact absurd content (by simp [refused.2])

end Analysis

/-- A run that analyses a repository ends with the document where it is wanted and status 0, or
with a message why there is none and status 1, unless a value is misused, there is no room for
reading or writing a document, or a message cannot be shown. A misused value ends the run without a
word. A file of changes that holds no text or no document is always reported. -/
theorem analysis_reports_or_misuses (host : Host)
    (shows : Console.ShowsStyled host.files.platform) {arguments : List String}
    {command : AnalyzeCommand}
    (understood : CommandLine.understand arguments = .ok (.analyze command))
    (directory : host.files.isDirectory (.parse command.repository) = .ok true)
    (followed : Followed host command) :
    Ended host command (runCommandLine host arguments).ending
        (runCommandLine host arguments).session ∧
      (∀ fault, Misused host command fault →
        runCommandLine host arguments = ⟨.escaped (.fault fault), false, ⟨host, "", ""⟩⟩) ∧
      ∀ settings path fault, settingsOf host command = .ok settings →
        command.changesFile = some path → path ≠ "" → changesIn host.files path = .error fault →
        fault.isContent = true → (runCommandLine host arguments).ending = .status 1 := by
  have ended : Ended host command (runCommandLine host arguments).ending
      (runCommandLine host arguments).session := by
    have ends : (reporting (analyze command)).Ends ⟨host, "", ""⟩
        (fun code => Ended host command (.status code))
        (fun escape => Ended host command (.escaped escape)) :=
      ends_reporting followed shows (ends_analyze shows rfl directory rfl)
    rw [Act.Ends] at ends
    rw [runCommandLine, understood]
    dsimp only
    rw [Run.command]
    cases ran : reporting (analyze command) ⟨host, "", ""⟩ with
    | ok code later =>
        rw [ran] at ends
        exact ends
    | error escape later =>
        rw [ran] at ends
        exact ends
  refine ⟨ended, fun fault => run_of_misused understood directory, ?_⟩
  intro settings path fault found named filled failed content
  exact ended.status_of_content found named filled failed content

/-! Two files of changes, in a root directory where nothing else is. -/

namespace ChangesAtRoot

open CommandLine

def files (text : String) : FileSystem :=
  (⟨[], [], .ordinary⟩ : FileSystem).put ["c.json"] (.file (Utf8.ofString text))

def host (text : String) : Host :=
  ⟨files text, ⟨.root, []⟩, [], none, .initial, ⟨"", ""⟩, false, ""⟩

def arguments : List String := ["analyze", "/", "--changes-file", "/c.json"]

def command : AnalyzeCommand := ⟨"/", [], some "/c.json", none, false, none, false⟩

theorem nothing_read (known : List Switch) (place : Option Place) :
    readWords known place [] = ⟨[], [], false⟩ := by
  rw [readWords]

theorem main_read : CommandLine.read mainSwitches (some .remainder) arguments =
    ⟨[.words arguments], [], false⟩ := by
  have classified : classifyAll? mainSwitches arguments = some [⟨"analyze", .plain⟩,
      ⟨"/", .plain⟩, ⟨"--changes-file", .unknown⟩, ⟨"/c.json", .plain⟩] := rfl
  rw [CommandLine.read, classified]
  dsimp only
  rw [readWords]
  change (readWords mainSwitches none []).after [.words arguments] [] = _
  rw [nothing_read]
  rfl

theorem analyze_read : CommandLine.read analyzeSwitches (some .word) (arguments.drop 1) =
    ⟨[.words ["/"], .switch .changesFile (some "/c.json")], [], false⟩ := by
  have classified : classifyAll? analyzeSwitches (arguments.drop 1) = some [⟨"/", .plain⟩,
      ⟨"--changes-file", .switch ⟨.changesFile, false, none⟩⟩, ⟨"/c.json", .plain⟩] := rfl
  rw [CommandLine.read, classified]
  dsimp only
  rw [readWords]
  change (readWords analyzeSwitches none [_, _]).after [.words ["/"]] [] = _
  rw [readWords]
  change ((readWords analyzeSwitches none []).after [.switch .changesFile (some "/c.json")]
    []).after [.words ["/"]] [] = _
  rw [nothing_read]
  rfl

theorem understood : understand arguments = .ok (.analyze command) := by
  have inner : readAnalyze (arguments.drop 1) = .ok ⟨.analyze command, []⟩ := by
    rw [readAnalyze, analyze_read]
    rfl
  have outer : takeAll takeCommand ⟨.help, []⟩ ⟨[.words arguments], [], false⟩ =
      .ok ⟨.analyze command, []⟩ := by
    rw [takeAll]
    change (readAnalyze (arguments.drop 1) >>= pure) >>= _ = _
    rw [inner]
    rfl
  rw [understand, main_read]
  dsimp only
  rw [outer]
  rfl

variable (text : String)

theorem directory : (host text).files.isDirectory (.parse command.repository) = .ok true :=
  FileSystem.root_is_directory (files text)

theorem no_settings_file : ∀ path ∈ Settings.candidates (files text) ⟨.root, []⟩
    (some (.parse command.repository)), (files text).isFile path = .ok false := by
  intro path member
  obtain ⟨directory, inside, child⟩ := List.mem_flatMap.1 member
  obtain ⟨name, known, rfl⟩ := List.mem_map.1 child
  have same : Settings.directories (files text) ⟨.root, []⟩ (some (.parse command.repository)) =
      List.replicate 3 ⟨.root, []⟩ := rfl
  rw [same] at inside
  rw [List.eq_of_mem_replicate inside]
  have names : ∀ name ∈ Settings.fileNames, FileSystem.isName name = true ∧
      name.utf8ByteSize ≤ FileSystem.longestName ∧ [name] ≠ ["c.json"] := by decide
  obtain ⟨named, short, other⟩ := names name known
  have missing : (files text).lookup? [name] = none := by
    rw [files, FileSystem.lookup_put_apart (by decide) _ other]
    rfl
  exact FileSystem.no_file_of_free (FileSystem.arrive_free_name named short missing)

theorem settings_found : settingsOf (host text) command = .ok .initial := by
  have found : Settings.firstFile? (files text) (Settings.candidates (files text) ⟨.root, []⟩
      (some (.parse command.repository)) ++ []) = .ok none :=
    Settings.first_file_reached (no_settings_file text)
  rw [List.append_nil] at found
  have discovered : (host text).discover (some (.parse command.repository)) = .ok .initial := by
    rw [Host.discover, Settings.discover_eq, host, found]
    rfl
  rw [settingsOf, discovered]
  rfl

theorem text_read (level : '\r' ∉ text.toList) :
    Settings.readPlainText (host text).files (.parse "/c.json") = .ok text := by
  have writable : (⟨[], [], .ordinary⟩ : FileSystem).writable ⟨.root, ["c.json"]⟩ =
      .ok ["c.json"] :=
    FileSystem.writable_name (by decide) (by decide) (by decide) rfl
  exact Settings.read_plain_text_written writable level

theorem no_document : changesIn (host "x").files "/c.json" =
    .error (.badDocument ⟨"Expecting value", 1, 1, 0⟩) := by
  rw [changesIn, text_read "x" (by decide)]
  have unread : Json.read Platform.ordinary.readRoom "x" =
      .error (.badDocument ⟨"Expecting value", 1, 1, 0⟩) := by rfl
  change Json.read Platform.ordinary.readRoom "x" >>= pullRequestOf = _
  rw [unread]
  rfl

def emptyRecord : String := "[\x7b\x7d]"

theorem record_read :
    Json.read Platform.ordinary.readRoom emptyRecord = .ok (.list [.dict []]) := rfl

theorem no_changes : changesIn (host emptyRecord).files "/c.json" =
    .error (.misuse (.missingKey "path")) := by
  rw [changesIn, text_read emptyRecord (by decide)]
  change Json.read Platform.ordinary.readRoom emptyRecord >>= pullRequestOf = _
  rw [record_read]
  rfl

theorem record_misused :
    Misused (host emptyRecord) command (.misuse (.missingKey "path")) := by
  have undescribed : ¬DescribesChanges (.list [.dict []]) := by
    rw [← pull_request_of_ok_iff (by decide)]
    rintro ⟨pull, ⟨⟩⟩
  exact .changes (settings_found emptyRecord) rfl (by decide)
    ⟨emptyRecord, _, text_read emptyRecord (by decide), record_read, undescribed⟩ no_changes

end ChangesAtRoot

/-- A file that is no document ends the run with status 1. -/
theorem file_without_document_reported :
    CommandLine.understand ChangesAtRoot.arguments = .ok (.analyze ChangesAtRoot.command) ∧
      Console.ShowsStyled (ChangesAtRoot.host "x").files.platform ∧
      (ChangesAtRoot.host "x").files.isDirectory (.parse ChangesAtRoot.command.repository) =
        .ok true ∧
      Followed (ChangesAtRoot.host "x") ChangesAtRoot.command ∧
      Fault.isContent (.badDocument ⟨"Expecting value", 1, 1, 0⟩) = true ∧
      (runCommandLine (ChangesAtRoot.host "x") ChangesAtRoot.arguments).ending = .status 1 := by
  have directory := ChangesAtRoot.directory "x"
  have shows : Console.ShowsStyled (ChangesAtRoot.host "x").files.platform :=
    Console.ordinary_shows_styled
  have settings := ChangesAtRoot.settings_found "x"
  have unknown := asked_of_changes settings rfl (by decide) ChangesAtRoot.no_document
  have followed : Followed (ChangesAtRoot.host "x") ChangesAtRoot.command := by
    intro fault failed
    cases unknown.symm.trans failed
    rfl
  obtain ⟨-, -, reported⟩ := analysis_reports_or_misuses (ChangesAtRoot.host "x") shows
    ChangesAtRoot.understood directory followed
  exact ⟨ChangesAtRoot.understood, shows, directory, followed, rfl,
    reported _ "/c.json" _ settings rfl (by decide)
      ChangesAtRoot.no_document rfl⟩

/-- A record without a path ends the run with an escape and not a word. -/
theorem record_without_path_escapes :
    CommandLine.understand ChangesAtRoot.arguments = .ok (.analyze ChangesAtRoot.command) ∧
      (ChangesAtRoot.host ChangesAtRoot.emptyRecord).files.isDirectory
        (.parse ChangesAtRoot.command.repository) = .ok true ∧
      Json.read Platform.ordinary.readRoom ChangesAtRoot.emptyRecord = .ok (.list [.dict []]) ∧
      runCommandLine (ChangesAtRoot.host ChangesAtRoot.emptyRecord) ChangesAtRoot.arguments =
        ⟨.escaped (.fault (.misuse (.missingKey "path"))), false,
          ⟨ChangesAtRoot.host ChangesAtRoot.emptyRecord, "", ""⟩⟩ :=
  ⟨ChangesAtRoot.understood, ChangesAtRoot.directory _, ChangesAtRoot.record_read,
    run_of_misused ChangesAtRoot.understood (ChangesAtRoot.directory _)
      ChangesAtRoot.record_misused⟩

end Run

end ImportImpact
