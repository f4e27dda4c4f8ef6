import ImportImpact.Proofs.FileSystem.Written
import ImportImpact.Proofs.Json.Read
import ImportImpact.Proofs.Settings.Given
import ImportImpact.Proofs.Settings.Saved
import ImportImpact.Proofs.Settings.Variable
import ImportImpact.Proofs.Yaml.Keyed
import ImportImpact.Settings.Store

/-!
Finding the settings that hold. Every setting has the value of its variable, or else the one that
the selected file gives, or else its initial value, unless the file puts something in the place of a
whole section. The selected file is the first of the candidates that is a file, and what lies behind
it is never asked for.
-/

namespace ImportImpact.Settings

open Outcome

section Candidates

def directories (system : FileSystem) (home : Path) (start : Option Path) : List Path :=
  start.toList ++ [⟨.root, system.workingDirectory⟩, home]

/-- All paths that settings files may have, the ones that count first at the front. -/
def candidates (system : FileSystem) (home : Path) (start : Option Path) : List Path :=
  (directories system home start).flatMap fun directory => fileNames.map directory.child

def firstFile? (system : FileSystem) : List Path → Outcome (Option Path)
  | [] => .ok none
  | path :: rest => do
      if ← system.isFile path then pure (some path) else firstFile? system rest

variable {system : FileSystem}

theorem first_file_cons (path : Path) (rest : List Path) : firstFile? system (path :: rest) = (do
    if ← system.isFile path then pure (some path) else firstFile? system rest) := rfl

theorem file_in_eq (directory : Path) (names : List String) :
    fileIn? system directory names = firstFile? system (names.map directory.child) := by
  induction names with
  | nil => rfl
  | cons name rest induction => rw [fileIn?, induction, List.map_cons, first_file_cons]

theorem first_file_append (paths more : List Path) :
    firstFile? system (paths ++ more) = firstFile? system paths >>= fun found =>
      match found with
      | some path => pure (some path)
      | none => firstFile? system more := by
  induction paths with
  | nil => rfl
  | cons path rest induction =>
      rw [List.cons_append, first_file_cons, induction, first_file_cons]
      cases system.isFile path with
      | error fault => rfl
      | ok there => cases there <;> rfl

theorem first_in_eq (directories : List Path) : firstIn? system directories =
    firstFile? system (directories.flatMap fun directory => fileNames.map directory.child) := by
  induction directories with
  | nil => rfl
  | cons directory rest induction =>
      rw [firstIn?, file_in_eq, induction, List.flatMap_cons]
      exact (first_file_append ..).symm

theorem first_file_reached {before after : List Path}
    (none_before : ∀ path ∈ before, system.isFile path = .ok false) :
    firstFile? system (before ++ after) = firstFile? system after := by
  induction before with
  | nil => rfl
  | cons path rest induction =>
      obtain ⟨first, later⟩ := List.forall_mem_cons.1 none_before
      rw [List.cons_append, first_file_cons, first, ← induction later]
      rfl

theorem first_file_some {paths : List Path} {path : Path}
    (found : firstFile? system paths = .ok (some path)) :
    ∃ before after, paths = before ++ path :: after ∧
      (∀ earlier ∈ before, system.isFile earlier = .ok false) ∧ system.isFile path = .ok true := by
  induction paths with
  | nil => cases found
  | cons first rest induction =>
      rw [first_file_cons, bind_ok_iff] at found
      obtain ⟨there, asked, found⟩ := found
      cases there with
      | true =>
          cases found
          exact ⟨[], rest, rfl, by simp, asked⟩
      | false =>
          obtain ⟨before, after, rfl, missing, here⟩ := induction found
          exact ⟨first :: before, after, rfl, List.forall_mem_cons.2 ⟨asked, missing⟩, here⟩

theorem first_file_none {paths : List Path} (found : firstFile? system paths = .ok none) :
    ∀ path ∈ paths, system.isFile path = .ok false := by
  induction paths with
  | nil => simp
  | cons first rest induction =>
      rw [first_file_cons, bind_ok_iff] at found
      obtain ⟨there, asked, found⟩ := found
      cases there with
      | true => cases found
      | false => exact List.forall_mem_cons.2 ⟨asked, induction found⟩

end Candidates

section Load

variable {system : FileSystem} {path : Path}

/-- No mapping in a document that is read has a key twice. -/
def ReadsKeyed (platform : Platform) : Prop :=
  ∀ content document, platform.readYaml content = .ok document → document.Keyed

theorem parse_keyed {platform : Platform} (keyed : ReadsKeyed platform) {content : String}
    {document : Value} (parsed : parse platform path content = .ok document) :
    document.Keyed := by
  unfold parse at parsed
  split at parsed
  · split at parsed
    next read =>
      cases parsed
      exact keyed content _ read
    all_goals cases parsed
  · split at parsed
    next read =>
      cases parsed
      exact (Json.tidy_of_read read).keyed
    all_goals cases parsed

/-- The document in the file: a mapping, or nothing at all. -/
def Documents (system : FileSystem) (path : Path) (document : Value) : Prop :=
  ∃ content, readPlainText system path = .ok content ∧
    parse system.platform path content = .ok document ∧
    (document = .null ∨ ∃ entries, document = .dict entries)

theorem documents_of_read {document : Value} (there : system.isFile path = .ok true)
    (read : readDocument system path = .ok document) : Documents system path document := by
  obtain ⟨content, entry⟩ := FileSystem.is_file_iff.1 there
  have known : system.exists? path = .ok true := by rw [FileSystem.exists?, FileSystem.ask, entry]
  rw [readDocument, known] at read
  obtain ⟨text, plain, read⟩ := bind_ok_iff.1 (show
    (readPlainText system path >>= fun text => parse system.platform path text >>= _) =
      .ok document from read)
  obtain ⟨parsed, done, read⟩ := bind_ok_iff.1 read
  refine ⟨text, plain, ?_⟩
  split at read
  · cases read
    exact ⟨done, Or.inl rfl⟩
  · cases read
    exact ⟨done, Or.inr ⟨_, rfl⟩⟩
  · cases read

theorem load_documented (keyed : ReadsKeyed system.platform) {held changed : Settings}
    (there : system.isFile path = .ok true) (loaded : held.load system path = ⟨changed, none⟩) :
    ∃ document, Documents system path document ∧
      (KeepsSections document → changed = held.overlaid (given? document)) := by
  unfold load at loaded
  split at loaded
  next document read =>
    obtain ⟨content, plain, parsed, kind⟩ := documents_of_read there read
    refine ⟨document, ⟨content, plain, parsed, kind⟩, fun kept => ?_⟩
    rcases kind with rfl | ⟨entries, rfl⟩
    · cases loaded
      rfl
    · have orderly := orderly_of_applied (parse_keyed keyed parsed) kept
        (congrArg Changed.fault loaded)
      rw [apply_orderly held orderly] at loaded
      exact (congrArg Changed.settings loaded).symm
  · cases loaded

theorem load_congr {other : FileSystem} (platform : other.platform = system.platform)
    (there : system.isFile path = .ok true)
    (thereToo : other.isFile path = .ok true)
    (same : other.readBytes path = system.readBytes path) (held : Settings) :
    held.load other path = held.load system path := by
  have known {some : FileSystem} (file : some.isFile path = .ok true) :
      some.exists? path = .ok true := by
    obtain ⟨content, entry⟩ := FileSystem.is_file_iff.1 file
    rw [FileSystem.exists?, FileSystem.ask, entry]
  have text : readPlainText other path = readPlainText system path := by
    rw [readPlainText, same, readPlainText]
  rw [load, readDocument, known thereToo, text, platform, load, readDocument, known there]

end Load

section Discover

/-- The document that counts: of the first path that is a file, or an empty one. -/
inductive Selected (system : FileSystem) (paths : List Path) : Value → Prop
  | nothing (missing : ∀ path ∈ paths, system.isFile path = .ok false) :
      Selected system paths .null
  | file {before after : List Path} {path : Path} {document : Value}
      (order : paths = before ++ path :: after)
      (missing : ∀ earlier ∈ before, system.isFile earlier = .ok false)
      (there : system.isFile path = .ok true) (documents : Documents system path document) :
      Selected system paths document

theorem documents_unique {path : Path} {document other : Value}
    (documents : Documents system path document) (others : Documents system path other) :
    document = other := by
  obtain ⟨content, plain, parsed, -⟩ := documents
  obtain ⟨_, plainToo, parsedToo, -⟩ := others
  obtain rfl := Except.ok.inj (plain.symm.trans plainToo)
  exact Except.ok.inj (parsed.symm.trans parsedToo)

theorem first_of_selected {paths : List Path} {document : Value}
    (selected : Selected system paths document) :
    firstFile? system paths = .ok none ∧ document = .null ∨
      ∃ path, firstFile? system paths = .ok (some path) ∧ Documents system path document := by
  cases selected with
  | nothing missing =>
      have passed : firstFile? system (paths ++ []) = .ok none := first_file_reached missing
      rw [List.append_nil] at passed
      exact Or.inl ⟨passed, rfl⟩
  | @file before after path _ order missing there documents =>
      refine Or.inr ⟨path, ?_, documents⟩
      rw [order, first_file_reached missing, first_file_cons, there]
      rfl

theorem selected_unique {paths : List Path} {document other : Value}
    (selected : Selected system paths document) (others : Selected system paths other) :
    document = other := by
  rcases first_of_selected selected with ⟨first, rfl⟩ | ⟨path, first, documents⟩
  · rcases first_of_selected others with ⟨second, rfl⟩ | ⟨_, second, _⟩
    · rfl
    · cases first.symm.trans second
  · rcases first_of_selected others with ⟨second, _⟩ | ⟨_, second, documentsToo⟩
    · cases first.symm.trans second
    · cases first.symm.trans second
      exact documents_unique documents documentsToo

/-- The value is the one of the setting's variable, or else the given one, or else the initial
one. -/
structure FromLayers (environment : Environment) (document : Value) (setting : Setting)
    (value : Value) : Prop where
  named : ∀ entry ∈ environment, setting.IsNamedBy entry.1 → setting.meaning? entry.2 = some value
  unnamed : (∀ entry ∈ environment, ¬setting.IsNamedBy entry.1) →
    value = (given? document setting).getD setting.initial

variable {system : FileSystem} {home : Path} {environment : Environment} {start : Option Path}

def fromFile (system : FileSystem) : Option Path → Changed
  | some path => initial.load system path
  | none => ⟨initial, none⟩

def withVariables (environment : Environment) : Changed → Outcome Settings
  | ⟨_, some fault⟩ => .error fault
  | ⟨settings, none⟩ => match settings.applyEnvironment environment with
    | ⟨_, some fault⟩ => .error fault
    | ⟨settings, none⟩ => .ok settings

theorem discover_eq (system : FileSystem) (home : Path) (environment : Environment)
    (start : Option Path) : discover system home environment start =
      firstFile? system (candidates system home start) >>= fun found =>
        withVariables environment (fromFile system found) := by
  rw [candidates, directories, ← first_in_eq, discover]
  refine congrArg _ (funext fun found => ?_)
  cases found <;> rfl

theorem selected_of_loaded (keyed : ReadsKeyed system.platform) {settings : Settings}
    {found : Option Path} {paths : List Path}
    (first : firstFile? system paths = .ok found)
    (loaded : fromFile system found = ⟨settings, none⟩) :
    ∃ document, Selected system paths document ∧
      (KeepsSections document → settings = initial.overlaid (given? document)) := by
  cases found with
  | none =>
      cases loaded
      exact ⟨.null, .nothing (first_file_none first), fun _ => rfl⟩
  | some path =>
      obtain ⟨before, after, order, missing, there⟩ := first_file_some first
      obtain ⟨document, documents, same⟩ := load_documented keyed there loaded
      exact ⟨document, .file order missing there documents, same⟩

theorem applied_of_variables {settings : Settings} {changed : Changed}
    (done : withVariables environment changed = .ok settings) :
    ∃ held : Settings, changed = ⟨held, none⟩ ∧
      held.applyEnvironment environment = ⟨settings, none⟩ := by
  unfold withVariables at done
  split at done
  · cases done
  next held =>
    split at done
    · cases done
    next applied =>
      cases done
      exact ⟨held, rfl, applied⟩

theorem layers_of_discovered (keyed : ReadsKeyed system.platform) {settings : Settings}
    (distinct : (environment.map fun entry => Text.lowerCase entry.1).Nodup)
    (done : discover system home environment start = .ok settings) :
    ∃ document, Selected system (candidates system home start) document ∧
      (KeepsSections document →
        ∀ setting, FromLayers environment document setting (settings.value setting)) := by
  rw [discover_eq] at done
  obtain ⟨found, first, done⟩ := bind_ok_iff.1 done
  obtain ⟨held, loaded, applied⟩ := applied_of_variables done
  obtain ⟨document, selected, overlaid⟩ := selected_of_loaded keyed first loaded
  refine ⟨document, selected, fun kept setting => ?_⟩
  obtain rfl := overlaid kept
  obtain ⟨named, unnamed⟩ := applied_environment distinct applied setting
  exact ⟨named, unnamed⟩

/-- What lies behind the selected file is never asked for, and of the file only its content. -/
theorem discover_congr {other : FileSystem} {before after : List Path} {here : Path}
    (platform : other.platform = system.platform)
    (working : other.workingDirectory = system.workingDirectory)
    (order : candidates system home start = before ++ here :: after)
    (missing : ∀ path ∈ before, system.isFile path = .ok false)
    (reached : system.isFile here ≠ .ok false)
    (asked : ∀ path ∈ before ++ [here], other.isFile path = system.isFile path)
    (content : other.readBytes here = system.readBytes here) :
    discover other home environment start = discover system home environment start := by
  obtain ⟨before_asked, here_asked⟩ := List.forall_mem_append.1 asked
  have alike := here_asked here List.mem_cons_self
  have missing_too : ∀ path ∈ before, other.isFile path = .ok false := fun path member =>
    (before_asked path member).trans (missing path member)
  have order_too : candidates other home start = before ++ here :: after := by
    rw [← order, candidates, candidates, directories, working]
    rfl
  rw [discover_eq, order_too, first_file_reached missing_too, firstFile?, alike, discover_eq, order,
    first_file_reached missing, firstFile?]
  cases there : system.isFile here with
  | error fault => rfl
  | ok file =>
      cases file with
      | false => exact absurd there reached
      | true =>
          exact congrArg (withVariables environment)
            (load_congr platform there (alike.trans there) content initial)

/-- If settings are found, each has the value of its variable, or else the one that the selected
file gives, or else its initial value, if the file puts nothing in the place of a whole section. The
selected file is the first of the candidates that is a file. Nothing that lies elsewhere counts:
neither another file system that answers the same about the candidates up to the selected one and
has the same content there, nor a file written, whatever its content, at a place that none of these
candidates leads to. -/
theorem settings_found_in_order (system : FileSystem) (home : Path) (environment : Environment)
    (start : Option Path) (keyed : ReadsKeyed system.platform)
    (distinct : (environment.map fun entry => Text.lowerCase entry.1).Nodup) :
    (∀ settings, discover system home environment start = .ok settings →
      ∃ document, Selected system (candidates system home start) document ∧
        (KeepsSections document →
          ∀ setting, FromLayers environment document setting (settings.value setting))) ∧
    ∀ before here after, candidates system home start = before ++ here :: after →
      (∀ path ∈ before, system.isFile path = .ok false) → system.isFile here ≠ .ok false →
      (∀ other : FileSystem, other.platform = system.platform →
        other.workingDirectory = system.workingDirectory →
        (∀ path ∈ before ++ [here], other.isFile path = system.isFile path) →
        other.readBytes here = system.readBytes here →
        discover other home environment start = discover system home environment start) ∧
      ∀ place content, system.HoldsFile place →
        (∀ path ∈ before ++ [here], ¬system.EndsAt path place) →
        discover (system.put place (.file content)) home environment start =
          discover system home environment start := by
  refine ⟨fun settings done => layers_of_discovered keyed distinct done,
    fun before here after order missing reached => ⟨fun other platform working asked content =>
      discover_congr platform working order missing reached asked content,
      fun place content holds elsewhere => ?_⟩⟩
  have here_elsewhere := elsewhere here (List.mem_append_right _ List.mem_cons_self)
  exact discover_congr rfl rfl order missing reached
    (fun path member => FileSystem.ask_beside_put content holds (elsewhere path member) _)
    (FileSystem.read_beside_put content holds here_elsewhere reached)

end Discover

/-! A settings file in the working directory, one behind it in the home directory, a variable. -/

namespace FileBeforeHome

def bare : FileSystem :=
  ⟨[(["h"], .directory), (["h", ".prgraph.yaml"], .file [])], [], .ordinary⟩

def here : Path := ⟨.root, [".prgraph.json"]⟩

def home : Path := ⟨.root, ["h"]⟩

theorem writable_here : bare.writable here = .ok [".prgraph.json"] :=
  FileSystem.writable_name (by decide) (by decide) (by decide) rfl

/-- A mapping that can be written and has two levels below it, no more. -/
structure Writable (document : Value) : Prop where
  documented : document.Documented
  short : document.isWritable = true
  shallow : document.nesting ≤ 3
  mapping : ∃ entries, document = .dict entries

def text (document : Value) : String := String.ofList (Json.write 0 document)

def filesWith (document : Value) : FileSystem :=
  bare.put [".prgraph.json"] (.file (Utf8.ofString (text document)))

section Held

variable {document : Value}

theorem file_here : (filesWith document).isFile here = .ok true :=
  FileSystem.is_file_iff.2 ⟨_, FileSystem.entry_of_written _ writable_here⟩

theorem located_here : (filesWith document).locate here = .ok [".prgraph.json"] := by
  have there : (filesWith document).lookup? [".prgraph.json"] =
      some (.file (Utf8.ofString (text document))) :=
    FileSystem.lookup_put_here (by decide) _
  exact FileSystem.locate_name (by decide) (by decide) there (by simp)

theorem missing_before {name : String} (known : name = ".prgraph.yaml" ∨ name = ".prgraph.yml") :
    (filesWith document).arrive true ⟨.root, [name]⟩ = .ok (.free [name]) := by
  have missing : (filesWith document).lookup? [name] = none := by
    have other : [name] ≠ [".prgraph.json"] := by
      rcases known with rfl | rfl <;> decide
    rw [filesWith, FileSystem.lookup_put_apart (by decide) _ other]
    rcases known with rfl | rfl <;> rfl
  rcases known with rfl | rfl <;>
    exact FileSystem.arrive_free_name (by decide) (by decide) missing

theorem documents_here (writable : Writable document) :
    Documents (filesWith document) here document := by
  have rendered : Json.render document = .ok (text document) :=
    Json.render_ok_iff.2 ⟨writable.short, rfl⟩
  refine ⟨text document, ?_, ?_, Or.inr writable.mapping⟩
  · exact read_plain_text_written writable_here fun member =>
      (Json.rendered_printed writable.documented rendered _ member).no_return rfl
  · rw [parse, if_neg (by decide), (Json.read_rendered writable.documented rendered).2 _
      (Nat.le_trans writable.shallow (Nat.le_trans (by decide) (Room.least _)))]

theorem loaded (writable : Writable document) :
    initial.load (filesWith document) here = initial.apply document := by
  have known : (filesWith document).exists? here = .ok true :=
    FileSystem.exists_of_written _ writable_here
  obtain ⟨content, plain, parsed, -⟩ := documents_here writable
  have read : readDocument (filesWith document) here = .ok document := by
    obtain ⟨entries, rfl⟩ := writable.mapping
    rw [readDocument, known]
    simp only [bind, Except.bind, if_true, plain, parsed]
    rfl
  rw [load, read]

theorem order : candidates (filesWith document) home none =
    [⟨.root, [".prgraph.yaml"]⟩, ⟨.root, [".prgraph.yml"]⟩] ++ here ::
      [home.child ".prgraph.yaml", home.child ".prgraph.yml", home.child ".prgraph.json"] := rfl

theorem missing : ∀ path ∈ ([⟨.root, [".prgraph.yaml"]⟩, ⟨.root, [".prgraph.yml"]⟩] : List Path),
    (filesWith document).isFile path = .ok false := by
  refine List.forall_mem_cons.2 ⟨FileSystem.no_file_of_free (missing_before (Or.inl rfl)), ?_⟩
  exact List.forall_mem_singleton.2 (FileSystem.no_file_of_free (missing_before (Or.inr rfl)))

theorem selected_here (writable : Writable document) :
    Selected (filesWith document) (candidates (filesWith document) home none) document :=
  .file order missing file_here (documents_here writable)

theorem discover_here (writable : Writable document) (environment : Environment) :
    discover (filesWith document) home environment none =
      withVariables environment (initial.apply document) := by
  rw [discover_eq, order, first_file_reached missing, firstFile?, file_here]
  change withVariables environment (initial.load (filesWith document) here) = _
  rw [loaded writable]

theorem reads_keyed : ReadsKeyed (filesWith document).platform :=
  fun _ _ read => Yaml.keyed_of_read read

end Held

def named : Value := .record [("graph", .record [("tool_name", .str "here")])]

def environment : Environment := [("prgraph_log_level", "DEBUG"), ("PRGRAPH_Max_Depth", "7")]

def settings : Settings := (initial.set .toolName (.str "here")).set .maxDepth (.int 7)

theorem named_writable : Writable named where
  documented := by
    refine .record (List.forall_mem_singleton.2 (.record ?_ (by simp))) (by simp)
    exact List.forall_mem_singleton.2 (.str _)
  short := by decide
  shallow := by decide
  mapping := ⟨_, rfl⟩

theorem named_keeps_sections : KeepsSections named := by
  intro part name listed
  simp only [wholeNames, List.mem_cons, List.not_mem_nil, or_false] at listed
  rcases listed with rfl | rfl <;> cases part <;> rfl

theorem applied (held : Settings) :
    held.applyEnvironment environment = ⟨held.set .maxDepth (.int 7), none⟩ := by
  have unopened : Text.after? variableOpening.toList "prgraph_log_level".toList = none := by
    decide
  have foreign : held.applyVariable "prgraph_log_level" "DEBUG" = .ok held := by
    rw [applyVariable, unopened]
  have opened : Text.after? variableOpening.toList "PRGRAPH_Max_Depth".toList =
      some "Max_Depth".toList := by decide
  have word : Text.lowerCase (String.ofList "Max_Depth".toList) = "max_depth" := by decide
  have depth : Decimal.readInteger? "7" = some 7 := by decide
  have named : held.applyVariable "PRGRAPH_Max_Depth" "7" = .ok (held.set .maxDepth (.int 7)) := by
    rw [applyVariable, opened]
    dsimp only
    rw [word, depth]
    rfl
  rw [environment, applyEnvironment, foreign]
  dsimp only
  rw [applyEnvironment, named]
  rfl

theorem discovered : discover (filesWith named) home environment none = .ok settings := by
  have given : initial.apply named = ⟨initial.set .toolName (.str "here"), none⟩ := rfl
  rw [discover_here named_writable, given, withVariables, applied]
  rfl

theorem home_elsewhere : (filesWith named).HoldsFile ["h", ".prgraph.yaml"] ∧
    ∀ path ∈ ([⟨.root, [".prgraph.yaml"]⟩, ⟨.root, [".prgraph.yml"]⟩] : List Path) ++ [here],
      ¬(filesWith named).EndsAt path ["h", ".prgraph.yaml"] := by
  constructor
  · intro entry there
    rw [filesWith, FileSystem.lookup_put_apart (by decide) _ (by decide)] at there
    cases there
    rfl
  · have apart {path : Path} {arrival : FileSystem.Arrival}
        (arrived : (filesWith named).arrive true path = .ok arrival)
        (other : arrival ≠ .entry ["h", ".prgraph.yaml"] ∧
          arrival ≠ .free ["h", ".prgraph.yaml"]) :
        ¬(filesWith named).EndsAt path ["h", ".prgraph.yaml"] := by
      rintro (there | there)
      · exact other.1 (Except.ok.inj (arrived.symm.trans there))
      · exact other.2 (Except.ok.inj (arrived.symm.trans there))
    obtain ⟨short, followed⟩ := FileSystem.located_iff.1 located_here
    simp only [List.cons_append, List.nil_append, List.forall_mem_cons]
    refine ⟨apart (missing_before (Or.inl rfl)) (by simp),
      apart (missing_before (Or.inr rfl)) (by simp),
      apart (FileSystem.arrive_ok_iff.2 ⟨short, followed⟩) (by simp), by simp⟩

end FileBeforeHome

/-- The depth comes from a variable, the tool name from the file, and the level from neither; what
stands in the file at home does not matter. -/
theorem depth_from_variable_and_name_from_file :
    ReadsKeyed (FileBeforeHome.filesWith FileBeforeHome.named).platform ∧
    (FileBeforeHome.environment.map fun entry => Text.lowerCase entry.1).Nodup ∧
    ∃ settings, discover (FileBeforeHome.filesWith FileBeforeHome.named) FileBeforeHome.home
        FileBeforeHome.environment none = .ok settings ∧
      Setting.meaning? .maxDepth "7" = some (settings.value .maxDepth) ∧
      settings.value .logLevel = .str "WARNING" ∧ settings.value .toolName = .str "here" ∧
      ∀ content, discover ((FileBeforeHome.filesWith FileBeforeHome.named).put
          ["h", ".prgraph.yaml"] (.file content))
        FileBeforeHome.home FileBeforeHome.environment none = .ok settings := by
  have distinct : (FileBeforeHome.environment.map fun entry => Text.lowerCase entry.1).Nodup := by
    decide
  obtain ⟨layers, unseen⟩ := settings_found_in_order
    (FileBeforeHome.filesWith FileBeforeHome.named) FileBeforeHome.home FileBeforeHome.environment
    none FileBeforeHome.reads_keyed distinct
  obtain ⟨document, selected, sources⟩ := layers _ FileBeforeHome.discovered
  obtain rfl := selected_unique selected
    (FileBeforeHome.selected_here FileBeforeHome.named_writable)
  obtain ⟨holds, elsewhere⟩ := FileBeforeHome.home_elsewhere
  refine ⟨FileBeforeHome.reads_keyed, distinct, _, FileBeforeHome.discovered, ?_, rfl, rfl,
    fun content => ?_⟩
  · have listed : ("PRGRAPH_Max_Depth", "7") ∈ FileBeforeHome.environment := by
      simp [FileBeforeHome.environment]
    refine (sources FileBeforeHome.named_keeps_sections .maxDepth).named _ listed
      ⟨"Max_Depth", rfl, ?_⟩
    exact congrArg some (by decide)
  · have reached : (FileBeforeHome.filesWith FileBeforeHome.named).isFile FileBeforeHome.here ≠
        .ok false := by
      rw [FileBeforeHome.file_here]
      simp
    exact ((unseen _ _ _ FileBeforeHome.order FileBeforeHome.missing reached).2 _ content holds
      elsewhere).trans FileBeforeHome.discovered

namespace FileBeforeHome

/-- A mapping in the place of all that the section has. -/
def replacing : Value :=
  .record [("graph", .record [("__dict__", .record [("tool_name", .str "other")])])]

theorem replacing_writable : Writable replacing where
  documented := by
    refine .record (List.forall_mem_singleton.2 (.record ?_ (by simp))) (by simp)
    exact List.forall_mem_singleton.2 (.record (List.forall_mem_singleton.2 (.str _)) (by simp))
  short := by decide
  shallow := by decide
  mapping := ⟨_, rfl⟩

/-- The tool name is neither that of a variable nor one that the file sets nor the initial one. -/
theorem tool_name_from_no_layer :
    Selected (filesWith replacing) (candidates (filesWith replacing) home none) replacing ∧
      given? replacing .toolName = none ∧
      ∃ settings, discover (filesWith replacing) home [] none = .ok settings ∧
        settings.value .toolName = .str "other" ∧
        ¬FromLayers [] replacing .toolName (settings.value .toolName) := by
  refine ⟨selected_here replacing_writable, rfl,
    initial.refill .graph [(.str "tool_name", .str "other")], ?_, rfl, fun layers => ?_⟩
  · rw [discover_here replacing_writable]
    rfl
  · have initially := layers.unnamed fun entry member => absurd member List.not_mem_nil
    exact absurd (Value.str.inj initially) (by decide)

end FileBeforeHome

end ImportImpact.Settings
