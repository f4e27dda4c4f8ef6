import ImportImpact.Encoding.Utf8
import ImportImpact.FileSystem.Edit
import ImportImpact.Json.Printer
import ImportImpact.Json.Reader
import ImportImpact.Settings.Environment
import ImportImpact.Text.LineEnd
import ImportImpact.Yaml.Printer

/-!
Settings in files. The suffix of a file decides how it is read: YAML for `.yaml` and `.yml`, JSON
for all others. How a file is written is said by whoever writes it. Of the places where a settings
file may lie, the first one that has one counts.
-/

namespace ImportImpact.Settings

def isYaml (path : Path) : Bool := path.suffix = ".yaml" || path.suffix = ".yml"

def readPlainText (system : FileSystem) (path : Path) : Outcome String := do
  match Utf8.decode (← system.readBytes path) with
  | .ok text => pure (String.ofList (Text.unifyLineEnds text))
  | .error bad => throw (.badBytes bad)

def parse (platform : Platform) (path : Path) (content : String) : Outcome Value :=
  if isYaml path then match platform.readYaml content with
    | .ok document => .ok document
    | .error (.malformed detail) => .error (.unparsableSettings path.text detail)
    | .error (.fault fault) => .error fault
  else match Json.read platform.readRoom content with
    | .ok document => .ok document
    | .error (.badDocument bad) => .error (.unparsableSettings path.text bad.message)
    | .error fault => .error fault

/-- The document in a settings file, if the file is there. An empty document stands for no
settings; other documents must be mappings. -/
def readDocument (system : FileSystem) (path : Path) : Outcome Value := do
  if ← system.exists? path then
    match ← parse system.platform path (← readPlainText system path) with
    | .null => pure .null
    | .dict entries => pure (.dict entries)
    | _ => throw (.settingsNotMapping path.text)
  else pure .null

def load (settings : Settings) (system : FileSystem) (path : Path) : Changed :=
  match readDocument system path with
  | .ok document => settings.apply document
  | .error fault => ⟨settings, some fault⟩

inductive FileFormat where
  | yaml
  | json
  deriving DecidableEq

/-- Everything that is not called YAML is JSON. -/
def FileFormat.ofName (name : String) : FileFormat := if name = "yaml" then .yaml else .json

/-- The settings are copied before they are written. -/
def render (settings : Settings) (platform : Platform) (format : FileFormat) :
    Outcome String := do
  platform.copyRoom.holds settings.toDocument
  match format, settings.toDocument with
  | .yaml, .dict entries => do
      (Value.dict entries).demandWithin platform.yamlRoom.fault platform.yamlRoom.levels
      pure (String.ofList (Yaml.writeMapping entries))
  | _, document => Json.renderWithin platform.jsonRoom document

def save (settings : Settings) (system : FileSystem) (path : Path) (format : FileFormat) :
    Outcome FileSystem := do
  system.write path (Utf8.ofString (← settings.render system.platform format))

def fileNames : List String := [".prgraph.yaml", ".prgraph.yml", ".prgraph.json"]

def fileIn? (system : FileSystem) (directory : Path) : List String → Outcome (Option Path)
  | [] => .ok none
  | name :: rest => do
      let path := directory.child name
      if ← system.isFile path then pure (some path) else fileIn? system directory rest

def firstIn? (system : FileSystem) : List Path → Outcome (Option Path)
  | [] => .ok none
  | directory :: rest => do
      match ← fileIn? system directory fileNames with
      | some path => pure (some path)
      | none => firstIn? system rest

/-- The settings that hold without any given ones: the initial values, changed by the first
settings file found and then by the environment. -/
def discover (system : FileSystem) (home : Path) (environment : Environment)
    (start : Option Path) : Outcome Settings := do
  let here : Path := ⟨.root, system.workingDirectory⟩
  let found ← firstIn? system (start.toList ++ [here, home])
  let fromFile := match found with
    | some path => initial.load system path
    | none => ⟨initial, none⟩
  match fromFile with
  | ⟨_, some fault⟩ => throw fault
  | ⟨settings, none⟩ => match settings.applyEnvironment environment with
    | ⟨_, some fault⟩ => throw fault
    | ⟨settings, none⟩ => pure settings

end ImportImpact.Settings
