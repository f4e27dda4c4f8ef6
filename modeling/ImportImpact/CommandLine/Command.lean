import ImportImpact.CommandLine.Reading
import ImportImpact.Decimal.IntegerText
import ImportImpact.Settings.Store

/-!
The commands of the program: analysing a set of changes, and making a settings file. A command
line without a command asks for help.
-/

namespace ImportImpact

structure AnalyzeCommand where
  repository : String
  changed : List String
  changesFile : Option String
  maxDepth : Option Int
  noReverse : Bool
  output : Option String
  verbose : Bool

inductive Command where
  | analyze (command : AnalyzeCommand)
  | init (format : String)
  | help

inductive Stop where
  | help
  | version
  | misused
  deriving DecidableEq

def Stop.status : Stop → Nat
  | .help | .version => 0
  | .misused => 2

namespace CommandLine

def takeAll {α : Type} (take : α → Event → Except Stop α) (start : α) (reading : Reading) :
    Except Stop α := do
  let taken ← reading.events.foldlM take start
  if reading.failed then throw .misused else pure taken

def analyzeSwitches : List Switch :=
  [.help, .changed, .changesFile, .maxDepth, .noReverse, .output, .verbose]

def initSwitches : List Switch := [.help, .format]

def mainSwitches : List Switch := [.help, .version]

structure AnalyzeDraft where
  repository : Option String
  command : AnalyzeCommand

def AnalyzeDraft.empty : AnalyzeDraft :=
  ⟨none, ⟨"", [], none, none, false, none, false⟩⟩

/-- The last value of a switch counts; changed files are collected. -/
def AnalyzeDraft.take (draft : AnalyzeDraft) : Event → Except Stop AnalyzeDraft
  | .words texts => .ok { draft with repository := texts.head? }
  | .switch switch value =>
      let command := draft.command
      let text := value.getD ""
      let change (command : AnalyzeCommand) : Except Stop AnalyzeDraft :=
        .ok { draft with command }
      match switch with
      | .help => .error .help
      | .changed => change { command with changed := command.changed ++ [text] }
      | .changesFile => change { command with changesFile := some text }
      | .maxDepth => match Decimal.readInteger? text with
        | some depth => change { command with maxDepth := some depth }
        | none => .error .misused
      | .noReverse => change { command with noReverse := true }
      | .output => change { command with output := some text }
      | .verbose => change { command with verbose := true }
      | .version | .format => .ok draft

/-- A command together with the words that it does not know. -/
structure Understood where
  command : Command
  unknown : List String

def readAnalyze (arguments : List String) : Except Stop Understood := do
  let reading := read analyzeSwitches (some .word) arguments
  let draft ← takeAll AnalyzeDraft.take .empty reading
  match draft.repository with
  | some repository => pure ⟨.analyze { draft.command with repository }, reading.unknown⟩
  | none => throw .misused

def formatNames : List String := ["yaml", "json"]

def takeFormat (format : String) : Event → Except Stop String
  | .switch .help _ => .error .help
  | .switch .format value =>
      let name := value.getD ""
      if formatNames.contains name then .ok name else .error .misused
  | _ => .ok format

def readInit (arguments : List String) : Except Stop Understood := do
  let reading := read initSwitches none arguments
  let format ← takeAll takeFormat "yaml" reading
  pure ⟨.init format, reading.unknown⟩

def takeCommand (understood : Understood) : Event → Except Stop Understood
  | .switch .help _ => .error .help
  | .switch .version _ => .error .version
  | .words ("analyze" :: arguments) => readAnalyze arguments
  | .words ("init" :: arguments) => readInit arguments
  | .words _ => .error .misused
  | _ => .ok understood

/-- Words that nothing is known of are an error, but only once all others have been read. -/
def understand (arguments : List String) : Except Stop Command := do
  let reading := read mainSwitches (some .remainder) arguments
  let understood ← takeAll takeCommand ⟨.help, []⟩ reading
  if (reading.unknown ++ understood.unknown).isEmpty then pure understood.command
  else throw .misused

end CommandLine

end ImportImpact
