import ImportImpact.Decimal.IntegerText
import ImportImpact.Settings.Apply
import ImportImpact.Text.LowerCase
import ImportImpact.Text.Scan

/-!
Settings from environment variables. Three variables count; the case of their names after the
common opening does not. Variables are taken in their order, so of two that differ in case only
the later one wins.
-/

namespace ImportImpact

/-- Variables in the order in which they were set. -/
abbrev Environment := List (String × String)

namespace Settings

def variableOpening : String := "PRGRAPH_"

def affirmative (value : String) : Bool :=
  ["1", "true", "yes"].contains (Text.lowerCase value)

def applyVariable (settings : Settings) (name value : String) : Outcome Settings :=
  match Text.after? variableOpening.toList name.toList with
  | none => .ok settings
  | some rest =>
      match Text.lowerCase (String.ofList rest) with
      | "log_level" => .ok (settings.set .logLevel (.str value))
      | "max_depth" => match Decimal.readInteger? value with
        | some depth => .ok (settings.set .maxDepth (.int depth))
        | none => .error (.variableNotInteger name value)
      | "include_reverse_deps" =>
          .ok (settings.set .includeReverse (.bool (affirmative value)))
      | _ => .ok settings

/-- Variables before a faulty one stay applied. -/
def applyEnvironment (settings : Settings) : Environment → Changed
  | [] => ⟨settings, none⟩
  | (name, value) :: rest => match settings.applyVariable name value with
    | .ok changed => applyEnvironment changed rest
    | .error fault => ⟨settings, some fault⟩

end Settings

end ImportImpact
