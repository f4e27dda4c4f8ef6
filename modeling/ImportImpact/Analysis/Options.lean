import ImportImpact.Change.ChangedFile
import ImportImpact.Settings.Basic

/-!
Options of one analysis. A depth is a whole number that is not negative; whether importers are
looked for is decided by any value that counts as true or false.
-/

namespace ImportImpact

structure Options where
  includeReverse : Value
  maxDepth : Nat

namespace Options

/-- A depth that is refused must have a text, because the refusal shows it. -/
def make (includeReverse maxDepth : Value) : Outcome Options :=
  match maxDepth with
  | .int depth =>
      if depth < 0 then do
        (Value.int depth).demandWritable
        throw (.depthNegative depth)
      else .ok ⟨includeReverse, depth.toNat⟩
  | other => do
      other.demandWritable
      throw (.depthNotInteger other)

def ofSettings (settings : Settings) : Outcome Options :=
  make (settings.value .includeReverse) (settings.value .maxDepth)

def toValue (options : Options) : Value :=
  .record [("includeReverseDeps", options.includeReverse), ("maxDepth", .int options.maxDepth)]

end Options

inductive GivenOptions where
  | record (options : Options)
  | document (value : Value)

namespace GivenOptions

/-- The options that hold: a document that leaves one out falls back to the settings, which must
be valid themselves. -/
def complete (settings : Settings) : GivenOptions → Outcome Options
  | .record options => .ok options
  | .document value => do
      let defaults ← Options.ofSettings settings
      if !value.truthy then pure defaults
      else match value with
        | .dict entries =>
            let field (first second : String) (fallback : Value) : Value :=
              (ChangedFile.either? first second entries).getD fallback
            Options.make
              (field "includeReverseDeps" "include_reverse_deps" defaults.includeReverse)
              (field "maxDepth" "max_depth" (.int defaults.maxDepth))
        | other => Value.misused (.noMember other.kindName "get")

end GivenOptions

end ImportImpact
