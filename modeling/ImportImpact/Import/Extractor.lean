import ImportImpact.Import.ScriptForms
import ImportImpact.Import.StyleForms
import ImportImpact.Path.Written
import ImportImpact.Settings.Basic
import ImportImpact.Text.LowerCase

/-!
Import specifiers of whole files. The suffix of a file's path decides which forms are looked
for; a file of no category has no specifiers.
-/

namespace ImportImpact

inductive Category where
  | script
  | style
  deriving DecidableEq

def Category.name : Category → String
  | .script => "script"
  | .style => "style"

structure Extractor where
  scriptSuffixes : List String
  styleSuffixes : List String
  scriptForms : List Form
  styleForms : List Form

namespace Extractor

def suffixes (extensions : Value) : Outcome (List String) := do
  let items ← extensions.elements
  items.mapM fun item => do pure (Text.lowerCase (← item.textFor "lower"))

def ofSettings (settings : Settings) : Outcome Extractor := do
  let scripts ← suffixes (settings.value .scriptExtensions)
  let styles ← suffixes (settings.value .styleExtensions)
  pure ⟨scripts, styles, Form.scriptForms, Form.styleForms⟩

def forms (extractor : Extractor) : Category → List Form
  | .script => extractor.scriptForms
  | .style => extractor.styleForms

def register (extractor : Extractor) (category : Category) (form : Form) : Extractor :=
  match category with
  | .script => { extractor with scriptForms := extractor.scriptForms ++ [form] }
  | .style => { extractor with styleForms := extractor.styleForms ++ [form] }

/-- A suffix that is listed for both categories is one of style sheets. -/
def categorize (extractor : Extractor) (path : String) : Option Category :=
  let suffix := Text.lowerCase (Written.suffix (Written.withSlashes path))
  if extractor.styleSuffixes.contains suffix then some .style
  else if extractor.scriptSuffixes.contains suffix then some .script
  else none

/-- The specifiers in the order of the forms, then of their places in the text. -/
def extract (extractor : Extractor) (content path : String) : List String :=
  match extractor.categorize path with
  | none => []
  | some category =>
      (extractor.forms category).flatMap fun form =>
        (form.specifiers content.toList).map String.ofList

end Extractor

end ImportImpact
