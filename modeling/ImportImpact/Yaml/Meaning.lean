import ImportImpact.Yaml.Number
import ImportImpact.Yaml.Time

/-!
What a text in a YAML document means when it stands without quotes: nothing, a truth value, a
number, a time, or itself. The same rules decide how a plain text is read and which texts must be
quoted when they are written.
-/

namespace ImportImpact.Yaml

inductive Meaning where
  | null
  | truth (value : Bool)
  | whole (number : Number.Whole)
  | float (number : Float)
  | time
  /-- The sign for merging mappings, or the one for a default value. -/
  | sign
  | text

namespace Meaning

def nullNames : List String := ["", "~", "null", "Null", "NULL"]

def trueNames : List String :=
  ["yes", "Yes", "YES", "true", "True", "TRUE", "on", "On", "ON"]

def falseNames : List String :=
  ["no", "No", "NO", "false", "False", "FALSE", "off", "Off", "OFF"]

def signs : List String := ["<<", "="]

def ofText (text : List Char) : Meaning :=
  let name := String.ofList text
  if nullNames.contains name then .null
  else if trueNames.contains name then .truth true
  else if falseNames.contains name then .truth false
  else if signs.contains name then .sign
  else match Number.whole? text with
    | some number => .whole number
    | none => match Number.float? text with
      | some number => .float number
      | none => if Time.isTime text then .time else .text

def isText (meaning : Meaning) : Bool :=
  match meaning with
  | .text => true
  | _ => false

end Meaning

end ImportImpact.Yaml
