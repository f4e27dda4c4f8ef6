import ImportImpact.Settings.Basic

/-!
Taking over settings from a document. Sections that are unknown or no mappings and names that
are unknown have no effect, apart from a few names that every section knows without their being
settings. What came before a fault stays applied.
-/

namespace ImportImpact.Settings

def derivedName : String := "scan_extensions"

/-- What one entry of a section does. -/
inductive Assignment where
  | set (setting : Setting) (value : Value)
  | refill (part : Section) (entries : List (Value × Value))
  | nothing
  | fault (fault : Fault)

/-- The settings of a section once a mapping has taken their place. A setting that it leaves out is
back at its initial value, but an initial list is lost and nothing takes its place. -/
def refilled? (part : Section) (entries : List (Value × Value)) : Bool :=
  (Value.lookup "__dataclass_fields__" entries).isNone && part.settings.all fun setting =>
    (Value.lookup setting.name entries).isSome || match setting.initial with
      | .list _ => false
      | _ => true

/-- A name that is none of a setting but known to every section. Four of these names do something
to the section itself. -/
def memberAssignment (part : Section) (name : String) (value : Value) : Assignment :=
  if name = "__class__" then .fault (.misuse (.notClass value.kindName))
  else if name = "__weakref__" then .fault (.misuse (.notWritable name part.className))
  else if name = "__dict__" then match value with
    | .dict entries =>
        if refilled? part entries then .refill part entries
        else .fault (.unfollowed "a section without all of its settings")
    | other => .fault (.misuse (.notDictionary other.kindName))
  else if name = "__dataclass_fields__" then .fault (.unfollowed "a section with other fields")
  else .nothing

def assignment (part : Section) (key value : Value) : Assignment :=
  match key with
  | .str name => match part.setting? name with
    | some setting => .set setting value
    | none =>
        if part = .dependencies && name = derivedName then .fault (.misuse .derivedSetting)
        else memberAssignment part name value
  | other => .fault (.misuse (.settingName other.kindName))

def assignments (entries : List (Value × Value)) : List Assignment :=
  entries.flatMap fun entry => match entry with
    | (.str name, .dict fields) => match Section.ofName? name with
      | some part => fields.map fun field => assignment part field.1 field.2
      | none => []
    | _ => []

structure Changed where
  settings : Settings
  fault : Option Fault

/-- The settings of a section as a mapping gives them, or else their initial values. -/
def refill (settings : Settings) (part : Section) (entries : List (Value × Value)) : Settings :=
  part.settings.foldl (fun settings setting =>
    settings.set setting ((Value.lookup setting.name entries).getD setting.initial)) settings

def perform (settings : Settings) : List Assignment → Changed
  | [] => ⟨settings, none⟩
  | .set setting value :: rest => perform (settings.set setting value) rest
  | .refill part entries :: rest => perform (settings.refill part entries) rest
  | .nothing :: rest => perform settings rest
  | .fault fault :: _ => ⟨settings, some fault⟩

/-- An empty document has no effect, whatever its kind. -/
def apply (settings : Settings) (document : Value) : Changed :=
  if !document.truthy then ⟨settings, none⟩
  else match document with
    | .dict entries => settings.perform (assignments entries)
    | other => ⟨settings, some (.misuse (.noMember other.kindName "items"))⟩

end ImportImpact.Settings
