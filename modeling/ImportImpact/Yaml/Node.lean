import ImportImpact.Fault
import ImportImpact.Yaml.Meaning

/-!
YAML documents as trees of texts, and the values that they stand for. Only a plain text can mean
something other than itself. Keys are texts, so they can always be compared.
-/

namespace ImportImpact.Yaml

/-- Why a document gives no value: it is no document of the kind that is read here, or it holds
something written like a number that is none. -/
inductive Trouble where
  | malformed
  | number (cause : Number.Unreadable)
  deriving DecidableEq

structure Scalar where
  plain : Bool
  text : List Char
  deriving DecidableEq

inductive Node where
  | scalar (content : Scalar)
  | sequence (items : List Node)
  | mapping (entries : List (Scalar × Node))
  deriving Inhabited

def Node.nothing : Node := .scalar ⟨true, []⟩

def Scalar.string (scalar : Scalar) : String := String.ofList scalar.text

/-- Times are kept as they are written. The two signs stand for nothing that is read here. -/
def Scalar.value (scalar : Scalar) : Except Trouble Value :=
  if !scalar.plain then .ok (.str scalar.string)
  else match Meaning.ofText scalar.text with
    | .null => .ok .null
    | .truth truth => .ok (.bool truth)
    | .whole (.ok number) => .ok (.int number)
    | .whole (.error cause) => .error (.number cause)
    | .float number => .ok (.float number)
    | .time | .text => .ok (.str scalar.string)
    | .sign => .error .malformed

namespace Node

mutual

def value : Node → Except Trouble Value
  | .scalar content => content.value
  | .sequence items => do pure (.list (← itemValues items))
  | .mapping entries => do pure (.ofEntries (← entryValues entries))

def itemValues : List Node → Except Trouble (List Value)
  | [] => .ok []
  | item :: rest => do
      let first ← item.value
      pure (first :: (← itemValues rest))

def entryValues : List (Scalar × Node) → Except Trouble (List (Value × Value))
  | [] => .ok []
  | (key, node) :: rest => do
      let key ← key.value
      let value ← node.value
      pure ((key, value) :: (← entryValues rest))

end

end Node

end ImportImpact.Yaml
