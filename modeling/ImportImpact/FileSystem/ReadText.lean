import ImportImpact.Encoding.Basic
import ImportImpact.FileSystem.Basic

/-!
Reading a file as text: the first of several encodings that reads the bytes wins. Files above a
size limit are refused. Unknown encodings are passed over.
-/

namespace ImportImpact.FileSystem

structure ReadingRules where
  encoding : Value
  fallbacks : Value
  largest : Value

/-- More bytes than so many megabytes. No limit at all is never exceeded. -/
def exceeds (size : Nat) (megabytes : Value) : Outcome Bool :=
  let bound (number : Int) : Bool := number * 0x100000 < size
  match megabytes with
  | .null => .ok false
  | .int number => .ok (bound number)
  | .bool truth => .ok (bound (if truth then 1 else 0))
  | .float number => .ok (number * 1048576.0 < Float.ofNat size)
  | .dict _ => Value.misused (.operands "*" "dict" "int")
  | other => Value.misused (.notOrdered ">" "int" other.kindName)

/-- Bytes in an encoding of this name. Names that are not known here are left to the platform. -/
def decodeAs (platform : Platform) (bytes : List UInt8) (name : String) : Decoding :=
  match Encoding.ofName? name with
  | some encoding => (encoding.decode? bytes).elim .refused .text
  | none => platform.decode name bytes

/-- Tries the encodings in turn. Bytes that are none at all are read by any encoding, even an
unknown one. -/
def decodeFirst (platform : Platform) (bytes : List UInt8) :
    List Value → Outcome (Option (List Char))
  | [] => .ok none
  | .str name :: rest =>
      if name.toList.contains '\x00' then .error .nulCharacter
      else if bytes.isEmpty then .ok (some [])
      else match decodeAs platform bytes name with
        | .text content => .ok (some content)
        | .refused => decodeFirst platform bytes rest
        | .failed detail => .error (.codecFailed detail)
  | other :: _ => Value.misused (.encodingName other.kindName)

def fallbackNames : Value → Outcome (List Value)
  | .null => .ok [.str "latin-1"]
  | given => given.elements

def encodingNames (encodings : List Value) : List String :=
  encodings.filterMap fun encoding => match encoding with
    | .str name => some name
    | _ => none

def contentAt (system : FileSystem) (path : Path) : Outcome (List UInt8) :=
  match system.entryAt path with
  | .ok (.file bytes) => .ok bytes
  | .error .nameTooLong => .error (.unreadable path.text .nameTooLong)
  | _ => .error (.notAFile path.text)

def readText (system : FileSystem) (rules : ReadingRules) (path : Path) : Outcome String := do
  let bytes ← system.contentAt path
  if ← exceeds bytes.length rules.largest then throw (.tooLarge path.text)
  let encodings := rules.encoding :: (← fallbackNames rules.fallbacks)
  match ← decodeFirst system.platform bytes encodings with
  | some text => pure (String.ofList text)
  | none => throw (.undecodable (encodingNames encodings) path.text)

end ImportImpact.FileSystem
