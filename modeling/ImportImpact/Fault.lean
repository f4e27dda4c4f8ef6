import ImportImpact.Value.Printer

/-!
What can go wrong, by cause. Settings and change records are untyped documents: using a value of
the wrong kind is a `Misuse`, found when the value is used and not when it is read. The wording
of every fault is `Fault.message`.
-/

namespace ImportImpact

inductive Misuse where
  | notIterable (kind : String)
  | noMember (kind member : String)
  | unhashable (kind : String)
  | notOrdered (symbol left right : String)
  | operands (symbol left right : String)
  | notJoinable (left right : String)
  | missingKey (key : String)
  | notIndexable (kind : String)
  | badIndex (kind index : String)
  | encodingName (kind : String)
  | pathName (kind : String)
  | patternText (kind : String)
  | derivedSetting
  | settingName (kind : String)
  | notClass (kind : String)
  | notDictionary (kind : String)
  | notWritable (name owner : String)
  deriving DecidableEq

def Misuse.message : Misuse → String
  | .notIterable kind => s!"'{kind}' object is not iterable"
  | .noMember kind member => s!"'{kind}' object has no attribute '{member}'"
  | .unhashable kind => s!"unhashable type: '{kind}'"
  | .notOrdered symbol left right =>
      s!"'{symbol}' not supported between instances of '{left}' and '{right}'"
  | .operands symbol left right =>
      s!"unsupported operand type(s) for {symbol}: '{left}' and '{right}'"
  | .notJoinable left right => s!"can only concatenate {left} (not \"{right}\") to {left}"
  | .missingKey key => Text.quoted key
  | .notIndexable kind => s!"'{kind}' object is not subscriptable"
  | .badIndex "str" index => s!"string indices must be integers, not '{index}'"
  | .badIndex kind index => s!"{kind} indices must be integers or slices, not {index}"
  | .encodingName "NoneType" => "decode() argument 'encoding' must be str, not None"
  | .encodingName kind => s!"decode() argument 'encoding' must be str, not {kind}"
  | .pathName kind => s!"expected str, bytes or os.PathLike object, not {kind}"
  | .patternText kind => s!"expected string or bytes-like object, got '{kind}'"
  | .derivedSetting => "property 'scan_extensions' of 'DependencyConfig' object has no setter"
  | .settingName kind => s!"attribute name must be string, not '{kind}'"
  | .notClass kind => s!"__class__ must be set to a class, not '{kind}' object"
  | .notDictionary kind => s!"__dict__ must be set to a dictionary, not a '{kind}'"
  | .notWritable name owner => s!"attribute '{name}' of '{owner}' objects is not writable"

inductive Refusal where
  | noEntry
  | alreadyExists
  | notDirectory
  | isDirectory
  | nameTooLong
  | tooManyLinks
  deriving DecidableEq

def Refusal.code : Refusal → Nat
  | .noEntry => 2
  | .alreadyExists => 17
  | .notDirectory => 20
  | .isDirectory => 21
  | .nameTooLong => 36
  | .tooManyLinks => 40

def Refusal.description : Refusal → String
  | .noEntry => "No such file or directory"
  | .alreadyExists => "File exists"
  | .notDirectory => "Not a directory"
  | .isDirectory => "Is a directory"
  | .nameTooLong => "File name too long"
  | .tooManyLinks => "Too many levels of symbolic links"

def Refusal.message (refusal : Refusal) (path : String) : String :=
  s!"[Errno {refusal.code}] {refusal.description}: {Text.quoted path}"

/-- Bytes `start` to `stop` (exclusive) are no part of a text; `first` is the first of them. -/
structure BadBytes where
  first : Nat
  start : Nat
  stop : Nat
  reason : String
  deriving DecidableEq

def BadBytes.message (bad : BadBytes) : String :=
  if bad.stop = bad.start + 1 then
    let digits := String.ofList (Text.lowerHexDigits 2 bad.first)
    s!"'utf-8' codec can't decode byte 0x{digits} in position {bad.start}: {bad.reason}"
  else
    let last := bad.stop - 1
    s!"'utf-8' codec can't decode bytes in position {bad.start}-{last}: {bad.reason}"

/-- A place in a document, counted in characters from its start and in lines and columns
from 1. -/
structure BadDocument where
  reason : String
  line : Nat
  column : Nat
  offset : Nat
  deriving DecidableEq

def BadDocument.message (bad : BadDocument) : String :=
  s!"{bad.reason}: line {bad.line} column {bad.column} (char {bad.offset})"

inductive Fault where
  | depthNotInteger (given : Value)
  | depthNegative (given : Int)
  | variableNotInteger (name value : String)
  | unparsableSettings (path detail : String)
  | settingsNotMapping (path : String)
  | notAFile (path : String)
  | tooLarge (path : String)
  | unreadable (path : String) (refusal : Refusal)
  | undecodable (encodings : List String) (path : String)
  | missingPath (path : String)
  | linkLoop (path : String)
  | refused (refusal : Refusal) (path : String)
  | nulByte
  | nulCharacter
  | badBytes (bad : BadBytes)
  | badDocument (bad : BadDocument)
  | tooManyDigits (count : Nat)
  | numberTooLong
  | noDigits (base : Nat)
  | logFormat (format : String)
  /-- A codec broke off without a verdict on the bytes. -/
  | codecFailed (detail : String)
  /-- More nested calls than the stack of the interpreter holds. -/
  | tooDeep (refusal : String)
  /-- Here these definitions end: what the program makes of this they do not say. -/
  | unfollowed (matter : String)
  | misuse (cause : Misuse)

namespace Fault

def message : Fault → String
  | .depthNotInteger given => s!"max_depth must be an integer, got {given.shown}"
  | .depthNegative given => s!"max_depth must be >= 0, got {given}"
  | .variableNotInteger name value => s!"{name} must be an integer, got {Text.quoted value}"
  | .unparsableSettings path detail => s!"Could not parse config file {path}: {detail}"
  | .settingsNotMapping path => s!"Config file {path} must contain a mapping"
  | .notAFile path => s!"Not a file: {path}"
  | .tooLarge path => s!"File too large: {path}"
  | .unreadable path refusal => s!"Error reading file {path}: {refusal.message path}"
  | .undecodable encodings path =>
      s!"Could not decode file with any of {(Value.texts encodings).shown}: {path}"
  | .missingPath path => s!"Path does not exist: {path}"
  | .linkLoop path => s!"Symlink loop from {Text.quoted path}"
  | .refused refusal path => refusal.message path
  | .nulByte => "embedded null byte"
  | .nulCharacter => "embedded null character"
  | .badBytes bad => bad.message
  | .badDocument bad => bad.message
  | .tooManyDigits count =>
      "Exceeds the limit (4300 digits) for integer string conversion: value has " ++
        s!"{count} digits; use sys.set_int_max_str_digits() to increase the limit"
  | .numberTooLong =>
      "Exceeds the limit (4300 digits) for integer string conversion; " ++
        "use sys.set_int_max_str_digits() to increase the limit"
  | .logFormat format => s!"Invalid format '{format}' for '%' style"
  | .noDigits base => s!"invalid literal for int() with base {base}: ''"
  | .codecFailed detail => detail
  | .tooDeep refusal => refusal
  | .unfollowed matter => s!"not followed here: {matter}"
  | .misuse cause => cause.message

/-- Faults of reading one repository file; the analysis passes over the file. -/
def ofReading : Fault → Bool
  | .notAFile _ | .tooLarge _ | .unreadable _ _ | .undecodable _ _ | .missingPath _ => true
  | _ => false

end Fault

abbrev Outcome (α : Type) := Except Fault α

namespace Value

def misused {α : Type} (misuse : Misuse) : Outcome α := .error (.misuse misuse)

/-- What a loop over the value visits: the items of a list, the characters of a text, the keys
of a mapping. -/
def elements : Value → Outcome (List Value)
  | .list items => .ok items
  | .str text => .ok (text.toList.map fun character => .str (String.singleton character))
  | .dict entries => .ok (entries.map (·.1))
  | other => misused (.notIterable other.kindName)

def textFor (member : String) : Value → Outcome String
  | .str text => .ok text
  | other => misused (.noMember other.kindName member)

def hashable : Value → Outcome Unit
  | value@(.list _) | value@(.dict _) => misused (.unhashable value.kindName)
  | _ => .ok ()

def demandWritable (value : Value) : Outcome Unit :=
  if value.isWritable then .ok () else .error .numberTooLong

mutual

/-- Going through the value fails at what comes first: a whole number that is too long to be
written, or a list or mapping inside so many others that there is no level left for it. -/
def demandWithin (refusal : Fault) (levels : Nat) : Value → Outcome Unit
  | .int number => if hasShortText number then .ok () else .error .numberTooLong
  | .list items => match levels with
    | 0 => .error refusal
    | levels + 1 => demandItemsWithin refusal levels items
  | .dict entries => match levels with
    | 0 => .error refusal
    | levels + 1 => demandEntriesWithin refusal levels entries
  | _ => .ok ()

def demandItemsWithin (refusal : Fault) (levels : Nat) : List Value → Outcome Unit
  | [] => .ok ()
  | item :: rest => do
      item.demandWithin refusal levels
      demandItemsWithin refusal levels rest

def demandEntriesWithin (refusal : Fault) (levels : Nat) : List (Value × Value) → Outcome Unit
  | [] => .ok ()
  | (key, value) :: rest => do
      key.demandWithin refusal levels
      value.demandWithin refusal levels
      demandEntriesWithin refusal levels rest

end

/-- The distinct members of a collection; lists and mappings cannot be members. -/
def members (value : Value) : Outcome (List Value) := do
  let items ← value.elements
  items.forM hashable
  pure items

end Value

end ImportImpact
