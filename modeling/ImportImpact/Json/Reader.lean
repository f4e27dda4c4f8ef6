import ImportImpact.Json.Escape
import ImportImpact.Platform

/-!
Reading JSON. The reader is strict about texts and lenient about numbers only in knowing the
names of the infinities. Of entries with one key the last one counts. A refusal names the place
where reading stopped; the reader carries that place as the text left over. Every list and mapping
takes room on the stack while it is read. An escaped surrogate without its partner stands for no
character, and a document with one is not read here.
-/

namespace ImportImpact.Json

inductive Stop where
  | unexpected (reason : String) (left : List Char)
  | tooManyDigits (count : Nat)
  | tooDeep (kind : String)
  | unpaired

def stop {α : Type} (reason : String) (left : List Char) : Except Stop α :=
  .error (.unexpected reason left)

def isSpace (character : Char) : Bool :=
  character = ' ' || character = '\t' || character = '\n' || character = '\r'

def skipSpace (text : List Char) : List Char := text.dropWhile isSpace

/-- Reads on inside a text that began at `quote`; the characters read come last first. Every
step takes a character, so a bound above the length of the input is never reached. -/
def readText (quote : List Char) (read : List Char) :
    Nat → List Char → Except Stop (String × List Char)
  | 0, _ => stop "Unterminated string starting at" quote
  | bound + 1, text => match text with
    | [] => stop "Unterminated string starting at" quote
    | '"' :: rest => .ok (String.ofList read.reverse, rest)
    | '\\' :: rest => match rest with
      | [] => stop "Unterminated string starting at" quote
      | 'u' :: digits => match readUnit? digits with
        | none => stop "Invalid \\uXXXX escape" rest
        | some (unit, after) =>
            if isHighUnit unit then match after with
              | '\\' :: 'u' :: more => match readUnit? more with
                | some (low, afterPair) =>
                    if isLowUnit low then
                      readText quote (joinUnits unit low :: read) bound afterPair
                    else .error .unpaired
                | none => stop "Invalid \\uXXXX escape" ('u' :: more)
              | _ => .error .unpaired
            else if isLowUnit unit then .error .unpaired
            else readText quote (Char.ofNat unit :: read) bound after
      | escaped :: after => match simpleEscape? escaped with
        | some character => readText quote (character :: read) bound after
        | none => stop "Invalid \\escape" text
    | character :: rest =>
        if character.toNat < 0x20 then stop "Invalid control character at" text
        else readText quote (character :: read) bound rest

def isDigit (character : Char) : Bool := character.isDigit

def naturalOf (digits : List Char) : Nat :=
  digits.foldl (fun value digit => 10 * value + (digit.toNat - 48)) 0

def wholeDigits? (text : List Char) : Option (List Char × List Char) :=
  match text with
  | '0' :: rest => some (['0'], rest)
  | digit :: rest =>
      if isDigit digit then some (digit :: rest.takeWhile isDigit, rest.dropWhile isDigit) else none
  | [] => none

def fractionDigits (text : List Char) : List Char × List Char :=
  match text with
  | '.' :: rest =>
      if (rest.takeWhile isDigit).isEmpty then ([], text)
      else (rest.takeWhile isDigit, rest.dropWhile isDigit)
  | _ => ([], text)

def exponentDigits? (text : List Char) : Option (Int × List Char) :=
  match text with
  | mark :: rest =>
      if mark = 'e' || mark = 'E' then
        let (negative, digits) := match rest with
          | '-' :: more => (true, more)
          | '+' :: more => (false, more)
          | _ => (false, rest)
        if (digits.takeWhile isDigit).isEmpty then none
        else
          let size : Int := naturalOf (digits.takeWhile isDigit)
          some (if negative then -size else size, digits.dropWhile isDigit)
      else none
  | [] => none

def negate (negative : Bool) (number : Float) : Float := if negative then -number else number

def readMagnitude (start : List Char) (negative : Bool) (text : List Char) :
    Except Stop (Value × List Char) :=
  match wholeDigits? text with
  | none => stop "Expecting value" start
  | some (whole, afterWhole) =>
      let (fraction, afterFraction) := fractionDigits afterWhole
      match exponentDigits? afterFraction with
      | some (exponent, rest) =>
          .ok (.float (negate negative (Decimal.readFloat (naturalOf (whole ++ fraction))
            (exponent - fraction.length))), rest)
      | none =>
          if fraction.isEmpty then
            if whole.length > 4300 then .error (.tooManyDigits whole.length)
            else
              let number : Int := naturalOf whole
              .ok (.int (if negative then -number else number), afterFraction)
          else
            .ok (.float (negate negative (Decimal.readFloat (naturalOf (whole ++ fraction))
              (-fraction.length))), afterFraction)

def word? (word : List Char) (text : List Char) : Option (List Char) :=
  if word.isPrefixOf text then some (text.drop word.length) else none

def namedValues : List (String × Value) :=
  [("null", .null), ("true", .bool true), ("false", .bool false),
   ("NaN", .float (0.0 / 0.0)), ("Infinity", .float (1.0 / 0.0)),
   ("-Infinity", .float (-1.0 / 0.0))]

def readNamed? (text : List Char) : Option (Value × List Char) :=
  namedValues.findSome? fun named =>
    (word? named.1.toList text).map fun rest => (named.2, rest)

def readScalar (text : List Char) : Except Stop (Value × List Char) :=
  match readNamed? text with
  | some named => .ok named
  | none => match text with
    | '-' :: rest => readMagnitude text true rest
    | _ => readMagnitude text false text

mutual

/-- There is room for so many levels. The bound limits nesting and items together: an item takes a
character and a level takes its bracket, so a bound above twice the length of the input is never
reached. -/
def readValue (levels bound : Nat) (text : List Char) : Except Stop (Value × List Char) :=
  match bound with
  | 0 => stop "Expecting value" text
  | bound + 1 => match text with
    | '"' :: rest => do
        let (read, after) ← readText text [] bound rest
        pure (.str read, after)
    | '[' :: rest => match levels with
      | 0 => .error (.tooDeep "array")
      | levels + 1 => match skipSpace rest with
        | ']' :: after => .ok (.list [], after)
        | inner => readItems levels bound [] inner
    | '\x7b' :: rest => match levels with
      | 0 => .error (.tooDeep "object")
      | levels + 1 => match skipSpace rest with
        | '\x7d' :: after => .ok (.dict [], after)
        | inner => readEntries levels bound [] inner
    | _ => readScalar text

def readItems (levels bound : Nat) (read : List Value) (text : List Char) :
    Except Stop (Value × List Char) :=
  match bound with
  | 0 => stop "Expecting value" text
  | bound + 1 => do
      let (item, after) ← readValue levels bound text
      match skipSpace after with
      | ']' :: rest => pure (.list (item :: read).reverse, rest)
      | ',' :: rest => readItems levels bound (item :: read) (skipSpace rest)
      | rest => stop "Expecting ',' delimiter" rest

def readEntries (levels bound : Nat) (read : List (Value × Value)) (text : List Char) :
    Except Stop (Value × List Char) :=
  match bound with
  | 0 => stop "Expecting value" text
  | bound + 1 => match text with
    | '"' :: inner => do
        let (key, afterKey) ← readText text [] bound inner
        match skipSpace afterKey with
        | ':' :: afterColon => do
            let (value, after) ← readValue levels bound (skipSpace afterColon)
            match skipSpace after with
            | '\x7d' :: rest =>
                pure (Value.ofEntries ((.str key, value) :: read).reverse, rest)
            | ',' :: rest => readEntries levels bound ((.str key, value) :: read) (skipSpace rest)
            | rest => stop "Expecting ',' delimiter" rest
        | rest => stop "Expecting ':' delimiter" rest
    | _ => stop "Expecting property name enclosed in double quotes" text

end

def readDocument (levels : Nat) (text : List Char) : Except Stop Value :=
  match text with
  | '\uFEFF' :: _ => .error (.unexpected "Unexpected UTF-8 BOM (decode using utf-8-sig)" text)
  | _ => do
      let (value, after) ← readValue levels (2 * text.length + 2) (skipSpace text)
      match skipSpace after with
      | [] => pure value
      | rest => .error (.unexpected "Extra data" rest)

def place (reason : String) (text left : List Char) : BadDocument :=
  let offset := text.length - left.length
  let before := text.take offset
  { reason
    line := before.count '\n' + 1
    column := (before.reverse.takeWhile (· != '\n')).length + 1
    offset }

def Stop.fault (room : Room) (text : List Char) : Stop → Fault
  | .unexpected reason left => .badDocument (place reason text left)
  | .tooManyDigits count => .tooManyDigits count
  | .tooDeep kind =>
      .tooDeep (room.refusal ++ s!" while decoding a JSON {kind} from a unicode string")
  | .unpaired => .unfollowed "a surrogate without its partner"

def read (room : Room) (document : String) : Outcome Value :=
  match readDocument room.levels document.toList with
  | .ok value => .ok value
  | .error stopped => .error (stopped.fault room document.toList)

end ImportImpact.Json
