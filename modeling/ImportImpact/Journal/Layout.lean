import ImportImpact.Text.Blank
import ImportImpact.Text.Digit
import ImportImpact.Text.Quoted
import ImportImpact.Text.Word

/-!
Layouts of log lines. A layout is a text with fields such as `%(name)-8s`: a name in
parentheses, flags, a width, a precision and a letter that says how to write the field. A layout
that asks for an unknown field, or that is broken off, writes nothing.
-/

namespace ImportImpact.Layout

inductive Content where
  | text (text : String)
  | number (number : Nat)
  | nothing

namespace Content

def shown : Content → List Char
  | .text content => content.toList
  | .number count => (toString count).toList
  | .nothing => "None".toList

def quoted : Content → List Char
  | .text content => (Text.quoted content).toList
  | other => other.shown

def asciiQuoted : Content → List Char
  | .text content => (Text.asciiQuoted content).toList
  | other => other.shown

end Content

abbrev Fields := List (String × Content)

structure Flags where
  left : Bool
  plus : Bool
  space : Bool
  sharp : Bool
  zeros : Bool

def isFlag (character : Char) : Bool :=
  character = '-' || character = '+' || character = ' ' || character = '#' || character = '0'

def flagsOf (written : List Char) : Flags :=
  ⟨written.contains '-', written.contains '+', written.contains ' ', written.contains '#',
    written.contains '0'⟩

def naturalOf (digits : List Char) : Nat :=
  digits.foldl (fun value digit => 10 * value + (digit.toNat - 48)) 0

/-- The name up to the parenthesis that closes the one read before; `depth` more are open. -/
def readName (depth : Nat) (read : List Char) : List Char → Option (String × List Char)
  | [] => none
  | ')' :: rest => match depth with
    | 0 => some (String.ofList read.reverse, rest)
    | depth + 1 => readName depth (')' :: read) rest
  | '(' :: rest => readName (depth + 1) ('(' :: read) rest
  | character :: rest => readName depth (character :: read) rest

def padding (width length : Nat) (fill : Char) : List Char :=
  List.replicate (width - length) fill

def padText (flags : Flags) (width : Nat) (text : List Char) : List Char :=
  if flags.left then text ++ padding width text.length ' '
  else padding width text.length ' ' ++ text

def padNumber (flags : Flags) (width : Nat) (opening digits : List Char) : List Char :=
  if flags.zeros && !flags.left then
    opening ++ padding width (opening.length + digits.length) '0' ++ digits
  else padText flags width (opening ++ digits)

def signOf (flags : Flags) : List Char :=
  if flags.plus then ['+'] else if flags.space then [' '] else []

def wholeDigits (base : Nat) (precision : Option Nat) (number : Nat) : List Char :=
  let digits := Nat.toDigits base number
  padding (precision.getD 0) digits.length '0' ++ digits

def upperCase (text : List Char) : List Char := text.map Char.toUpper

def fixedDigits (flags : Flags) (precision number : Nat) : List Char :=
  let digits := Nat.toDigits 10 number
  if precision = 0 then digits ++ (if flags.sharp then ['.'] else [])
  else digits ++ '.' :: List.replicate precision '0'

/-- A whole number rounded to so many digits, of two nearest ones to the even one, and the power
of ten of its first digit. -/
def leadingDigits (count number : Nat) : List Char × Nat :=
  let digits := Nat.toDigits 10 number
  let power := digits.length - 1
  if digits.length ≤ count then (digits ++ List.replicate (count - digits.length) '0', power)
  else
    let unit := Nat.pow 10 (digits.length - count)
    let (below, rest) := (number / unit, number % unit)
    let rounded := if unit < 2 * rest || 2 * rest = unit && below % 2 = 1 then below + 1 else below
    let digits := Nat.toDigits 10 rounded
    if digits.length = count then (digits, power) else (digits.take count, power + 1)

def withPoint (flags : Flags) (digits : List Char) : List Char :=
  match digits with
  | first :: second :: rest => first :: '.' :: second :: rest
  | short => short ++ (if flags.sharp then ['.'] else [])

def exponentText (mark : Char) (power : Nat) : List Char :=
  let digits := Nat.toDigits 10 power
  mark :: '+' :: padding 2 digits.length '0' ++ digits

def exponentDigits (flags : Flags) (precision : Nat) (mark : Char) (number : Nat) : List Char :=
  let (digits, power) := leadingDigits (precision + 1) number
  withPoint flags digits ++ exponentText mark power

/-- So many digits at most, with an exponent only where the number has more digits than that.
Zeros at the end of a fraction are left out. -/
def generalDigits (flags : Flags) (precision : Nat) (mark : Char) (number : Nat) : List Char :=
  let count := max precision 1
  let (digits, power) := leadingDigits count number
  let stripped := (digits.reverse.dropWhile (· = '0')).reverse
  if power < count then
    let whole := digits.take (power + 1)
    if flags.sharp then whole ++ '.' :: digits.drop (power + 1) else whole
  else if flags.sharp then withPoint flags digits ++ exponentText mark power
  else withPoint flags stripped ++ exponentText mark power

def writeField (flags : Flags) (width : Nat) (precision : Option Nat) (letter : Char)
    (content : Content) : Option (List Char) :=
  let textField (text : List Char) : Option (List Char) :=
    some (padText flags width (match precision with
      | some length => text.take length
      | none => text))
  let numberField (opening digits : List Char) : Option (List Char) :=
    some (padNumber flags width (signOf flags ++ opening) digits)
  let base (mark : Char) : List Char := if flags.sharp then ['0', mark] else []
  let places := precision.getD 6
  match letter, content with
  | 's', _ => textField content.shown
  | 'r', _ => textField content.quoted
  | 'a', _ => textField content.asciiQuoted
  | 'd', .number number | 'i', .number number | 'u', .number number =>
      numberField [] (wholeDigits 10 precision number)
  | 'o', .number number => numberField (base 'o') (wholeDigits 8 precision number)
  | 'x', .number number => numberField (base 'x') (wholeDigits 16 precision number)
  | 'X', .number number => numberField (base 'X') (upperCase (wholeDigits 16 precision number))
  | 'c', .number number =>
      if number < 0x110000 then some (padText flags width [Char.ofNat number]) else none
  | 'c', .text content =>
      if content.length = 1 then some (padText flags width content.toList) else none
  | 'f', .number number | 'F', .number number => numberField [] (fixedDigits flags places number)
  | 'e', .number number | 'E', .number number =>
      numberField [] (exponentDigits flags places letter number)
  | 'g', .number number => numberField [] (generalDigits flags places 'e' number)
  | 'G', .number number => numberField [] (generalDigits flags places 'E' number)
  | _, _ => none

def isSizeMark (character : Char) : Bool :=
  character = 'h' || character = 'l' || character = 'L'

def dropSizeMark (layout : List Char) : List Char :=
  match layout with
  | [] => []
  | character :: rest => if isSizeMark character then rest else layout

def field? (fields : Fields) (layout : List Char) : Option (List Char × List Char) := do
  match layout with
  | '%' :: rest => pure (['%'], rest)
  | '(' :: rest =>
      let (name, afterName) ← readName 0 [] rest
      let content ← fields.lookup name
      let flags := flagsOf (afterName.takeWhile isFlag)
      let afterFlags := afterName.dropWhile isFlag
      let width := naturalOf (afterFlags.takeWhile Char.isDigit)
      let afterWidth := afterFlags.dropWhile Char.isDigit
      let (precision, afterPrecision) := match afterWidth with
        | '.' :: digits =>
            (some (naturalOf (digits.takeWhile Char.isDigit)), digits.dropWhile Char.isDigit)
        | _ => (none, afterWidth)
      match dropSizeMark afterPrecision with
      | [] => none
      | letter :: rest => pure (← writeField flags width precision letter content, rest)
  | _ => none

/-- Every step takes a character of the layout, so its length is bound enough. -/
def writeFrom (fields : Fields) : (bound : Nat) → List Char → Option (List Char)
  | _, [] => some []
  | 0, _ :: _ => none
  | bound + 1, '%' :: rest => do
      let (written, left) ← field? fields rest
      pure (written ++ (← writeFrom fields bound left))
  | bound + 1, character :: rest => do pure (character :: (← writeFrom fields bound rest))

def write? (layout : String) (fields : Fields) : Option String :=
  (writeFrom fields layout.length layout.toList).map String.ofList

def isFieldLetter (character : Char) : Bool := "diouxefgcrsa%".toList.contains character.toLower

def isUnicodeDigit (character : Char) : Bool := (Text.digitValue? character).isSome

def skipNumber (text : List Char) : List Char :=
  match text with
  | '*' :: rest => rest
  | _ => text.dropWhile isUnicodeDigit

/-- Passes over a precision; a point with nothing after it is none. -/
def skipPrecision (text : List Char) : List Char :=
  match text with
  | '.' :: rest => if (skipNumber rest).length < rest.length then skipNumber rest else text
  | _ => text

def startsWithField (text : List Char) : Bool :=
  match text with
  | '%' :: '(' :: rest =>
      !(rest.takeWhile Text.isWord).isEmpty &&
        match rest.dropWhile Text.isWord with
        | ')' :: rest =>
            (skipPrecision (skipNumber (rest.dropWhile isFlag))).head?.any isFieldLetter
        | _ => false
  | _ => false

def anywhere (test : List Char → Bool) : List Char → Bool
  | [] => test []
  | character :: rest => test (character :: rest) || anywhere test rest

/-- A layout must ask for some field. -/
def valid (layout : String) : Bool := anywhere startsWithField layout.toList

def showsTime (layout : String) : Bool :=
  anywhere (fun text => "%(asctime)".toList.isPrefixOf text) layout.toList

end ImportImpact.Layout
