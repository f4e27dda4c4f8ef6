import ImportImpact.Encoding.Utf16
import ImportImpact.Encoding.Utf8
import ImportImpact.Text.Split

/-!
The encodings a source file can be read in, and their names. In a name, case does not count and
neither does the choice of separators; a name that means none of these is unknown.
-/

namespace ImportImpact

inductive Encoding where
  | ascii
  | latin1
  | utf8
  | utf8Signed
  | utf16
  | utf16LowFirst
  | utf16HighFirst
  deriving DecidableEq

namespace Encoding

def nameCharacter (character : Char) : Bool := character.isAlphanum || character = '.'

/-- Letters, digits and dots in lower case, with one underscore for whatever stands between. -/
def plainName (name : String) : String :=
  let spaced := name.toList.map fun character =>
    if nameCharacter character then character.toLower else ' '
  String.ofList (Text.join '_' ((Text.split ' ' spaced).filter fun piece => !piece.isEmpty))

def filedNames : List (String × Encoding) :=
  [("ascii", .ascii), ("latin_1", .latin1), ("utf_8", .utf8), ("utf_8_sig", .utf8Signed),
   ("utf_16", .utf16), ("utf_16_le", .utf16LowFirst), ("utf_16_be", .utf16HighFirst)]

/-- Other plain names; in these a dot may stand for an underscore. -/
def otherNames : List (String × Encoding) :=
  [("646", .ascii), ("ansi_x3_4_1968", .ascii), ("ansi_x3_4_1986", .ascii), ("cp367", .ascii),
   ("csascii", .ascii), ("ibm367", .ascii), ("iso646_us", .ascii),
   ("iso_646_irv_1991", .ascii), ("iso_ir_6", .ascii), ("us", .ascii), ("us_ascii", .ascii),
   ("8859", .latin1), ("cp819", .latin1), ("csisolatin1", .latin1), ("ibm819", .latin1),
   ("iso8859", .latin1), ("iso8859_1", .latin1), ("iso_8859_1", .latin1),
   ("iso_8859_1_1987", .latin1), ("iso_ir_100", .latin1), ("l1", .latin1), ("latin", .latin1),
   ("latin1", .latin1), ("u8", .utf8), ("utf", .utf8), ("utf8", .utf8), ("utf8_ucs2", .utf8),
   ("utf8_ucs4", .utf8), ("cp65001", .utf8), ("u16", .utf16), ("utf16", .utf16),
   ("unicodelittleunmarked", .utf16LowFirst), ("utf_16le", .utf16LowFirst),
   ("unicodebigunmarked", .utf16HighFirst), ("utf_16be", .utf16HighFirst)]

def ofName? (name : String) : Option Encoding :=
  let plain := plainName name
  let undotted := String.ofList (plain.toList.map fun character =>
    if character = '.' then '_' else character)
  match otherNames.lookup undotted with
  | some encoding => some encoding
  | none => filedNames.lookup plain

def ofBytes (bytes : List UInt8) : List Char := bytes.map fun byte => Char.ofNat byte.toNat

def decode? (bytes : List UInt8) : Encoding → Option (List Char)
  | .ascii => if bytes.all (· < 0x80) then some (ofBytes bytes) else none
  | .latin1 => some (ofBytes bytes)
  | .utf8 => (Utf8.decode bytes).toOption
  | .utf8Signed => match bytes with
    | 0xEF :: 0xBB :: 0xBF :: rest => (Utf8.decode rest).toOption
    | _ => (Utf8.decode bytes).toOption
  | .utf16 => Utf16.decodeMarked? bytes
  | .utf16LowFirst => Utf16.decode? .lowFirst bytes
  | .utf16HighFirst => Utf16.decode? .highFirst bytes

end Encoding

end ImportImpact
