import ImportImpact.Text.Printable

/-!
Texts as messages show them: between quotes, with the characters that cannot be printed written
as escapes. The quote is `'`, unless the text holds that quote and no `"`.
-/

namespace ImportImpact.Text

def lowerHexDigits (width number : Nat) : List Char :=
  let digits := Nat.toDigits 16 number
  List.replicate (width - digits.length) '0' ++ digits

def numberEscape (character : Char) : List Char :=
  if character.toNat < 0x100 then '\\' :: 'x' :: lowerHexDigits 2 character.toNat
  else if character.toNat < 0x10000 then '\\' :: 'u' :: lowerHexDigits 4 character.toNat
  else '\\' :: 'U' :: lowerHexDigits 8 character.toNat

def shownCharacter (quote character : Char) : List Char :=
  if character = quote || character = '\\' then ['\\', character]
  else if character = '\n' then ['\\', 'n']
  else if character = '\r' then ['\\', 'r']
  else if character = '\t' then ['\\', 't']
  else if isPrintable character then [character]
  else numberEscape character

/-- Characters beyond ASCII are escaped whether or not they can be printed. -/
def asciiCharacter (quote character : Char) : List Char :=
  if character.toNat < 0x80 then shownCharacter quote character else numberEscape character

def quoteFor (text : List Char) : Char :=
  if text.contains '\'' && !text.contains '"' then '"' else '\''

def quoted (text : String) : String :=
  let quote := quoteFor text.toList
  String.ofList (quote :: text.toList.flatMap (shownCharacter quote) ++ [quote])

def asciiQuoted (text : String) : String :=
  let quote := quoteFor text.toList
  String.ofList (quote :: text.toList.flatMap (asciiCharacter quote) ++ [quote])

end ImportImpact.Text
