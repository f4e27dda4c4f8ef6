import ImportImpact.Import.Extractor
import ImportImpact.Proofs.Import.Occurrence
import ImportImpact.Proofs.Text.Scan

/-!
The grammar of imports: how each form of the two tables is written, told as cuts of the text and
without a reader. Blanks and word characters are those of the character tables; everything else is
spelled out here.
-/

namespace ImportImpact.Surface

open Text

def Quote (character : Char) : Prop := character = '\'' ∨ character = '"'

/-- A specifier between two quote characters, which need not be the same. -/
inductive Quoted : (written specifier : List Char) → Prop
  | between {opening closing : Char} {specifier : List Char} (opens : Quote opening)
      (filled : specifier ≠ [])
      (plain : ∀ character ∈ specifier, ¬Quote character ∧ character ≠ '\n')
      (closes : Quote closing) : Quoted (opening :: (specifier ++ [closing])) specifier

/-- Where a statement may begin: at the start of a line or after one of four characters. -/
inductive Opening : (before : Option Char) → (written : List Char) → Prop
  | text : Opening none []
  | line : Opening (some '\n') []
  | after {before : Option Char} {character : Char}
      (opens : character ∈ [';', '\x7b', '\x7d', '>']) : Opening before [character]

/-- The opening of a statement with tabs and spaces behind it. -/
inductive Lead (before : Option Char) : (written : List Char) → Prop
  | indented {opening indent : List Char} (opens : Opening before opening)
      (tabs : ∀ character ∈ indent, character = ' ' ∨ character = '\t') :
      Lead before (opening ++ indent)

/-- What may stand between `import` with its blanks and the quote: nothing, or imported names and
the word `from`. Blanks, braces and the word `from` itself may be among the names. -/
inductive Clause : List Char → Prop
  | none : Clause []
  | names {names gap space : List Char} (filled : names ≠ [])
      (inside : ∀ character ∈ names, isWord character = true ∨
        character ∈ ['$', '*', '\x7b', '\x7d', ','] ∨ isBlank character = true)
      (blanks : SomeBlanks gap) (last : SomeBlanks space) :
      Clause (names ++ (gap ++ ("from".toList ++ space)))

inductive StaticImport : (before : Option Char) → (written specifier : List Char) → Prop
  | statement {before : Option Char} {lead gap clause quoted specifier : List Char}
      (starts : Lead before lead) (blanks : SomeBlanks gap) (names : Clause clause)
      (source : Quoted quoted specifier) :
      StaticImport before (lead ++ ("import".toList ++ (gap ++ (clause ++ quoted)))) specifier

/-- The word `type` with its blanks, or nothing. -/
inductive TypeWord : List Char → Prop
  | absent : TypeWord []
  | present {gap : List Char} (blanks : SomeBlanks gap) : TypeWord ("type".toList ++ gap)

/-- What is exported: everything, everything under a name, or a group in braces. -/
inductive Exported : List Char → Prop
  | star : Exported ['*']
  | alias {gap space name : List Char} (blanks : SomeBlanks gap) (last : SomeBlanks space)
      (filled : name ≠ [])
      (inside : ∀ character ∈ name, isWord character = true ∨ character = '$') :
      Exported ('*' :: (gap ++ ("as".toList ++ (space ++ name))))
  | group {names : List Char}
      (plain : ∀ character ∈ names, character ≠ '\x7b' ∧ character ≠ '\x7d') :
      Exported ('\x7b' :: (names ++ ['\x7d']))

inductive ExportFrom : (before : Option Char) → (written specifier : List Char) → Prop
  | statement {before : Option Char}
      {lead gap type exported space last quoted specifier : List Char}
      (starts : Lead before lead) (blanks : SomeBlanks gap) (typed : TypeWord type)
      (names : Exported exported) (loose : ∀ character ∈ space, isBlank character = true)
      (closing : SomeBlanks last) (source : Quoted quoted specifier) :
      ExportFrom before (lead ++ ("export".toList ++ (gap ++ (type ++ (exported ++ (space ++
        ("from".toList ++ (last ++ quoted)))))))) specifier

def Boundary (before after : Option Char) : Prop := before.any isWord ≠ after.any isWord

/-- A call of the function with one quoted argument. -/
inductive Call (function : List Char) :
    (before : Option Char) → (written specifier : List Char) → Prop
  | expression {before : Option Char} {outer inner space quoted specifier : List Char}
      (free : Boundary before function.head?)
      (outside : ∀ character ∈ outer, isBlank character = true)
      (inside : ∀ character ∈ inner, isBlank character = true)
      (source : Quoted quoted specifier)
      (closing : ∀ character ∈ space, isBlank character = true) :
      Call function before (function ++ (outer ++ ('(' :: (inner ++ (quoted ++
        (space ++ [')'])))))) specifier

/-- A word of a style sheet, blanks and a quoted specifier. -/
inductive Directive (word : List Char) :
    (before : Option Char) → (written specifier : List Char) → Prop
  | rule {before : Option Char} {gap quoted specifier : List Char} (blanks : SomeBlanks gap)
      (source : Quoted quoted specifier) :
      Directive word before (word ++ (gap ++ quoted)) specifier

/-- A quote character or nothing. -/
inductive QuoteOrNone : List Char → Prop
  | absent : QuoteOrNone []
  | present {character : Char} (quote : Quote character) : QuoteOrNone [character]

inductive ImportUrl : (before : Option Char) → (written specifier : List Char) → Prop
  | rule {before : Option Char} {gap inner opening location closing space : List Char}
      (blanks : SomeBlanks gap) (inside : ∀ character ∈ inner, isBlank character = true)
      (opens : QuoteOrNone opening) (filled : location ≠ [])
      (plain : ∀ character ∈ location,
        ¬Quote character ∧ character ≠ ')' ∧ isBlank character = false)
      (closes : QuoteOrNone closing) (last : ∀ character ∈ space, isBlank character = true) :
      ImportUrl before ("@import".toList ++ (gap ++ ("url(".toList ++ (inner ++ (opening ++
        (location ++ (closing ++ (space ++ [')'])))))))) location

inductive StyleUse : (before : Option Char) → (written specifier : List Char) → Prop
  | use {before : Option Char} {written specifier : List Char}
      (rule : Directive "@use".toList before written specifier) :
      StyleUse before written specifier
  | forward {before : Option Char} {written specifier : List Char}
      (rule : Directive "@forward".toList before written specifier) :
      StyleUse before written specifier

def ofCategory : Category → List Surface
  | .script =>
      [StaticImport, ExportFrom, Call "require".toList, Call "import".toList]
  | .style => [Directive "@import".toList, ImportUrl, StyleUse]

end ImportImpact.Surface
