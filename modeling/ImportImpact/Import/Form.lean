import ImportImpact.Text.Scan

/-!
Surface forms of imports. A form reads one occurrence from the front of a text, knowing the
character before it; what it reads is decided by that text alone, so an occurrence that begins
at a place has one specifier and one end. All occurrences of a form are found from left to
right, and the search goes on after the end of each.
-/

namespace ImportImpact

/-- What a form found: the specifier, the last character of the occurrence and what follows. -/
structure Occurrence where
  specifier : List Char
  closing : Char
  rest : List Char

structure Form where
  name : String
  read : (before : Option Char) → (text : List Char) → Option Occurrence
  shorter : ∀ {before text occurrence}, read before text = some occurrence →
    occurrence.rest.length < text.length

namespace Form

def specifiersFrom (form : Form) (before : Option Char) (text : List Char) : List (List Char) :=
  match text with
  | [] => []
  | character :: rest =>
      match _found : form.read before (character :: rest) with
      | some occurrence =>
          occurrence.specifier :: specifiersFrom form (some occurrence.closing) occurrence.rest
      | none => specifiersFrom form (some character) rest
  termination_by text.length
  decreasing_by
    · exact form.shorter _found
    · simp

/-- The specifiers of the leftmost occurrences that do not overlap, in order. -/
def specifiers (form : Form) (text : List Char) : List (List Char) :=
  form.specifiersFrom none text

end Form

namespace Occurrence

def isQuote (character : Char) : Bool := character = '\'' || character = '"'

def endsQuoted (character : Char) : Bool := isQuote character || character = '\n'

/-- A specifier between two quote characters, which need not be the same. -/
def quoted? (text : List Char) : Option Occurrence :=
  match text with
  | [] => none
  | opening :: inner =>
      if isQuote opening then
        match inner.takeWhile (!endsQuoted ·), inner.dropWhile (!endsQuoted ·) with
        | specifier@(_ :: _), closing :: rest =>
            if isQuote closing then some ⟨specifier, closing, rest⟩ else none
        | _, _ => none
      else none

theorem quoted_shorter {text : List Char} {occurrence : Occurrence}
    (given : quoted? text = some occurrence) : occurrence.rest.length < text.length := by
  cases text with
  | nil => simp [quoted?] at given
  | cons opening inner =>
      simp only [quoted?] at given
      split at given
      · split at given
        next closing rest _ shape =>
          split at given
          · simp only [Option.some.injEq] at given
            subst given
            have := Text.drop_while_length_le (!endsQuoted ·) inner
            rw [shape] at this
            simp only [List.length_cons] at this ⊢
            omega
          · simp at given
        · simp at given
      · simp at given

def parenthesised? (occurrence : Occurrence) : Option Occurrence :=
  match Text.skipBlanks occurrence.rest with
  | ')' :: rest => some { occurrence with closing := ')', rest }
  | _ => none

theorem parenthesised_shorter {occurrence closed : Occurrence}
    (given : occurrence.parenthesised? = some closed) :
    closed.rest.length < occurrence.rest.length := by
  simp only [parenthesised?] at given
  split at given
  next rest shape =>
    simp only [Option.some.injEq] at given
    subst given
    have := Text.drop_while_length_le Text.isBlank occurrence.rest
    rw [Text.skipBlanks] at shape
    rw [shape] at this
    exact Nat.lt_of_succ_le this
  · simp at given

end Occurrence

end ImportImpact
