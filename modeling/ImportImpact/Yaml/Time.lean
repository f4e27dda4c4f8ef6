import ImportImpact.Text.Blank
import ImportImpact.Text.Scan

/-!
Dates and times in YAML documents. They are recognised, so that a text that looks like one is
quoted when it is written; they are not computed with.
-/

namespace ImportImpact.Yaml.Time

def isDigit (character : Char) : Bool := character.isDigit

def dropDigits? (least most : Nat) (text : List Char) : Option (List Char) :=
  let count := min most (text.takeWhile isDigit).length
  if least ≤ count then some (text.drop count) else none

def isZone (text : List Char) : Bool :=
  match text with
  | ['Z'] => true
  | sign :: rest =>
      (sign = '+' || sign = '-') && match dropDigits? 1 2 rest with
        | some [] => true
        | some (':' :: minutes) => dropDigits? 2 2 minutes = some []
        | _ => false
  | [] => false

def isClockTime (text : List Char) : Bool :=
  let read : Option Bool := do
    let minutes ← Text.after? [':'] (← dropDigits? 1 2 text)
    let seconds ← Text.after? [':'] (← dropDigits? 2 2 minutes)
    let rest ← dropDigits? 2 2 seconds
    let rest := match rest with
      | '.' :: fraction => fraction.dropWhile isDigit
      | _ => rest
    pure (rest.isEmpty || isZone (rest.dropWhile Text.isTabOrSpace))
  read.getD false

/-- A date with all its digits, or a date and a time of day. -/
def isTime (text : List Char) : Bool :=
  let read : Option Bool := do
    let month ← Text.after? ['-'] (← dropDigits? 4 4 text)
    let day ← Text.after? ['-'] (← dropDigits? 1 2 month)
    let rest ← dropDigits? 1 2 day
    match rest with
    | [] => pure (text.length = 10)
    | mark :: clock =>
        if mark = 'T' || mark = 't' then pure (isClockTime clock)
        else if Text.isTabOrSpace mark then
          pure (isClockTime (clock.dropWhile Text.isTabOrSpace))
        else pure false
  read.getD false

end ImportImpact.Yaml.Time
