/-!
Points in time as documents write them: date and time of day in full, the fraction of a second
only if there is one, the offset from universal time only if it is known.
-/

namespace ImportImpact

structure Moment where
  year : Nat
  month : Nat
  day : Nat
  hour : Nat
  minute : Nat
  second : Nat
  microsecond : Nat
  /-- The offset from universal time, in minutes. -/
  offset : Option Int

namespace Moment

def padded (width number : Nat) : String :=
  let digits := Nat.toDigits 10 number
  String.ofList (List.replicate (width - digits.length) '0' ++ digits)

def offsetText (minutes : Int) : String :=
  let sign := if minutes < 0 then "-" else "+"
  sign ++ padded 2 (minutes.natAbs / 60) ++ ":" ++ padded 2 (minutes.natAbs % 60)

def text (moment : Moment) : String :=
  let date := padded 4 moment.year ++ "-" ++ padded 2 moment.month ++ "-" ++ padded 2 moment.day
  let clock :=
    padded 2 moment.hour ++ ":" ++ padded 2 moment.minute ++ ":" ++ padded 2 moment.second
  let fraction := if moment.microsecond = 0 then "" else "." ++ padded 6 moment.microsecond
  date ++ "T" ++ clock ++ fraction ++ (moment.offset.map offsetText).getD ""

end Moment

end ImportImpact
