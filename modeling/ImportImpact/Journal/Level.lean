import ImportImpact.Value.Printer

/-!
Levels of log records. A higher number is more severe. Level 0 stands for no level of its own:
then the general threshold, that of warnings, holds.
-/

namespace ImportImpact.Level

def debug : Nat := 10

def info : Nat := 20

def warning : Nat := 30

def error : Nat := 40

def critical : Nat := 50

def names : List (String × Nat) :=
  [("DEBUG", debug), ("INFO", info), ("WARNING", warning), ("WARN", warning), ("ERROR", error),
   ("CRITICAL", critical), ("FATAL", critical), ("NOTSET", 0)]

/-- The capital of a character as far as it can matter here: beside the ASCII letters, the
dotless i and the long s have capitals that occur in level names. -/
def capital (character : Char) : Char :=
  if character = 'ı' then 'I'
  else if character = 'ſ' then 'S'
  else character.toUpper

/-- Case does not count; a name that is unknown means warnings. -/
def ofText (name : String) : Nat :=
  (names.lookup (String.ofList (name.toList.map capital))).getD warning

def ofValue (name : Value) : Nat := ofText name.text

def nameOf (level : Nat) : String :=
  if level = debug then "DEBUG"
  else if level = info then "INFO"
  else if level = warning then "WARNING"
  else if level = error then "ERROR"
  else if level = critical then "CRITICAL"
  else if level = 0 then "NOTSET"
  else s!"Level {level}"

end ImportImpact.Level
