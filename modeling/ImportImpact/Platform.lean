import ImportImpact.Fault

/-!
What the program finds around it: how much room there is on the stack of the interpreter, and the
libraries that it calls. They are given from outside, and nothing is supposed of them but that there
is some room.
-/

namespace ImportImpact

/-- Room for nested calls of one kind. -/
structure Room where
  levels : Nat
  /-- A program that is run on its own has room for so many. -/
  least : 100 ≤ levels
  /-- What is said where there is no room for one more. -/
  refusal : String

def Room.fault (room : Room) : Fault := .tooDeep room.refusal

def Room.holds (room : Room) (value : Value) : Outcome Unit :=
  if value.nesting ≤ room.levels then .ok () else .error room.fault

/-- What becomes of bytes that are read in an encoding. They are refused where they stand for no
text, and where the encoding is unknown. -/
inductive Decoding where
  | text (content : List Char)
  | refused
  | failed (detail : String)

inductive Unread where
  | malformed (detail : String)
  | fault (fault : Fault)

structure Platform where
  decode : String → List UInt8 → Decoding
  readYaml : String → Except Unread Value
  /-- The text that a message with markup shows, unless its tags do not fit together. -/
  shownText? : String → Option (List Char)
  /-- Directories inside one another that a walk enters. -/
  walkRoom : Room
  /-- Lists and mappings inside one another that can be copied, written as JSON, written as YAML and
  read as JSON. -/
  copyRoom : Room
  jsonRoom : Room
  yamlRoom : Room
  readRoom : Room

end ImportImpact
