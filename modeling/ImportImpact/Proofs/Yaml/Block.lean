import ImportImpact.Proofs.Yaml.Scalar
import ImportImpact.Yaml.Block

/-!
Lists and mappings by indentation, read step by step.
-/

namespace ImportImpact.Yaml

section Node

variable {written : List Char} {scalar : Scalar}

theorem OneLine.no_dash (line : OneLine written scalar) (column : Nat) (later : List Line) :
    (Place.mk column written later).atDash = false := by
  obtain ⟨first, more, rfl, -, -, dash⟩ := line.first
  unfold Place.atDash
  split
  next rest shape =>
    obtain ⟨rfl, rfl⟩ := List.cons.inj shape
    simp [dash rfl]
  · simp

/-- What begins with no sign of its own is a mapping, if a key may stand here and does, or else a
scalar. -/
theorem read_node_unmarked {bound least : Nat} {fresh : Bool} {place : Place} {first : Char}
    {more : List Char} (shape : place.rest = first :: more)
    (other : first ∉ ['[', '\x7b', '|', '>']) (noDash : place.atDash = false) :
    readNode? (bound + 1) least fresh place =
      if fresh && (readKey? false place).isSome then
        (readEntries? bound place.column place).map fun read => (.mapping read.1, read.2)
      else (readScalar? false least place).map fun read => (.scalar read.1, read.2) := by
  simp only [List.mem_cons, List.not_mem_nil, or_false, not_or] at other
  obtain ⟨noList, noMapping, noText, noFolded⟩ := other
  unfold readNode?
  split
  next same => exact absurd (List.cons.inj (shape.symm.trans same)).1 noList
  next same => exact absurd (List.cons.inj (shape.symm.trans same)).1 noMapping
  next same => exact absurd (List.cons.inj (shape.symm.trans same)).1 noText
  next same => exact absurd (List.cons.inj (shape.symm.trans same)).1 noFolded
  · simp only [noDash, Bool.false_eq_true, if_false, bind, pure]
    split
    · cases readEntries? bound place.column place <;> rfl
    · cases readScalar? false least place <;> rfl

theorem OneLine.node (line : OneLine written scalar) {least : Nat} {rest : List Char}
    (outdented : Outdented least rest) (bound column : Nat) (fresh : Bool) :
    ReadUpTo (readNode? (bound + 1) least fresh (Place.of column (written ++ '\n' :: rest)))
      (.scalar scalar) rest := by
  obtain ⟨after, read, next⟩ := line.read outdented column
  refine ⟨after, ?_, next⟩
  obtain ⟨first, more, shape, -, sign, -⟩ := line.first
  rw [line.place] at read ⊢
  have other : first ∉ ['[', '\x7b', '|', '>'] := by
    simp only [List.mem_cons, List.not_mem_nil, or_false, not_or] at sign ⊢
    exact ⟨sign.1, sign.2.2.1, sign.2.2.2.2.2⟩
  rw [read_node_unmarked shape other (line.no_dash column _), line.no_key column, read]
  simp

end Node

def readAfterKey? (bound column : Nat) (colon : Place) : Option (Node × Place) :=
  let start := colon.next
  if start.ended then some (.nothing, start)
  else if start.sameLine colon then readNode? bound (column + 1) false start
  else if start.belongsTo column then readNode? bound (column + 1) true start
  else if start.column = column && start.atDash then do
    let (items, after) ← readItems? bound column start
    pure (.sequence items, after)
  else some (.nothing, start)

def readMoreEntries? (bound column : Nat) (entry : Scalar × Node) (next : Place) :
    Option (List (Scalar × Node) × Place) :=
  if next.column = column && !next.ended then do
    let (entries, after) ← readEntries? bound column next
    pure (entry :: entries, after)
  else some ([entry], next)

theorem read_entries_eq (bound column : Nat) (place : Place) :
    readEntries? (bound + 1) column place = (readKey? false place).bind fun key =>
      (readAfterKey? bound column key.2).bind fun value =>
        readMoreEntries? bound column (key.1, value.1) value.2.next := by
  rw [readEntries?]
  cases readKey? false place with
  | none => rfl
  | some key =>
      simp only [readAfterKey?, readMoreEntries?, bind, Option.bind, pure]
      split
      · rfl
      split
      · cases readNode? bound (column + 1) false key.2.next <;> rfl
      split
      · cases readNode? bound (column + 1) true key.2.next <;> rfl
      split
      · cases readItems? bound column key.2.next <;> rfl
      · rfl

def readItem? (bound column : Nat) (place : Place) : Option (Node × Place) :=
  let start := (place.skip 1).next
  if start.ended || !start.belongsTo column then some (.nothing, start)
  else readNode? bound (column + 1) true start

def readMoreItems? (bound column : Nat) (item : Node) (next : Place) :
    Option (List Node × Place) :=
  if next.column = column && next.atDash then do
    let (items, after) ← readItems? bound column next
    pure (item :: items, after)
  else some ([item], next)

theorem read_items_eq (bound column : Nat) (place : Place) :
    readItems? (bound + 1) column place = (readItem? bound column place).bind fun item =>
      readMoreItems? bound column item.1 item.2.next := by
  rw [readItems?]
  simp only [readItem?, readMoreItems?, bind, Option.bind, pure]
  split
  · rfl
  · cases readNode? bound (column + 1) true (place.skip 1).next <;> rfl

end ImportImpact.Yaml
