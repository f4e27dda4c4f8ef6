import ImportImpact.Yaml.Flow
import ImportImpact.Yaml.Literal

/-!
Lists and mappings by indentation. The items of a list begin in one column, and so do the keys of
a mapping; what belongs to an item or a key stands further to the right. Only a list under a key
may begin in the column of the key itself, and so may the sign of an indented text.
-/

namespace ImportImpact.Yaml

def Place.atDash (place : Place) : Bool :=
  !place.ended && match place.rest with
    | '-' :: rest => apart rest
    | _ => false

def Place.atTextSign (place : Place) : Bool :=
  place.rest.head?.any fun character => character = '|' || character = '>'

/-- What stands at a place belongs to an item or a key of this column. -/
def Place.belongsTo (place : Place) (column : Nat) : Bool :=
  column < place.column || place.column = column && place.atTextSign

mutual

/-- What stands at a place. Its further lines reach at least the column `least`. A list or a
mapping must begin where a line or an item begins, which `fresh` says. -/
def readNode? : (bound : Nat) → (least : Nat) → (fresh : Bool) → Place → Option (Node × Place)
  | 0, _, _, _ => none
  | bound + 1, least, fresh, place =>
      match place.rest with
      | '[' :: _ | '\x7b' :: _ => readFlow? bound place
      | '|' :: _ => do
          let (text, after) ← readBlockText? false least (place.skip 1)
          pure (.scalar ⟨false, text⟩, after)
      | '>' :: _ => do
          let (text, after) ← readBlockText? true least (place.skip 1)
          pure (.scalar ⟨false, text⟩, after)
      | _ =>
          if place.atDash then
            if fresh then do
              let (items, after) ← readItems? bound place.column place
              pure (.sequence items, after)
            else none
          else if fresh && (readKey? false place).isSome then do
            let (entries, after) ← readEntries? bound place.column place
            pure (.mapping entries, after)
          else do
            let (scalar, after) ← readScalar? false least place
            pure (.scalar scalar, after)

def readItems? : (bound : Nat) → (column : Nat) → Place → Option (List Node × Place)
  | 0, _, _ => none
  | bound + 1, column, place => do
      let start := (place.skip 1).next
      let (item, after) ←
        if start.ended || !start.belongsTo column then pure (.nothing, start)
        else readNode? bound (column + 1) true start
      let next := after.next
      if next.column = column && next.atDash then
        let (items, after) ← readItems? bound column next
        pure (item :: items, after)
      else pure ([item], next)

def readEntries? :
    (bound : Nat) → (column : Nat) → Place → Option (List (Scalar × Node) × Place)
  | 0, _, _ => none
  | bound + 1, column, place => do
      let (key, colon) ← readKey? false place
      let start := colon.next
      let (value, after) ←
        if start.ended then pure (.nothing, start)
        else if start.sameLine colon then readNode? bound (column + 1) false start
        else if start.belongsTo column then readNode? bound (column + 1) true start
        else if start.column = column && start.atDash then do
          let (items, after) ← readItems? bound column start
          pure (.sequence items, after)
        else pure (.nothing, start)
      let next := after.next
      if next.column = column && !next.ended then
        let (entries, after) ← readEntries? bound column next
        pure ((key, value) :: entries, after)
      else pure ([(key, value)], next)

end

end ImportImpact.Yaml
