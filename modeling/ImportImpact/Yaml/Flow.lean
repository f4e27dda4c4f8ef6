import ImportImpact.Yaml.Node
import ImportImpact.Yaml.Plain
import ImportImpact.Yaml.Quoted

/-!
Lists and mappings in brackets. They may spread over lines as they like. A key and its colon
stand on one line, not more than 1024 characters from each other.
-/

namespace ImportImpact.Yaml

def readScalar? (flow : Bool) (least : Nat) (place : Place) : Option (Scalar × Place) :=
  match place.rest with
  | '\'' :: _ => (readQuoted? false (place.skip 1)).map fun (text, after) => (⟨false, text⟩, after)
  | '"' :: _ => (readQuoted? true (place.skip 1)).map fun (text, after) => (⟨false, text⟩, after)
  | _ =>
      if beginsPlain flow place.rest then
        let (text, after) := readPlain flow least place
        some (⟨true, text⟩, after)
      else none

def longestKey : Nat := 1024

def readKey? (flow : Bool) (place : Place) : Option (Scalar × Place) := do
  let (key, after) ← readScalar? flow 0 { place with later := [] }
  let colon := after.skip (after.rest.takeWhile Place.isSpace).length
  if place.distance colon ≤ longestKey then
    match colon.rest with
    | ':' :: rest =>
        if flow || apart rest then some (key, { colon.skip 1 with later := place.later })
        else none
    | _ => none
  else none

def Place.sign (place : Place) : Option Char := if place.ended then none else place.rest.head?

mutual

def readFlow? : (bound : Nat) → Place → Option (Node × Place)
  | 0, _ => none
  | bound + 1, place =>
      let place := place.next
      match place.sign with
      | none => none
      | some '[' => do
          let (items, after) ← readFlowItems? bound true (place.skip 1)
          pure (.sequence items, after)
      | some '\x7b' => do
          let (entries, after) ← readFlowEntries? bound true (place.skip 1)
          pure (.mapping entries, after)
      | some _ => do
          let (scalar, after) ← readScalar? true 0 place
          pure (.scalar scalar, after)

def readFlowValue? : (bound : Nat) → Place → Option (Node × Place)
  | 0, _ => none
  | bound + 1, place =>
      let place := place.next
      match place.sign with
      | some ',' | some ']' | some '\x7d' => some (.nothing, place)
      | _ => readFlow? bound place

/-- The items after an opening bracket or, unless `first` is set, after an item. A key makes an
item a mapping of its own. -/
def readFlowItems? : (bound : Nat) → (first : Bool) → Place → Option (List Node × Place)
  | 0, _, _ => none
  | bound + 1, first, place => do
      let place := place.next
      if place.sign = some ']' then pure ([], place.skip 1)
      else if !first && place.sign != some ',' then none
      else
        let place := if first then place else (place.skip 1).next
        if place.sign = some ']' then pure ([], place.skip 1)
        else
          let (item, after) ← match readKey? true place with
            | some (key, after) => do
                let (value, after) ← readFlowValue? bound after
                pure (Node.mapping [(key, value)], after)
            | none => readFlow? bound place
          let (items, after) ← readFlowItems? bound false after
          pure (item :: items, after)

/-- The entries after an opening brace or, unless `first` is set, after an entry. A text without
a colon is a key for nothing. -/
def readFlowEntries? :
    (bound : Nat) → (first : Bool) → Place → Option (List (Scalar × Node) × Place)
  | 0, _, _ => none
  | bound + 1, first, place => do
      let place := place.next
      if place.sign = some '\x7d' then pure ([], place.skip 1)
      else if !first && place.sign != some ',' then none
      else
        let place := if first then place else (place.skip 1).next
        if place.sign = some '\x7d' then pure ([], place.skip 1)
        else if place.sign = none then none
        else
          let (key, value, after) ← match readKey? true place with
            | some (key, after) => do
                let (value, after) ← readFlowValue? bound after
                pure (key, value, after)
            | none => do
                let (key, after) ← readScalar? true 0 place
                pure (key, Node.nothing, after)
          let (entries, after) ← readFlowEntries? bound false after
          pure ((key, value) :: entries, after)

end

end ImportImpact.Yaml
