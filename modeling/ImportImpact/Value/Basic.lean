/-!
Values as documents give them: the contents of settings files, change records and reports. A
mapping keeps its entries in order and may have keys of any kind; settings and records look up
text keys only. Nothing here forbids two entries with one key: readers drop the earlier one.
-/

namespace ImportImpact

inductive Value where
  | null
  | bool (truth : Bool)
  | int (number : Int)
  | float (number : Float)
  | str (text : String)
  | list (items : List Value)
  | dict (entries : List (Value × Value))
  deriving Inhabited

namespace Value

def record (fields : List (String × Value)) : Value :=
  .dict (fields.map fun field => (.str field.1, field.2))

def texts (items : List String) : Value := .list (items.map .str)

def kindName : Value → String
  | .null => "NoneType"
  | .bool _ => "bool"
  | .int _ => "int"
  | .float _ => "float"
  | .str _ => "str"
  | .list _ => "list"
  | .dict _ => "dict"

/-- Null, false, zero and everything empty count as false. -/
def truthy : Value → Bool
  | .null => false
  | .bool truth => truth
  | .int number => number != 0
  | .float number => number != 0
  | .str text => !text.isEmpty
  | .list items => !items.isEmpty
  | .dict entries => !entries.isEmpty

def isText (text : String) : Value → Bool
  | .str other => text = other
  | _ => false

def lookup (key : String) (entries : List (Value × Value)) : Option Value :=
  (entries.find? fun entry => entry.1.isText key).map (·.2)

def field? (key : String) : Value → Option Value
  | .dict entries => lookup key entries
  | _ => none

def whole? : Value → Option Int
  | .bool truth => some (if truth then 1 else 0)
  | .int number => some number
  | _ => none

/-- Keys that name one entry: a truth value counts as the number it stands for. -/
def sameKey : Value → Value → Bool
  | .null, .null => true
  | .str left, .str right => left = right
  | .float left, .float right => left == right
  | left, right => match left.whole?, right.whole? with
    | some left, some right => left = right
    | _, _ => false

def insert (key value : Value) : List (Value × Value) → List (Value × Value)
  | [] => [(key, value)]
  | entry :: rest =>
      if entry.1.sameKey key then (entry.1, value) :: rest else entry :: insert key value rest

/-- Entries in the order they were written, the last one of each key winning. -/
def ofEntries (entries : List (Value × Value)) : Value :=
  .dict (entries.foldl (fun made entry => insert entry.1 entry.2 made) [])

def mostDigits : Nat := 4300

def hasShortText (number : Int) : Bool := (Nat.toDigits 10 number.natAbs).length ≤ mostDigits

mutual

/-- How many lists and mappings lie inside one another, at most. -/
def nesting : Value → Nat
  | .list items => itemsNesting items + 1
  | .dict entries => entriesNesting entries + 1
  | _ => 0

def itemsNesting : List Value → Nat
  | [] => 0
  | item :: rest => max item.nesting (itemsNesting rest)

def entriesNesting : List (Value × Value) → Nat
  | [] => 0
  | (key, value) :: rest => max (max key.nesting value.nesting) (entriesNesting rest)

end

mutual

def isWritable : Value → Bool
  | .int number => hasShortText number
  | .list items => areItemsWritable items
  | .dict entries => areEntriesWritable entries
  | _ => true

def areItemsWritable : List Value → Bool
  | [] => true
  | item :: rest => item.isWritable && areItemsWritable rest

def areEntriesWritable : List (Value × Value) → Bool
  | [] => true
  | (key, value) :: rest => key.isWritable && value.isWritable && areEntriesWritable rest

end

end Value

end ImportImpact
