/-!
The importers of each imported file. Targets and importers keep the order in which they were
added first; adding a pair again changes nothing.
-/

namespace ImportImpact

structure ImporterIndex where
  entries : List (String × List String)

namespace ImporterIndex

def empty : ImporterIndex := ⟨[]⟩

def importersOf (index : ImporterIndex) (target : String) : List String :=
  (index.entries.lookup target).getD []

def contains (index : ImporterIndex) (target : String) : Bool :=
  (index.entries.lookup target).isSome

def size (index : ImporterIndex) : Nat := index.entries.length

def withItem (item : String) (items : List String) : List String :=
  if items.contains item then items else items ++ [item]

def addTo (importer target : String) :
    List (String × List String) → List (String × List String)
  | [] => [(target, [importer])]
  | entry :: rest =>
      if entry.1 = target then (target, withItem importer entry.2) :: rest
      else entry :: addTo importer target rest

def add (index : ImporterIndex) (importer target : String) : ImporterIndex :=
  ⟨addTo importer target index.entries⟩

def ofImports (files : List (String × List String)) : ImporterIndex :=
  files.foldl (fun index file =>
    file.2.foldl (fun index target => index.add file.1 target) index) empty

end ImporterIndex

end ImportImpact
