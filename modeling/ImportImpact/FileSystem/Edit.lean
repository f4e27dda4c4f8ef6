import ImportImpact.FileSystem.Basic

/-!
Changing a file system: writing files, making directories, removing entries. Each operation
gives the new file system or says why nothing was changed.
-/

namespace ImportImpact.FileSystem

def put (system : FileSystem) (location : Location) (entry : Entry) : FileSystem :=
  { system with entries := place system.entries }
where
  place : List (Location × Entry) → List (Location × Entry)
    | [] => [(location, entry)]
    | known :: rest =>
        if known.1 = location then (location, entry) :: rest else known :: place rest

def plant (system : FileSystem) (location : Location) (entry : Entry) : FileSystem :=
  let above := (List.range location.length).map fun count => location.take count
  let grown := above.foldl (fun grown place =>
    if (grown.lookup? place).isNone then grown.put place .directory else grown) system
  grown.put location entry

def removeAt (system : FileSystem) (location : Location) : FileSystem :=
  { system with entries := system.entries.filter fun entry => !location.isPrefixOf entry.1 }

/-- Gives an entry and everything below it another place, instead of what is there. -/
def rename (system : FileSystem) (source target : Location) : FileSystem :=
  let freed := system.removeAt target
  { freed with entries := freed.entries.map fun (location, entry) =>
      if source.isPrefixOf location then (target ++ location.drop source.length, entry)
      else (location, entry) }

def writable (system : FileSystem) (path : Path) : Outcome Location :=
  if path.text.toList.contains '\x00' then .error .nulByte
  else match system.arrive true path with
    | .ok (.free location) => .ok location
    | .ok (.entry location) =>
        if system.isDirectoryAt location then .error (.refused .isDirectory path.text)
        else .ok location
    | .error refusal => .error (.refused refusal path.text)

def write (system : FileSystem) (path : Path) (bytes : List UInt8) : Outcome FileSystem := do
  pure (system.put (← system.writable path) (.file bytes))

def readBytes (system : FileSystem) (path : Path) : Outcome (List UInt8) :=
  if path.text.toList.contains '\x00' then .error .nulByte
  else match system.entryAt path with
    | .ok (.file bytes) => .ok bytes
    | .ok _ => .error (.refused .isDirectory path.text)
    | .error refusal => .error (.refused refusal path.text)

/-- Makes one directory; its parent must be there. A last link is not followed. -/
def makeDirectory (system : FileSystem) (path : Path) : Except Refusal FileSystem := do
  match ← system.arrive false path with
  | .free location => pure (system.put location .directory)
  | .entry _ => throw .alreadyExists

def ensureDirectory (system : FileSystem) (path : Path) : Outcome FileSystem :=
  match system.makeDirectory path with
  | .ok made => .ok made
  | .error refusal => do
      if refusal ≠ .noEntry && (← system.isDirectory path) then pure system
      else throw (.refused refusal path.text)

/-- Makes a directory together with the missing ones above it; `above` says how many of its last
names may be missing. -/
def ensureAbove (system : FileSystem) (path : Path) : Nat → Outcome FileSystem
  | 0 => system.ensureDirectory path
  | above + 1 => match system.makeDirectory path with
    | .error .noEntry => do
        let grown ← ensureAbove system path.parent above
        grown.ensureDirectory path
    | _ => system.ensureDirectory path

def ensureDirectories (system : FileSystem) (path : Path) : Outcome FileSystem :=
  if path.text.toList.contains '\x00' then .error .nulByte
  else system.ensureAbove path path.names.length

end ImportImpact.FileSystem
