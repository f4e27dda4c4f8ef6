import ImportImpact.FileSystem.ReadText
import ImportImpact.Proofs.FileSystem.Shape
import ImportImpact.Proofs.Journal.WithoutFile
import ImportImpact.Proofs.Outcome

/-!
Files that are refused, emptied. A tree in which some of the files that no reader accepts are empty
has the shape that it had, so that everything is found where it was; and it keeps to it while the
journal makes the directories of its file and the file itself.
-/

namespace ImportImpact.FileSystem

/-- By these rules a file with this content is refused: it is too large, or no encoding fits. -/
def ReadingRules.Refuses (rules : ReadingRules) (platform : Platform) (content : List UInt8) :
    Prop :=
  exceeds content.length rules.largest = .ok true ∨
    exceeds content.length rules.largest = .ok false ∧ ∃ fallbacks,
      fallbackNames rules.fallbacks = .ok fallbacks ∧
        decodeFirst platform content (rules.encoding :: fallbacks) = .ok none

def emptied (system : FileSystem) (chosen : Location → Bool) : FileSystem :=
  { system with entries := system.entries.map fun entry =>
      (entry.1, if chosen entry.1 then entry.2.emptied else entry.2) }

/-- The second tree is the first one, but for refused files that are empty. -/
structure EmptiedTo (refused : Platform → List UInt8 → Prop) (first second : FileSystem) :
    Prop where
  working : first.workingDirectory = second.workingDirectory
  same : ∀ location, second.lookup? location = first.lookup? location ∨
    ∃ content, refused first.platform content ∧ first.lookup? location = some (.file content) ∧
      second.lookup? location = some (.file [])
  platform : first.platform = second.platform

section Emptied

variable {system : FileSystem} {chosen : Location → Bool}

theorem lookup_emptied (system : FileSystem) (chosen : Location → Bool) (location : Location) :
    (system.emptied chosen).lookup? location = (system.lookup? location).map fun entry =>
      if chosen location then entry.emptied else entry := by
  cases location with
  | nil =>
      change some Entry.directory =
        some (if chosen [] then Entry.emptied .directory else .directory)
      cases chosen [] <;> rfl
  | cons name names =>
      change (system.entries.map _).lookup (name :: names) =
        (system.entries.lookup (name :: names)).map _
      induction system.entries with
      | nil => rfl
      | cons entry rest induction =>
          rw [List.map_cons, List.lookup_cons, List.lookup_cons, induction]
          cases same : (name :: names) == entry.1 with
          | false => rfl
          | true => rw [← eq_of_beq same, Option.map_some]

theorem emptied_to_of_refused {refused : Platform → List UInt8 → Prop}
    (all : ∀ location content, chosen location = true →
      system.lookup? location = some (.file content) → refused system.platform content) :
    EmptiedTo refused system (system.emptied chosen) := by
  refine ⟨rfl, fun location => ?_, rfl⟩
  rw [lookup_emptied]
  cases there : system.lookup? location with
  | none => exact Or.inl rfl
  | some entry =>
      cases picked : chosen location with
      | false => exact Or.inl rfl
      | true =>
          cases entry with
          | directory => exact Or.inl rfl
          | link target => exact Or.inl rfl
          | file content => exact Or.inr ⟨content, all location content picked there, rfl, rfl⟩

end Emptied

namespace EmptiedTo

variable {refused : Platform → List UInt8 → Prop} {first second : FileSystem}

theorem shape (emptied : EmptiedTo refused first second) : SameShape first second := by
  refine ⟨emptied.working, fun location => ?_, emptied.platform⟩
  rcases emptied.same location with same | ⟨content, -, here, there⟩
  · rw [same]
  · rw [here, there]
    rfl

/-- What is read is the same, or what was refused is nothing at all. -/
theorem content_cases (emptied : EmptiedTo refused first second) (path : Path) :
    second.contentAt path = first.contentAt path ∨ ∃ content, refused first.platform content ∧
      first.contentAt path = .ok content ∧ second.contentAt path = .ok [] := by
  rw [contentAt, contentAt, entryAt, entryAt, emptied.shape.located]
  cases first.locate path with
  | error refusal => exact Or.inl rfl
  | ok location =>
      simp only [bind, Except.bind]
      rcases emptied.same location with same | ⟨content, known, here, there⟩
      · exact Or.inl (by rw [same])
      · exact Or.inr ⟨content, known, by rw [here]; rfl, by rw [there]; rfl⟩

theorem put (emptied : EmptiedTo refused first second) {location : Location}
    (below : location ≠ []) (entry : Entry) :
    EmptiedTo refused (first.put location entry) (second.put location entry) := by
  refine ⟨emptied.working, fun other => ?_, emptied.platform⟩
  rw [lookup_put below, lookup_put below]
  split
  · exact Or.inl rfl
  · exact emptied.same other

/-- Both fail in the same way, or both give a tree, one of them the other with refused files
empty. -/
inductive Alike {Reason : Type} (refused : Platform → List UInt8 → Prop) :
    Except Reason FileSystem → Except Reason FileSystem → Prop
  | error (reason : Reason) : Alike refused (.error reason) (.error reason)
  | ok {first second : FileSystem} (emptied : EmptiedTo refused first second) :
      Alike refused (.ok first) (.ok second)

theorem made (emptied : EmptiedTo refused first second) (path : Path) :
    Alike refused (first.makeDirectory path) (second.makeDirectory path) := by
  rw [makeDirectory, makeDirectory, emptied.shape.arrived]
  cases arrived : first.arrive false path with
  | error refusal => exact .error refusal
  | ok arrival =>
      cases arrival with
      | entry location => exact .error Refusal.alreadyExists
      | free location =>
          have followed := (arrive_ok_iff.1 arrived).2
          exact .ok (emptied.put (missing_of_free followed).1 .directory)

theorem ensured (emptied : EmptiedTo refused first second) (path : Path) :
    Alike refused (first.ensureDirectory path) (second.ensureDirectory path) := by
  have made := emptied.made path
  rw [ensureDirectory, ensureDirectory, emptied.shape.directory_asked]
  generalize first.makeDirectory path = here, second.makeDirectory path = there at made
  cases made with
  | ok grown => exact .ok grown
  | error refusal =>
      cases first.isDirectory path with
      | error fault => exact .error fault
      | ok known =>
          dsimp only [bind, Except.bind]
          split
          · exact .ok emptied
          · exact .error _

theorem ensured_above (emptied : EmptiedTo refused first second) (path : Path) (above : Nat) :
    Alike refused (first.ensureAbove path above) (second.ensureAbove path above) := by
  induction above generalizing path with
  | zero => exact emptied.ensured path
  | succ above induction =>
      have made := emptied.made path
      have parents := induction path.parent
      rw [ensureAbove, ensureAbove]
      generalize first.makeDirectory path = here, second.makeDirectory path = there at made
      cases made with
      | ok grown => exact emptied.ensured path
      | error refusal =>
          cases refusal with
          | noEntry =>
              dsimp only
              generalize first.ensureAbove path.parent above = grown,
                second.ensureAbove path.parent above = grownToo at parents
              cases parents with
              | error fault => exact .error fault
              | ok grown => exact grown.ensured path
          | _ => exact emptied.ensured path

theorem ensured_all (emptied : EmptiedTo refused first second) (path : Path) :
    Alike refused (first.ensureDirectories path) (second.ensureDirectories path) := by
  rw [ensureDirectories, ensureDirectories]
  split
  · exact .error _
  · exact emptied.ensured_above path _

theorem writable_eq (emptied : EmptiedTo refused first second) (path : Path) :
    second.writable path = first.writable path := by
  rw [writable, writable, emptied.shape.arrived]
  simp only [emptied.shape.directory_eq]

section Journal

open Journal

theorem opened (emptied : EmptiedTo refused first second) (configuration : Configuration)
    (layout : String) :
    (openFile second configuration layout).2 = (openFile first configuration layout).2 ∧
      EmptiedTo refused (openFile first configuration layout).1
        (openFile second configuration layout).1 := by
  unfold openFile
  cases configuration.file with
  | str name =>
      dsimp only
      have grown := emptied.ensured_all (Path.parse name).parent
      generalize first.ensureDirectories (Path.parse name).parent = here,
        second.ensureDirectories (Path.parse name).parent = there at grown
      cases grown with
      | error fault => exact ⟨rfl, emptied⟩
      | ok grown =>
          dsimp only
          cases sizeLimit configuration.megabytes with
          | error fault => exact ⟨rfl, grown⟩
          | ok limit =>
              dsimp only
              rw [absolute, absolute, grown.working, grown.writable_eq]
              split
              next fault blocked => exact ⟨rfl, grown⟩
              next location free =>
                rcases grown.same location with same | ⟨content, -, here, there⟩
                · rw [same]
                  split
                  · exact ⟨rfl, grown⟩
                  next missing =>
                    have below : location ≠ [] := by
                      rintro rfl
                      cases missing
                    exact ⟨rfl, grown.put below (.file [])⟩
                · rw [here, there]
                  exact ⟨rfl, grown⟩
  | _ => exact ⟨rfl, emptied⟩

theorem configured (emptied : EmptiedTo refused first second) (time : String)
    (configuration : Configuration) :
    (configure second time configuration).fault = (configure first time configuration).fault ∧
      EmptiedTo refused (configure first time configuration).system
        (configure second time configuration).system := by
  unfold configure
  cases checkLayout configuration.layout with
  | error fault => exact ⟨rfl, emptied⟩
  | ok layout =>
      dsimp only
      split
      · exact ⟨rfl, emptied⟩
      next named =>
        obtain ⟨same, grown⟩ := emptied.opened configuration layout
        generalize openFile first configuration layout = here,
          openFile second configuration layout = there at same grown
        obtain ⟨tree, outcome⟩ := here
        obtain ⟨treeToo, outcomeToo⟩ := there
        dsimp only at same grown
        subst same
        cases outcomeToo with
        | ok file => exact ⟨rfl, grown⟩
        | error fault =>
            cases fault with
            | refused refusal path =>
                refine ⟨rfl, ?_⟩
                dsimp only
                rw [log_without_file rfl, log_without_file rfl]
                exact grown
            | _ => exact ⟨rfl, grown⟩

end Journal

end EmptiedTo

end ImportImpact.FileSystem
