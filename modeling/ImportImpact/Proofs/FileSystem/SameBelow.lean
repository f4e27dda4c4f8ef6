import ImportImpact.Proofs.FileSystem.Folders
import ImportImpact.Proofs.FileSystem.Names
import ImportImpact.Proofs.FileSystem.WithoutLinks
import Mathlib.Data.List.Induction

/-!
Two trees that are the same below one directory. Whatever lies around it, paths below it lead to the
same in both; or the directory is in neither of them, and then nothing is found below it.
-/

namespace ImportImpact.FileSystem

/-- A tree as a disk holds one, but without links: what is there lies in a directory. -/
structure PlainTree (system : FileSystem) : Prop where
  no_links : system.NoLinks
  held : ∀ location name entry, system.lookup? (location ++ [name]) = some entry →
    system.isDirectoryAt location = true
  working : ∀ name ∈ system.workingDirectory, Downward name

/-- The path leads to one place in both trees, and they hold the same there and below. -/
structure SameBelow (first second : FileSystem) (root : Path) : Prop where
  real : first.realPath root = second.realPath root
  same : ∀ names, first.lookup? ((first.realPath root).names ++ names) =
    second.lookup? ((first.realPath root).names ++ names)
  platform : first.platform = second.platform

/-- Paths below the root lead to the same in both trees. -/
structure Agree (first second : FileSystem) (root : Path) : Prop where
  located : ∀ path, Descends root path → first.locate path = second.locate path
  below : ∀ path location, Descends root path → first.locate path = .ok location →
    ∀ names, first.lookup? (location ++ names) = second.lookup? (location ++ names)
  real : ∀ path, Descends root path → first.realPath path = second.realPath path
  platform : first.platform = second.platform

/-- No path below the root leads anywhere. -/
def Vacant (system : FileSystem) (root : Path) : Prop :=
  ∀ path location, Descends root path → system.locate path ≠ .ok location

section PlainTree

variable {system : FileSystem}

theorem plain_tree_of_entries
    (plain : ∀ entry ∈ system.entries, ∀ target, entry.2 ≠ .link target)
    (held : ∀ entry ∈ system.entries, system.isDirectoryAt entry.1.dropLast = true)
    (working : ∀ name ∈ system.workingDirectory, Downward name) : system.PlainTree := by
  have listed : ∀ location entry, location ≠ [] → system.lookup? location = some entry →
      (location, entry) ∈ system.entries := by
    intro location entry filled there
    obtain ⟨name, names, rfl⟩ := List.exists_cons_of_ne_nil filled
    obtain ⟨before, after, shape, -⟩ := List.lookup_eq_some_iff.1 there
    rw [shape]
    simp
  refine ⟨fun location target there => ?_, fun location name entry there => ?_, working⟩
  · by_cases top : location = []
    · subst top
      cases there
    · exact plain _ (listed location _ top there) target rfl
  · have above := held _ (listed _ entry (by simp) there)
    rwa [List.dropLast_concat] at above

theorem PlainTree.above (plain : system.PlainTree) {before after : Location} {entry : Entry}
    (below : after ≠ []) (there : system.lookup? (before ++ after) = some entry) :
    system.lookup? before = some .directory := by
  induction after using List.reverseRecOn generalizing entry with
  | nil => exact absurd rfl below
  | append_singleton others name induction =>
      rw [← List.append_assoc] at there
      have parent : system.lookup? (before ++ others) = some .directory := by
        simpa [isDirectoryAt] using plain.held _ _ _ there
      by_cases none : others = []
      · simpa [none] using parent
      · exact induction none parent

theorem PlainTree.real_downward (plain : system.PlainTree) (root : Path) :
    ∀ name ∈ (system.realPath root).names, Downward name := by
  rw [real_path_eq plain.no_links]
  apply lead_downward
  unfold start
  split
  · exact plain.working
  · simp

theorem PlainTree.descends_downward (plain : system.PlainTree) {root path : Path}
    (below : Descends (system.realPath root) path) :
    (∃ names, path = ⟨.root, (system.realPath root).names ++ names⟩) ∧
      ∀ name ∈ path.names, Downward name := by
  obtain ⟨anchor, names, shape, named⟩ := below
  have same : path = ⟨.root, (system.realPath root).names ++ names⟩ := by
    rw [← shape]
    exact congrArg (Path.mk · path.names) anchor
  refine ⟨⟨names, same⟩, fun name member => ?_⟩
  rw [shape] at member
  rcases List.mem_append.1 member with before | after
  · exact plain.real_downward root name before
  · exact downward_of_name (named name after)

theorem PlainTree.located_below (plain : system.PlainTree) {root path : Path}
    {location : Location} (below : Descends (system.realPath root) path)
    (located : system.locate path = .ok location) :
    location = path.names ∧ system.lookup? location ≠ none := by
  obtain ⟨⟨names, shape⟩, down⟩ := plain.descends_downward below
  have start : system.start path = [] := by rw [shape]; rfl
  have lands := locate_lands (plain.no_links.passed _ _) located
  rw [start, lead_of_downward down, List.nil_append] at lands
  refine ⟨lands, ?_⟩
  have arrived := (located_iff.1 located).2
  rw [start] at arrived
  have filled : system.lookup? [] ≠ none := by simp [lookup?]
  exact follow_there plain.no_links down filled arrived

end PlainTree

theorem PlainTree.vacant {system : FileSystem} (plain : system.PlainTree) {root : Path}
    (missing : system.lookup? (system.realPath root).names = none) :
    Vacant system (system.realPath root) := by
  intro path location below located
  obtain ⟨names, shape⟩ := (plain.descends_downward below).1
  obtain ⟨lands, filled⟩ := plain.located_below below located
  obtain ⟨entry, found⟩ := Option.ne_none_iff_exists'.1 filled
  rw [lands, shape] at found
  by_cases none : names = []
  · simp [none, missing] at found
  · simp [plain.above none found] at missing

theorem SameBelow.passed {first second : FileSystem} {root : Path} (plain : first.PlainTree)
    (plainToo : second.PlainTree) (alike : SameBelow first second root) {entry : Entry}
    (there : first.lookup? (first.realPath root).names = some entry) {names passed : List String}
    (shorter : passed <+: (first.realPath root).names ++ names) :
    first.lookup? passed = second.lookup? passed := by
  have thereToo : second.lookup? (first.realPath root).names = some entry := by
    have here := alike.same []
    rwa [List.append_nil, there, eq_comm] at here
  obtain ⟨rest, whole⟩ := shorter
  rcases List.append_eq_append_iff.1 whole with ⟨after, split, -⟩ | ⟨after, inside, -⟩
  · by_cases last : after = []
    · rw [last, List.append_nil] at split
      rw [← split, there, thereToo]
    · rw [split] at there thereToo
      rw [plain.above last there, plainToo.above last thereToo]
  · rw [inside]
    exact alike.same after

theorem SameBelow.agree {first second : FileSystem} {root : Path} (plain : first.PlainTree)
    (plainToo : second.PlainTree) (alike : SameBelow first second root) {entry : Entry}
    (there : first.lookup? (first.realPath root).names = some entry) :
    Agree first second (first.realPath root) := by
  refine ⟨?_, ?_, ?_, alike.platform⟩
  · intro path below
    obtain ⟨⟨names, shape⟩, down⟩ := plain.descends_downward below
    have followed : first.follow true mostLinks [] path.names =
        second.follow true mostLinks [] path.names := by
      apply follow_congr (plain.no_links.passed _ _)
      intro passed shorter
      rw [lead_of_downward (fun name member => down name (shorter.subset member)),
        List.nil_append]
      rw [shape] at shorter
      exact alike.passed plain plainToo there shorter
    have start (system : FileSystem) : system.start path = [] := by
      rw [shape]
      rfl
    rw [locate, locate, arrive, arrive, start, start, followed]
  · intro path location below located names
    obtain ⟨⟨others, shape⟩, -⟩ := plain.descends_downward below
    rw [(plain.located_below below located).1, shape, List.append_assoc]
    exact alike.same (others ++ names)
  · intro path below
    obtain ⟨⟨names, shape⟩, -⟩ := plain.descends_downward below
    rw [real_path_eq plain.no_links, real_path_eq plainToo.no_links, shape]
    rfl

/-- The root is in both trees or in none of them. -/
theorem agree_or_vacant {first second : FileSystem} {root : Path} (plain : first.PlainTree)
    (plainToo : second.PlainTree) (alike : SameBelow first second root) :
    Agree first second (first.realPath root) ∨
      Vacant first (first.realPath root) ∧ Vacant second (first.realPath root) := by
  cases there : first.lookup? (first.realPath root).names with
  | some entry => exact Or.inl (alike.agree plain plainToo there)
  | none =>
      have missing : second.lookup? (second.realPath root).names = none := by
        have here := alike.same []
        rw [List.append_nil, there] at here
        rw [← alike.real, ← here]
      refine Or.inr ⟨plain.vacant there, ?_⟩
      rw [alike.real]
      exact plainToo.vacant missing

section Agree

variable {first second : FileSystem} {root path : Path}

theorem Agree.found (agree : Agree first second root) (below : Descends root path)
    {location : Location} (located : first.locate path = .ok location) :
    second.locate path = .ok location ∧ second.lookup? location = first.lookup? location := by
  have same := agree.below path location below located []
  rw [List.append_nil] at same
  exact ⟨agree.located path below ▸ located, same.symm⟩

theorem Agree.entry (agree : Agree first second root) (below : Descends root path) :
    first.entryAt path = second.entryAt path := by
  rw [entryAt, entryAt, ← agree.located path below]
  cases located : first.locate path with
  | error refusal => rfl
  | ok location => simp only [bind, Except.bind, (agree.found below located).2]

theorem Agree.descend (agree : Agree first second root) (below : Descends root path) :
    Agree first second path where
  located other within := agree.located other (below.trans within)
  below other location within := agree.below other location (below.trans within)
  real other within := agree.real other (below.trans within)
  platform := agree.platform

theorem Agree.asked (agree : Agree first second root) (below : Descends root path)
    (property : Entry → Bool) : first.ask path property = second.ask path property := by
  rw [ask, ask, agree.entry below]

theorem Agree.placed (agree : Agree first second root) (below : Descends root path)
    (within : Descends root path.parent) : first.place path = second.place path ∧
      ∀ location, first.place path = .ok location →
        ∀ names, first.lookup? (location ++ names) = second.lookup? (location ++ names) := by
  rw [place, place, ← agree.located path.parent within]
  cases located : first.locate path.parent with
  | error refusal => simp [bind, Except.bind]
  | ok directory =>
      have same := agree.below path.parent directory within located
      simp only [bind, Except.bind, ← same [path.lastName]]
      have plain : ∀ location, directory ++ [path.lastName] = location →
          ∀ names, first.lookup? (location ++ names) = second.lookup? (location ++ names) := by
        rintro location rfl names
        rw [List.append_assoc]
        exact same ([path.lastName] ++ names)
      cases there : first.lookup? (directory ++ [path.lastName]) with
      | none => simp
      | some entry =>
          cases entry with
          | link target =>
              exact ⟨agree.located path below, fun location => agree.below path location below⟩
          | directory => exact ⟨rfl, fun location given => plain location (Except.ok.inj given)⟩
          | file content => exact ⟨rfl, fun location given => plain location (Except.ok.inj given)⟩

theorem Agree.visible (agree : Agree first second root) (below : Descends root path)
    {location : Location}
    (same : ∀ names, first.lookup? (location ++ names) = second.lookup? (location ++ names))
    (rules : WalkRules) :
    first.visible rules path location = second.visible rules path location := by
  have listed : first.names location = second.names location :=
    names_congr fun name => by rw [same [name]]
  rw [FileSystem.visible, FileSystem.visible, ← agree.located path below, listed]
  simp only [same]

def LiesBelow (root path : Path) : Prop := Descends root path ∧ Descends root path.parent

theorem lies_below_of_visible {system : FileSystem} {rules : WalkRules} {location : Location}
    (below : Descends root path) {child : Path}
    (member : child ∈ system.visible rules path location) : LiesBelow root child :=
  ⟨descends_of_visible below location child member, parent_of_visible member ▸ below⟩

theorem Agree.walks_alike (agree : Agree first second root) (rules : WalkRules) :
    WalksAlike first second rules (LiesBelow root) := by
  have found {path : Path} {location : Location} (below : LiesBelow root path)
      (placed : first.place path = .ok location) :
      second.lookup? location = first.lookup? location := by
    simpa using ((agree.placed below.1 below.2).2 location placed []).symm
  refine ⟨fun path below location => ?_, fun path below => (agree.real path below.1).symm,
    fun path below => ?_, fun path location below enters => ?_,
    fun path location below enters child member => lies_below_of_visible below.1 member⟩
  · have placed := (agree.placed below.1 below.2).1
    exact ⟨fun ⟨given, there, kept⟩ =>
        ⟨placed.trans given, found below (placed.trans given) ▸ there, kept⟩,
      fun ⟨given, there, kept⟩ => ⟨placed ▸ given, (found below given).trans there, kept⟩⟩
  · have placed := (agree.placed below.1 below.2).1
    unfold Gives
    rw [← placed]
    refine and_congr_right fun _ => exists_congr fun location => exists_congr fun content =>
      and_congr_right fun given => ?_
    rw [found below given]
  · have same := (agree.placed below.1 below.2).2 location enters.placed
    exact (agree.visible below.1 same rules).symm

theorem Agree.walked (agree : Agree first second root) (below : Descends root path)
    (rules : WalkRules) : first.walked rules path = second.walked rules path := by
  rw [FileSystem.walked, FileSystem.walked, isDirectory, isDirectory, agree.asked below,
    ← agree.located path below]
  cases located : first.locate path with
  | error refusal => rfl
  | ok location =>
      have same := agree.below path location below located
      have key : second.realNames path = first.realNames path := by
        rw [realNames, ← agree.real path below, realNames]
      dsimp only
      rw [(agree.walks_alike rules).visits_from _ fun child member =>
        lies_below_of_visible below (agree.visible below same rules ▸ member),
        agree.visible below same, key, agree.platform]

end Agree

end ImportImpact.FileSystem
