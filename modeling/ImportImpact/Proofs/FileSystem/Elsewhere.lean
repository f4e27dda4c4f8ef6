import ImportImpact.Proofs.FileSystem.SameBelow
import ImportImpact.Proofs.Path.Segment

/-!
Trees that differ elsewhere. What lies around one directory, below it and above it, is the same in
both and without links, and paths that keep to these places lead to the same, also with steps up on
the way. Whatever else happens to a tree, a repository in it is the same.
-/

namespace ImportImpact.FileSystem

def Around (place location : Location) : Prop :=
  place <+: location ∨ location <+: place

instance (place location : Location) : Decidable (Around place location) :=
  inferInstanceAs (Decidable (place <+: location ∨ location <+: place))

/-- All that the path comes through from the root of the tree lies around the place. -/
structure KeepsTo (place : Location) (path : Path) : Prop where
  anchored : path.anchor ≠ .relative
  around : ∀ passed, passed <+: path.names → Around place (lead [] passed)

/-- A tree without links around one directory of it. -/
structure PlainAround (system : FileSystem) (root : Path) : Prop where
  no_links : ∀ location, Around (system.realPath root).names location →
    ∀ target, system.lookup? location ≠ some (.link target)
  working : ∀ name ∈ system.workingDirectory, Downward name

/-- The path leads to one place in both trees, and they hold the same around it. -/
structure SameAround (first second : FileSystem) (root : Path) : Prop where
  real : first.realPath root = second.realPath root
  same : ∀ location, Around (first.realPath root).names location →
    first.lookup? location = second.lookup? location
  platform : first.platform = second.platform

theorem PlainTree.around {system : FileSystem} (plain : system.PlainTree) (root : Path) :
    PlainAround system root :=
  ⟨fun location _ target => plain.no_links location target, plain.working⟩

theorem SameAround.refl (system : FileSystem) (root : Path) : SameAround system system root :=
  ⟨rfl, fun _ _ => rfl, rfl⟩

theorem SameAround.trans {first second third : FileSystem} {root : Path}
    (before : SameAround first second root) (after : SameAround second third root) :
    SameAround first third root := by
  refine ⟨before.real.trans after.real, fun location around => ?_,
    before.platform.trans after.platform⟩
  exact (before.same location around).trans (after.same location (before.real ▸ around))

section Real

variable {system : FileSystem}

theorem evaluate_downward (steps : List String) : ∀ name ∈ evaluate steps, Downward name := by
  intro name member
  obtain ⟨segment, kept, rfl⟩ := List.mem_map.1 member
  obtain ⟨busy, down⟩ := Segment.reduce_rooted kept
  have written (text : String) (same : String.ofList segment = text) : segment = text.toList := by
    rw [← same, String.toList_ofList]
  refine ⟨fun empty => ?_, fun dot => ?_, fun up => down (written _ up)⟩
  · rw [written _ empty] at busy
    cases busy
  · rw [written _ dot] at busy
    cases busy

theorem real_from_downward {resolved : List (Location × Location)} {opened : List Location}
    {here : Location} {pending : List Pending} (down : ∀ name ∈ here, Downward name)
    (known : ∀ link place, resolved.lookup link = some place → ∀ name ∈ place, Downward name) :
    ∀ name ∈ system.realFrom resolved opened here pending, Downward name := by
  -- Two things are carried along: where the walk stands, and where each link led so far.
  fun_induction realFrom system resolved opened here pending with
  | case1 => exact down
  | case2 resolved opened here link rest induction =>
      apply induction down
      intro other place found
      rw [List.lookup_cons] at found
      split at found
      · cases found
        exact down
      · exact known other place found
  | case3 resolved opened here name rest idle induction => exact induction down known
  | case4 resolved opened here rest busy induction =>
      exact induction (fun other member => down other (List.dropLast_subset here member)) known
  | case5 resolved opened here name rest busy goes target link place found induction =>
      exact induction (known _ place found) known
  -- A link that leads to itself: the rest is worked off as it is written.
  | case6 => exact evaluate_downward _
  | case7 resolved opened here name rest busy goes target link unknown fresh induction =>
      apply induction _ known
      split
      · simp
      · exact down
  | case8 resolved opened here name rest busy goes plain induction =>
      apply induction _ known
      intro other member
      rcases List.mem_append.1 member with before | last
      · exact down other before
      · rw [List.mem_singleton.1 last]
        simp only [Bool.or_eq_true, decide_eq_true_eq, not_or] at busy
        exact ⟨busy.1, busy.2, goes⟩

theorem real_path_downward (working : ∀ name ∈ system.workingDirectory, Downward name)
    (path : Path) : ∀ name ∈ (system.realPath path).names, Downward name := by
  apply real_from_downward
  · unfold start
    split
    · exact working
    · simp
  · simp

end Real

theorem keeps_of_downward {path : Path} {place : Location} (anchored : path.anchor ≠ .relative)
    (down : ∀ name ∈ path.names, Downward name) (around : Around place path.names) :
    KeepsTo place path := by
  refine ⟨anchored, fun passed shorter => ?_⟩
  rw [lead_of_downward fun name member => down name (shorter.subset member), List.nil_append]
  rcases around with below | above
  · exact (List.prefix_or_prefix_of_prefix below shorter)
  · exact Or.inr (shorter.trans above)

section SameAround

variable {first second : FileSystem} {root path : Path}

theorem KeepsTo.start {place : Location} (keeps : KeepsTo place path) (system : FileSystem) :
    system.start path = [] := by
  unfold FileSystem.start
  split
  next relative => exact absurd relative keeps.anchored
  · rfl

theorem PlainAround.passed (plain : PlainAround first root)
    (keeps : KeepsTo (first.realPath root).names path) :
    first.PassesNoLink [] path.names := fun passed shorter =>
  plain.no_links _ (keeps.around passed shorter)

theorem SameAround.located (same : SameAround first second root) (plain : PlainAround first root)
    (keeps : KeepsTo (first.realPath root).names path) :
    first.locate path = second.locate path := by
  have followed : first.follow true mostLinks [] path.names =
      second.follow true mostLinks [] path.names :=
    follow_congr (plain.passed keeps) fun passed shorter =>
      same.same _ (keeps.around passed shorter)
  rw [locate, locate, arrive, arrive, keeps.start, keeps.start, followed]

theorem PlainAround.lands (plain : PlainAround first root)
    (keeps : KeepsTo (first.realPath root).names path) {location : Location}
    (located : first.locate path = .ok location) : location = lead [] path.names := by
  have lands := follow_lands (keeps.start first ▸ plain.passed keeps) (located_iff.1 located).2
  rw [keeps.start] at lands
  exact lands

theorem SameAround.entry (same : SameAround first second root) (plain : PlainAround first root)
    (keeps : KeepsTo (first.realPath root).names path) :
    first.entryAt path = second.entryAt path := by
  rw [entryAt, entryAt, ← same.located plain keeps]
  cases located : first.locate path with
  | error refusal => rfl
  | ok location =>
      have around := keeps.around path.names List.prefix_rfl
      rw [← plain.lands keeps located] at around
      simp only [bind, Except.bind, same.same location around]

theorem SameAround.real_path (same : SameAround first second root) (plain : PlainAround first root)
    (keeps : KeepsTo (first.realPath root).names path) :
    first.realPath path = second.realPath path := by
  have passed : first.PassesNoLink (first.start path) path.names :=
    keeps.start first ▸ plain.passed keeps
  have passedToo : second.PassesNoLink (second.start path) path.names := by
    intro steps shorter target
    rw [keeps.start, ← same.same _ (keeps.around steps shorter)]
    exact plain.passed keeps steps shorter target
  rw [real_path_of_passed passed, real_path_of_passed passedToo, keeps.start, keeps.start]

/-- A path that keeps to the place and ends there or below it keeps to it further on. -/
theorem KeepsTo.descend {place : Location} {directory : Path} (keeps : KeepsTo place directory)
    (inside : place <+: lead [] directory.names) (below : Descends directory path) :
    KeepsTo place path ∧ place <+: lead [] path.names := by
  obtain ⟨anchor, names, shape, named⟩ := below
  have onward (further : List String) (shorter : further <+: names) :
      lead [] (directory.names ++ further) = lead [] directory.names ++ further := by
    rw [lead_append, lead_of_downward fun name member =>
      downward_of_name (named name (shorter.subset member))]
  refine ⟨⟨anchor ▸ keeps.anchored, fun passed shorter => ?_⟩, ?_⟩
  · obtain ⟨rest, whole⟩ := shorter
    rw [shape] at whole
    -- What is passed ends on the way to the directory, or further down.
    rcases List.append_eq_append_iff.1 whole with ⟨after, split, -⟩ | ⟨further, rfl, split⟩
    · exact keeps.around passed ⟨after, split.symm⟩
    · rw [onward further ⟨rest, split.symm⟩]
      exact Or.inl (inside.trans (List.prefix_append _ _))
  · rw [shape, onward names List.prefix_rfl]
    exact inside.trans (List.prefix_append _ _)

theorem SameAround.agree (same : SameAround first second root) (plain : PlainAround first root)
    (keeps : KeepsTo (first.realPath root).names path)
    (inside : (first.realPath root).names <+: lead [] path.names) : Agree first second path := by
  refine ⟨?_, ?_, ?_, same.platform⟩
  · intro other below
    exact same.located plain (keeps.descend inside below).1
  · intro other location below located names
    obtain ⟨further, within⟩ := keeps.descend inside below
    rw [← plain.lands further located] at within
    exact same.same _ (Or.inl (within.trans (List.prefix_append _ _)))
  · intro other below
    exact same.real_path plain (keeps.descend inside below).1

theorem PlainAround.root_keeps (plain : PlainAround first root) :
    KeepsTo (first.realPath root).names (first.realPath root) ∧
      (first.realPath root).names <+: lead [] (first.realPath root).names := by
  have down := real_path_downward plain.working root
  refine ⟨keeps_of_downward (by simp [realPath]) down (Or.inl List.prefix_rfl), ?_⟩
  rw [lead_of_downward down]
  exact List.prefix_rfl

theorem SameAround.settled (same : SameAround first second root) (plain : PlainAround first root) :
    first.settle root = second.settle root := by
  rw [settle, settle, ← same.real, same.located plain plain.root_keeps.1]

end SameAround

section Elsewhere

variable {system : FileSystem} {root : Path} {location : Location}

theorem lookup_remove (below : location ≠ []) (other : Location) :
    (system.removeAt location).lookup? other =
      if location <+: other then none else system.lookup? other := by
  cases other with
  | nil =>
      rw [if_neg fun above => below (List.prefix_nil.1 above)]
      rfl
  | cons name names =>
      change (system.entries.filter _).lookup (name :: names) =
        if location <+: name :: names then none else system.entries.lookup (name :: names)
      induction system.entries with
      | nil => simp
      | cons known rest induction =>
          rw [List.filter_cons, List.lookup_cons]
          by_cases here : name :: names = known.1
          · rw [beq_iff_eq.2 here]
            by_cases taken : location <+: name :: names
            · rw [if_neg (by simpa [List.isPrefixOf_iff_prefix, ← here] using taken), induction,
                if_pos taken, if_pos taken]
            · rw [if_pos (by
                  simpa [← Bool.not_eq_true, List.isPrefixOf_iff_prefix, ← here] using taken),
                if_neg taken, List.lookup_cons, beq_iff_eq.2 here]
          · rw [beq_false_of_ne here]
            split
            · rw [List.lookup_cons, beq_false_of_ne here]
              exact induction
            · exact induction

theorem same_around_of_elsewhere {other : FileSystem}
    (working : system.workingDirectory = other.workingDirectory)
    (platform : system.platform = other.platform)
    (changed : ∀ place, other.lookup? place = system.lookup? place ∨
      ¬Around (system.realPath root).names place ∧
        ∀ target, system.lookup? place ≠ some (.link target) ∧
          other.lookup? place ≠ some (.link target)) : SameAround system other root := by
  have links : ∀ place target, other.lookup? place = some (.link target) ↔
      system.lookup? place = some (.link target) := by
    intro place target
    rcases changed place with same | ⟨-, plain⟩
    · rw [same]
    · simp [(plain target).1, (plain target).2]
  refine ⟨(real_path_congr working links root).symm, fun place around => ?_, platform⟩
  rcases changed place with same | ⟨elsewhere, -⟩
  · exact same.symm
  · exact absurd around elsewhere

variable (elsewhere : ¬Around (system.realPath root).names location)

include elsewhere

theorem not_root_of_elsewhere : location ≠ [] := by
  rintro rfl
  exact elsewhere (Or.inr List.nil_prefix)

theorem same_around_put (plain : ∀ target, system.lookup? location ≠ some (.link target))
    (content : List UInt8) :
    SameAround system (system.put location (.file content)) root := by
  refine same_around_of_elsewhere rfl rfl fun place => ?_
  rw [lookup_put (not_root_of_elsewhere elsewhere)]
  by_cases here : place = location
  · rw [if_pos here, here]
    exact Or.inr ⟨elsewhere, fun target => ⟨plain target, by simp⟩⟩
  · exact Or.inl (if_neg here)

theorem same_around_remove
    (plain : ∀ place target, location <+: place → system.lookup? place ≠ some (.link target)) :
    SameAround system (system.removeAt location) root := by
  refine same_around_of_elsewhere rfl rfl fun place => ?_
  rw [lookup_remove (not_root_of_elsewhere elsewhere)]
  by_cases taken : location <+: place
  · rw [if_pos taken]
    refine Or.inr ⟨fun around => elsewhere ?_, fun target => ⟨plain place target taken, by simp⟩⟩
    rcases around with below | above
    · exact List.prefix_or_prefix_of_prefix below taken
    · exact Or.inr (taken.trans above)
  · exact Or.inl (if_neg taken)

end Elsewhere

end ImportImpact.FileSystem
