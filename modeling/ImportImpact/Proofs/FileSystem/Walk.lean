import ImportImpact.FileSystem.Walk
import ImportImpact.Proofs.Path.Below

/-!
A walk goes down: every path it gives is the directory it started from, followed by names of
entries. Of each entry it looks at, the directory it lies in has been located before.
-/

namespace ImportImpact

@[simp] theorem Path.parent_child (path : Path) (name : String) :
    (path.child name).parent = path := by
  simp [Path.parent, Path.child]

@[simp] theorem Path.last_name_child (path : Path) (name : String) :
    (path.child name).lastName = name := by
  simp [Path.lastName, Path.child]

theorem Path.child_inj {path other : Path} {name last : String} :
    path.child name = other.child last ↔ path = other ∧ name = last := by
  constructor
  · intro same
    exact ⟨by simpa using congrArg Path.parent same, by simpa using congrArg Path.lastName same⟩
  · rintro ⟨rfl, rfl⟩
    rfl

namespace FileSystem

def Shown (system : FileSystem) (rules : WalkRules) (directory : Location) (name : String) : Prop :=
  rules.followLinks = true ∨ ∀ target, system.lookup? (directory ++ [name]) ≠ some (.link target)

theorem mem_visible_iff {system : FileSystem} {rules : WalkRules} {folder path : Path}
    {location : Location} : path ∈ system.visible rules folder location ↔
      (∃ listed, system.locate folder = .ok listed) ∧ ∃ name ∈ system.names location,
        system.Shown rules location name ∧ path = folder.child name := by
  unfold visible
  cases system.locate folder with
  | error refusal => simp
  | ok listed =>
      simp only [List.mem_map, List.mem_filter, and_assoc, Except.ok.injEq, exists_eq', true_and]
      refine exists_congr fun name => and_congr_right fun _ => and_congr ?_ eq_comm
      rw [Bool.or_eq_true]
      apply or_congr_right
      split
      next target there => simp [there]
      next other => simpa using other

/-- The path is the directory with names of entries added. -/
def Descends (directory path : Path) : Prop :=
  path.anchor = directory.anchor ∧ ∃ names : List String,
    path.names = directory.names ++ names ∧ ∀ name ∈ names, isName name = true

theorem is_name_iff {name : String} :
    isName name = true ↔ Path.Writable name ∧ name ≠ ".." := by
  have up : name.toList = Segment.up ↔ name = ".." := by
    rw [← String.toList_inj]
    rfl
  rw [isName, Bool.not_eq_true', Bool.or_eq_false_iff, Bool.or_eq_false_iff,
    decide_eq_false_iff_not, up, Path.Writable]
  simp only [List.contains_eq_mem, decide_eq_false_iff_not]
  constructor
  · intro given
    exact ⟨⟨given.1.1, given.2⟩, given.1.2⟩
  · intro given
    exact ⟨⟨given.1.1, given.2⟩, given.1.2⟩

theorem writable_of_name {name : String} (given : isName name = true) : Path.Writable name :=
  (is_name_iff.1 given).1

theorem name_of_mem_names {system : FileSystem} {directory : Location} {name : String}
    (member : name ∈ system.names directory) : isName name = true := by
  have kept := List.mem_eraseDups.1 (List.mem_mergeSort.1 member)
  exact (List.mem_filter.1 kept).2

theorem descends_refl (directory : Path) : Descends directory directory :=
  ⟨rfl, [], by simp, by simp⟩

theorem Descends.trans {directory between path : Path} (first : Descends directory between)
    (second : Descends between path) : Descends directory path := by
  obtain ⟨anchor, names, shape, named⟩ := first
  obtain ⟨anchorToo, others, longer, namedToo⟩ := second
  refine ⟨anchorToo.trans anchor, names ++ others, ?_, fun name member => ?_⟩
  · rw [longer, shape, List.append_assoc]
  · exact (List.mem_append.1 member).elim (named name) (namedToo name)

theorem parent_of_visible {system : FileSystem} {rules : WalkRules} {folder path : Path}
    {location : Location} (member : path ∈ system.visible rules folder location) :
    path.parent = folder := by
  obtain ⟨-, name, -, -, rfl⟩ := mem_visible_iff.1 member
  exact Path.parent_child folder name

theorem descends_of_visible {system : FileSystem} {rules : WalkRules} {directory path : Path}
    (below : Descends directory path) (location : Location) :
    ∀ child ∈ system.visible rules path location, Descends directory child := by
  intro child member
  obtain ⟨-, name, listed, -, rfl⟩ := mem_visible_iff.1 member
  obtain ⟨anchor, names, shape, named⟩ := below
  refine ⟨anchor, names ++ [name], ?_, ?_⟩
  · simp [Path.child, shape]
  · intro other inside
    rcases List.mem_append.1 inside with before | last
    · exact named other before
    · rw [List.mem_singleton.1 last]
      exact name_of_mem_names listed

end FileSystem

end ImportImpact
