import ImportImpact.Proofs.Graph.ImporterIndex
import Mathlib.Data.Finset.Card

/-!
What an index keeps of a sequence of additions. It holds each target with its importers, both in
the order in which they were added first, so an addition that was made before leaves it as it is.
Two additions for different targets may change places: no answer tells which of them came first,
neither at once nor after more additions.
-/

namespace ImportImpact.ImporterIndex

open FirstOccurrence

def addEach (index : ImporterIndex) (additions : List (String × String)) : ImporterIndex :=
  additions.foldl (fun index addition => index.add addition.1 addition.2) index

def ofAdditions (additions : List (String × String)) : ImporterIndex := empty.addEach additions

def addedFor (target : String) (additions : List (String × String)) : List String :=
  (additions.filter fun addition => addition.2 = target).map Prod.fst

/-- The indexed targets, in the order in which they were named first. -/
def targets (index : ImporterIndex) : List String := index.entries.map Prod.fst

section Step

variable {index other : ImporterIndex} {importer target : String}

theorem targets_add (index : ImporterIndex) (importer target : String) :
    (index.add importer target).targets = withItem target index.targets := by
  obtain ⟨entries⟩ := index
  change (addTo importer target entries).map Prod.fst = withItem target (entries.map Prod.fst)
  induction entries with
  | nil => rfl
  | cons entry rest induction =>
      by_cases here : entry.1 = target
      · simp [addTo, withItem, here]
      · rw [addTo, if_neg here, List.map_cons, List.map_cons, induction]
        by_cases later : target ∈ rest.map Prod.fst
        · simp [withItem, later]
        · simp [withItem, later, Ne.symm here]

theorem contains_iff_target : index.contains target = true ↔ target ∈ index.targets := by
  rw [contains, List.lookup_isSome_iff, targets, List.mem_map]
  simp

theorem size_eq (index : ImporterIndex) : index.size = index.targets.length :=
  (List.length_map Prod.fst).symm

theorem size_add (index : ImporterIndex) (importer target : String) :
    (index.add importer target).size =
      if index.contains target then index.size else index.size + 1 := by
  rw [size_eq, size_eq, targets_add, withItem]
  by_cases known : target ∈ index.targets
  · rw [if_pos (by simpa using known), if_pos (contains_iff_target.2 known)]
  · rw [if_neg (by simpa using known), if_neg (mt contains_iff_target.1 known), List.length_append,
      List.length_singleton]

theorem add_recorded (recorded : importer ∈ index.importersOf target) :
    index.add importer target = index := by
  obtain ⟨entries⟩ := index
  change importer ∈ (entries.lookup target).getD [] at recorded
  refine congrArg ImporterIndex.mk ?_
  induction entries with
  | nil => simp at recorded
  | cons entry rest induction =>
      obtain ⟨key, importers⟩ := entry
      by_cases here : key = target
      · subst here
        have known : importer ∈ importers := by simpa using recorded
        simp [addTo, withItem, known]
      · have different : (target == key) = false := by simpa using Ne.symm here
        rw [List.lookup_cons, different] at recorded
        rw [addTo, if_neg here, induction recorded]

/-- All that can be asked of the two indexes is answered alike. -/
structure Alike (index other : ImporterIndex) : Prop where
  importers : ∀ target, index.importersOf target = other.importersOf target
  contains : ∀ target, index.contains target = other.contains target
  size : index.size = other.size

theorem Alike.add (alike : index.Alike other) (importer target : String) :
    (index.add importer target).Alike (other.add importer target) where
  importers asked := by
    rw [importers_of_add, importers_of_add, alike.importers, alike.importers]
  contains asked := by
    rw [contains_add, contains_add, alike.contains]
  size := by
    rw [size_add, size_add, alike.contains, alike.size]

theorem Alike.add_each (alike : index.Alike other) (additions : List (String × String)) :
    (index.addEach additions).Alike (other.addEach additions) := by
  induction additions generalizing index other with
  | nil => exact alike
  | cons addition rest induction => exact induction (alike.add addition.1 addition.2)

/-- Only the order of the targets can differ, which no answer shows. -/
theorem add_swapped (index : ImporterIndex) {first second : String × String}
    (apart : first.2 ≠ second.2) :
    ((index.add first.1 first.2).add second.1 second.2).Alike
      ((index.add second.1 second.2).add first.1 first.2) where
  importers asked := by
    simp only [importers_of_add, if_neg apart, if_neg apart.symm]
    by_cases here : asked = first.2
    · rw [here, if_neg apart, if_pos rfl, if_pos rfl]
    · rw [if_neg here, if_neg here]
  contains asked := by
    simp only [contains_add]
    exact Bool.or_left_comm ..
  size := by
    have other : (second.2 == first.2) = false := by simpa using apart.symm
    have one : (first.2 == second.2) = false := by simpa using apart
    simp only [size_add, contains_add, other, one, Bool.false_or]
    split <;> split <;> rfl

end Step

section Run

variable (additions : List (String × String))

theorem of_additions_append (more : List (String × String)) :
    ofAdditions (additions ++ more) = (ofAdditions additions).addEach more :=
  List.foldl_append

theorem of_additions_eq :
    ofAdditions additions =
      ofImports (additions.map fun addition => (addition.1, [addition.2])) := by
  rw [ofAdditions, addEach, ofImports, List.foldl_map]
  rfl

theorem importers_of_additions (target : String) :
    (ofAdditions additions).importersOf target = (addedFor target additions).eraseDups := by
  rw [of_additions_eq, importers_of_imports, addedFor, List.filter_map, List.map_map]
  congr 2
  apply List.filter_congr
  intro addition _
  simp [eq_comm]

theorem contains_of_additions (target : String) :
    (ofAdditions additions).contains target = true ↔
      ∃ importer, (importer, target) ∈ additions := by
  rw [of_additions_eq, contains_of_imports, List.any_map, List.any_eq_true]
  constructor
  · rintro ⟨⟨importer, named⟩, member, same⟩
    obtain rfl : target = named := by simpa using same
    exact ⟨importer, member⟩
  · rintro ⟨importer, member⟩
    exact ⟨(importer, target), member, by simp⟩

theorem targets_of_additions :
    (ofAdditions additions).targets = (additions.map Prod.snd).eraseDups := by
  induction additions using List.reverseRecOn with
  | nil => rfl
  | append_singleton before last induction =>
      rw [of_additions_append, addEach, List.foldl_cons, List.foldl_nil, targets_add, with_item_eq,
        induction, List.map_append, ← fresh_of_nothing_known, ← fresh_of_nothing_known,
        fresh_append]
      rfl

theorem size_of_additions :
    (ofAdditions additions).size = (additions.map Prod.snd).toFinset.card := by
  rw [size_eq, targets_of_additions, ← List.toFinset_card_of_nodup (erase_dups_nodup _)]
  congr 1
  ext target
  simp

/-- The index answers with first additions, whatever targets they are interleaved with and however
often they are repeated. -/
theorem index_records_additions :
    (∀ target,
      ListsFirst (addedFor target additions) (fun _ => True)
          ((ofAdditions additions).importersOf target) ∧
        ((ofAdditions additions).contains target = true ↔
          ∃ importer, (importer, target) ∈ additions)) ∧
      (ofAdditions additions).size = (additions.map Prod.snd).toFinset.card ∧
      (∀ first second : String × String, first.2 ≠ second.2 → ∀ after,
        (ofAdditions (additions ++ first :: second :: after)).Alike
          (ofAdditions (additions ++ second :: first :: after))) ∧
      ∀ addition ∈ additions, ∀ after,
        ofAdditions (additions ++ addition :: after) = ofAdditions (additions ++ after) := by
  refine ⟨fun target => ⟨?_, contains_of_additions additions target⟩,
    size_of_additions additions, ?_, ?_⟩
  · rw [importers_of_additions]
    exact erase_dups_lists_first _
  · intro first second apart after
    rw [of_additions_append, of_additions_append]
    exact (add_swapped _ apart).add_each after
  · intro addition member after
    have recorded : addition.1 ∈ (ofAdditions additions).importersOf addition.2 := by
      rw [importers_of_additions, List.mem_eraseDups, addedFor]
      exact List.mem_map_of_mem (List.mem_filter.2 ⟨member, by simp⟩)
    rw [of_additions_append, of_additions_append, addEach, List.foldl_cons, add_recorded recorded]
    rfl

end Run

/-- Two sheets use one file and one of them another; then the same is told again. -/
theorem interleaved_additions_recorded :
    (ofAdditions [("b.css", "a.css"), ("c.css", "d.css"), ("c.css", "a.css")]).size = 2 ∧
      "a.css" ≠ "e.css" ∧
      (ofAdditions ([("b.css", "a.css"), ("c.css", "d.css"), ("c.css", "a.css")] ++
          [("f.css", "a.css"), ("c.css", "e.css")])).Alike
        (ofAdditions ([("b.css", "a.css"), ("c.css", "d.css"), ("c.css", "a.css")] ++
          [("c.css", "e.css"), ("f.css", "a.css")])) ∧
      ("c.css", "d.css") ∈ [("b.css", "a.css"), ("c.css", "d.css"), ("c.css", "a.css")] ∧
      ofAdditions ([("b.css", "a.css"), ("c.css", "d.css"), ("c.css", "a.css")] ++
          [("c.css", "d.css"), ("f.css", "a.css")]) =
        ofAdditions ([("b.css", "a.css"), ("c.css", "d.css"), ("c.css", "a.css")] ++
          [("f.css", "a.css")]) := by
  obtain ⟨-, size, swapped, repeated⟩ :=
    index_records_additions [("b.css", "a.css"), ("c.css", "d.css"), ("c.css", "a.css")]
  have member : ("c.css", "d.css") ∈
      [("b.css", "a.css"), ("c.css", "d.css"), ("c.css", "a.css")] := by decide
  exact ⟨size, by decide, swapped ("f.css", "a.css") ("c.css", "e.css") (by decide) [], member,
    repeated _ member [("f.css", "a.css")]⟩

end ImportImpact.ImporterIndex
