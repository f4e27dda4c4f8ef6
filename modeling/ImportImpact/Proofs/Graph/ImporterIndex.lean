import ImportImpact.Graph.ImporterIndex
import ImportImpact.Proofs.FirstOccurrence

/-!
What an index answers. An added importer comes last among those of its target unless it is there
already, and other targets keep theirs; so the importers of a target are the files that import it,
each once, in the order in which the files were indexed.
-/

namespace ImportImpact.ImporterIndex

open FirstOccurrence

theorem with_item_eq (item : String) (items : List String) :
    withItem item items = items ++ fresh items [item] := by
  by_cases member : item ∈ items
  · rw [fresh_cons_of_known member]
    simp [withItem, member, fresh]
  · rw [fresh_cons_of_new member]
    simp [withItem, member, fresh]

theorem lookup_add_to (importer target other : String)
    (entries : List (String × List String)) :
    (addTo importer target entries).lookup other =
      if other = target then some (withItem importer ((entries.lookup target).getD []))
      else entries.lookup other := by
  induction entries with
  | nil =>
      by_cases same : other = target
      · simp [addTo, same, withItem]
      · have different : (other == target) = false := by simpa using same
        simp [addTo, List.lookup_cons, same, different]
  | cons entry rest induction =>
      obtain ⟨key, importers⟩ := entry
      by_cases here : key = target
      · subst here
        by_cases same : other = key
        · simp [addTo, same]
        · have different : (other == key) = false := by simpa using same
          simp [addTo, List.lookup_cons, same, different]
      · by_cases same : other = key
        · subst same
          simp [addTo, here]
        · have different : (other == key) = false := by simpa using same
          have apart : (target == key) = false := by simpa using Ne.symm here
          simp only [addTo, here, if_false, List.lookup_cons, different, apart]
          exact induction

theorem importers_of_add (index : ImporterIndex) (importer target other : String) :
    (index.add importer target).importersOf other =
      if other = target then withItem importer (index.importersOf target)
      else index.importersOf other := by
  rw [importersOf, add, lookup_add_to]
  split <;> rfl

theorem contains_add (index : ImporterIndex) (importer target other : String) :
    (index.add importer target).contains other =
      (other == target || index.contains other) := by
  rw [contains, add, lookup_add_to]
  by_cases same : other = target
  · simp [same]
  · simp [same, contains]

theorem with_item_twice (item : String) (items : List String) :
    withItem item (withItem item items) = withItem item items := by
  by_cases member : item ∈ items
  · simp [withItem, member]
  · simp [withItem, member]

theorem importers_of_add_all (index : ImporterIndex) (importer : String) (targets : List String)
    (target : String) :
    (targets.foldl (fun index target => index.add importer target) index).importersOf target =
      if target ∈ targets then withItem importer (index.importersOf target)
      else index.importersOf target := by
  induction targets generalizing index with
  | nil => simp
  | cons first rest induction =>
      rw [List.foldl_cons, induction, importers_of_add]
      by_cases here : target = first
      · subst here
        by_cases later : target ∈ rest
        · simp [later, with_item_twice]
        · simp [later]
      · simp [here]

theorem importers_of_fold (index : ImporterIndex) (files : List (String × List String))
    (target : String) :
    (files.foldl (fun index file =>
        file.2.foldl (fun index target => index.add file.1 target) index) index).importersOf
          target =
      let importers := (files.filter fun file => file.2.contains target).map (·.1)
      index.importersOf target ++ fresh (index.importersOf target) importers := by
  induction files generalizing index with
  | nil => simp [fresh]
  | cons file rest induction =>
      rw [List.foldl_cons, induction, importers_of_add_all]
      by_cases imports : target ∈ file.2
      · have cut := fresh_append (index.importersOf target) [file.1]
          ((rest.filter fun file => file.2.contains target).map (·.1))
        rw [if_pos imports, with_item_eq, List.filter_cons_of_pos (by simpa using imports)]
        simp only [List.map_cons, List.append_assoc]
        exact congrArg _ cut.symm
      · rw [if_neg imports, List.filter_cons_of_neg (by simpa using imports)]

theorem importers_of_imports (files : List (String × List String)) (target : String) :
    (ofImports files).importersOf target =
      ((files.filter fun file => file.2.contains target).map (·.1)).eraseDups := by
  rw [ofImports, importers_of_fold, ← fresh_of_nothing_known]
  rfl

theorem contains_add_all (index : ImporterIndex) (importer : String) (targets : List String)
    (target : String) :
    (targets.foldl (fun index target => index.add importer target) index).contains target =
      (targets.contains target || index.contains target) := by
  induction targets generalizing index with
  | nil => simp
  | cons first rest induction =>
      rw [List.foldl_cons, induction, contains_add, List.contains_cons]
      cases rest.contains target <;> simp

theorem contains_fold (index : ImporterIndex) (files : List (String × List String))
    (target : String) :
    (files.foldl (fun index file =>
        file.2.foldl (fun index target => index.add file.1 target) index) index).contains target =
      ((files.any fun file => file.2.contains target) || index.contains target) := by
  induction files generalizing index with
  | nil => simp
  | cons file rest induction =>
      rw [List.foldl_cons, induction, contains_add_all, List.any_cons]
      cases file.2.contains target <;> simp

theorem contains_of_imports (files : List (String × List String)) (target : String) :
    (ofImports files).contains target = files.any fun file => file.2.contains target := by
  rw [ofImports, contains_fold]
  exact Bool.or_false _

theorem contains_iff_importers (files : List (String × List String)) (target : String) :
    (ofImports files).contains target = true ↔ (ofImports files).importersOf target ≠ [] := by
  rw [contains_of_imports, List.any_eq_true, importers_of_imports]
  constructor
  · intro given
    obtain ⟨file, member, imports⟩ := given
    have importer : file.1 ∈ (files.filter fun file => file.2.contains target).map (·.1) :=
      List.mem_map_of_mem (List.mem_filter.2 ⟨member, imports⟩)
    exact List.ne_nil_of_mem (List.mem_eraseDups.2 importer)
  · intro some
    obtain ⟨importer, listed⟩ := List.exists_mem_of_ne_nil _ some
    obtain ⟨file, kept, -⟩ := List.mem_map.1 (List.mem_eraseDups.1 listed)
    exact ⟨file, List.mem_filter.1 kept⟩

/-- Leaving out targets changes nothing for those that stay. -/
theorem importers_of_kept (keep : String → Bool) {target : String} (kept : keep target = true)
    (files : List (String × List String)) :
    (ofImports (files.map fun file => (file.1, file.2.filter keep))).importersOf target =
      (ofImports files).importersOf target := by
  have same : ((fun file : String × List String => file.2.contains target) ∘
      fun file : String × List String => (file.1, file.2.filter keep)) =
        fun file => file.2.contains target := by
    funext file
    rw [Function.comp_apply, Bool.eq_iff_iff, List.contains_iff_mem, List.contains_iff_mem,
      List.mem_filter]
    exact and_iff_left kept
  rw [importers_of_imports, importers_of_imports, List.filter_map, List.map_map, same]
  rfl

end ImportImpact.ImporterIndex
