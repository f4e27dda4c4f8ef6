import ImportImpact.Proofs.Analysis.Depth
import ImportImpact.Proofs.Graph.Chain
import Mathlib.Data.Finset.Sort
import Mathlib.Data.String.Basic

/-!
A crawl as an operation on sets of files: the changed ones together with those they affect. In a
repository whose scanned files have names in normal form the crawl of a union is the union of the
crawls, and a crawl that starts from all that another one gave is one crawl of both depths, if both
depths together have a text.
-/

namespace ImportImpact

open Outcome Written

/-- Every path of the set is one by which a repository file can be named. -/
def NormalPaths (paths : Finset String) : Prop := ∀ path ∈ paths, NormalForm path.toList

/-- The changed files and those affected by them. A set is crawled in increasing order. -/
def Repository.reach (repository : Repository) (changed : Finset String) (depth : Nat) :
    Outcome (Finset String) :=
  (repository.crawl (changed.sort (· ≤ ·)) depth).map fun crawl =>
    changed ∪ crawl.found.affected.toFinset

theorem sort_canonical {changed : Finset String} (normal : NormalPaths changed) :
    Canonical (changed.sort (· ≤ ·)) where
  distinct := changed.sort_nodup (· ≤ ·)
  named := by
    intro member
    exact ne_nil_of_normal (normal "" ((Finset.mem_sort _).1 member)) rfl
  normal := by
    intro path member
    exact repository_path_of_normal (normal path ((Finset.mem_sort _).1 member))

theorem sort_eq_nil_iff {changed : Finset String} : changed.sort (· ≤ ·) = [] ↔ changed = ∅ := by
  rw [← List.length_eq_zero_iff, Finset.length_sort, Finset.card_eq_zero]

namespace Repository

variable {repository : Repository} {changed : Finset String} {depth : Nat}

/-- Where the files can be scanned, a crawl reaches what is near in the index of their imports. -/
theorem reach_of_scan {scanned : List (String × List String)}
    (scan : repository.scannedImports = .ok scanned) (normal : NormalPaths changed)
    (short : Value.hasShortText depth = true) :
    ∃ found, repository.reach changed depth = .ok found ∧ ∀ path, path ∈ found ↔
      Within (.ofImports scanned) (changed.sort (· ≤ ·)) depth path := by
  obtain ⟨crawl, crawled, searched⟩ := crawl_of_scan scan (changed.sort (· ≤ ·)) short
  refine ⟨changed ∪ crawl.found.affected.toFinset, by rw [reach, crawled]; rfl, ?_⟩
  have affected_iff := searched.bounded.affected_iff
  rw [seeds_of_canonical (sort_canonical normal)] at affected_iff
  intro path
  rw [Finset.mem_union, List.mem_toFinset, affected_iff, Finset.mem_sort]
  constructor
  · intro either
    rcases either with member | ⟨-, length, -, bound, reached⟩
    · exact ⟨0, Nat.zero_le _, .seed ((Finset.mem_sort _).2 member)⟩
    · exact ⟨length, bound, reached⟩
  · intro near
    obtain ⟨length, bound, reached⟩ := near
    by_cases member : path ∈ changed
    · exact Or.inl member
    · refine Or.inr ⟨member, length, ?_, bound, reached⟩
      rcases Nat.eq_zero_or_pos length with rfl | positive
      · exact absurd ((Finset.mem_sort _).1 (reaches_zero_iff.1 reached)) member
      · exact positive

theorem reach_idle (idle : changed = ∅ ∨ depth = 0) (normal : NormalPaths changed) :
    repository.reach changed depth = .ok changed := by
  have nothing : seeds (changed.sort (· ≤ ·)) = [] ∨ depth = 0 := by
    rw [seeds_of_canonical (sort_canonical normal), sort_eq_nil_iff]
    exact idle
  rw [reach, crawl_idle nothing]
  change Except.ok (changed ∪ ∅) = Except.ok changed
  rw [Finset.union_empty]

def told (repository : Repository) (depth : Nat) : Outcome (List (String × List String)) := do
  let scanned ← repository.scannedImports
  (Value.int depth).demandWritable
  pure scanned

theorem told_ok_iff {scanned : List (String × List String)} :
    repository.told depth = .ok scanned ↔
      repository.scannedImports = .ok scanned ∧ Value.hasShortText depth = true := by
  rw [told, bind_ok_iff]
  constructor
  · rintro ⟨rows, scan, done⟩
    obtain ⟨_, said, done⟩ := bind_ok_iff.1 done
    rw [pure_ok_iff] at done
    exact ⟨done ▸ scan, Value.demand_writable_iff.1 said⟩
  · rintro ⟨scan, short⟩
    exact ⟨scanned, scan, bind_ok_iff.2 ⟨(), Value.demand_writable_iff.2 short, rfl⟩⟩

/-- Where the files cannot be scanned or the depth has no text, a crawl fails as soon as it has to
look at the files. -/
theorem reach_fault {fault : Fault} (failed : repository.told depth = .error fault)
    (some : changed ≠ ∅) (deep : depth ≠ 0) (normal : NormalPaths changed) :
    repository.reach changed depth = .error fault := by
  have busy : seeds (changed.sort (· ≤ ·)) ≠ [] := by
    rw [seeds_of_canonical (sort_canonical normal), Ne, sort_eq_nil_iff]
    exact some
  have crawled : repository.crawl (changed.sort (· ≤ ·)) depth = .error fault := by
    rw [crawl_busy busy deep]
    rcases bind_error_iff.1 failed with unscanned | ⟨scanned, scan, failed⟩
    · rw [unscanned]
      rfl
    · rcases bind_error_iff.1 failed with unsaid | ⟨_, -, done⟩
      · rw [scan]
        exact bind_error_iff.2 (Or.inr ⟨scanned, rfl, bind_error_iff.2 (Or.inl unsaid)⟩)
      · cases done
  rw [reach, crawled]
  rfl

theorem normal_of_within {scanned : List (String × List String)}
    (scan : repository.scannedImports = .ok scanned)
    (normalScans : ∀ path, repository.Scans path → NormalForm path.toList)
    (normal : NormalPaths changed) {path : String}
    (near : Within (.ofImports scanned) (changed.sort (· ≤ ·)) depth path) :
    NormalForm path.toList := by
  obtain ⟨length, -, reached⟩ := near
  cases reached with
  | seed member => exact normal path ((Finset.mem_sort _).1 member)
  | step _ imports => exact normalScans path ((mem_importers_iff scan _ _).1 imports).1

theorem normal_union {others : Finset String} (normal : NormalPaths changed)
    (normalOthers : NormalPaths others) : NormalPaths (changed ∪ others) := by
  intro path member
  rcases Finset.mem_union.1 member with left | right
  · exact normal path left
  · exact normalOthers path right

theorem reach_union (others : Finset String) (normal : NormalPaths changed)
    (normalOthers : NormalPaths others) :
    repository.reach (changed ∪ others) depth = (do
      let first ← repository.reach changed depth
      let second ← repository.reach others depth
      pure (first ∪ second)) := by
  have normalBoth := normal_union normal normalOthers
  cases outcome : repository.told depth with
  | ok scanned =>
      obtain ⟨scan, short⟩ := told_ok_iff.1 outcome
      obtain ⟨both, bothFound, both_iff⟩ := reach_of_scan scan normalBoth short
      obtain ⟨first, firstFound, first_iff⟩ := reach_of_scan scan normal short
      obtain ⟨second, secondFound, second_iff⟩ := reach_of_scan scan normalOthers short
      have joined : both = first ∪ second := by
        ext path
        rw [Finset.mem_union, both_iff, first_iff, second_iff]
        apply within_either_iff
        intro seed
        rw [Finset.mem_sort, Finset.mem_sort, Finset.mem_sort, Finset.mem_union]
      rw [bothFound, firstFound, secondFound, joined]
      rfl
  | error fault =>
      by_cases shallow : depth = 0
      · rw [reach_idle (Or.inr shallow) normalBoth, reach_idle (Or.inr shallow) normal,
          reach_idle (Or.inr shallow) normalOthers]
        rfl
      · by_cases none : changed = ∅
        · subst none
          rw [reach_idle (Or.inl rfl) normal, Finset.empty_union]
          cases repository.reach others depth with
          | error other => rfl
          | ok second =>
              change Except.ok second = Except.ok (∅ ∪ second)
              rw [Finset.empty_union]
        · have busy : changed ∪ others ≠ ∅ := by
            intro empty
            exact none (Finset.union_eq_empty.1 empty).1
          rw [reach_fault outcome busy shallow normalBoth, reach_fault outcome none shallow normal]
          rfl

theorem reach_reach (normalScans : ∀ path, repository.Scans path → NormalForm path.toList)
    (normal : NormalPaths changed) {more : Nat}
    (short : Value.hasShortText (depth + more : Nat) = true) :
    (repository.reach changed depth >>= fun near => repository.reach near more) =
      repository.reach changed (depth + more) := by
  have here := Value.short_text_of_le (Nat.le_add_right depth more) short
  have there := Value.short_text_of_le (Nat.le_add_left more depth) short
  cases scan : repository.scannedImports with
  | ok scanned =>
      obtain ⟨near, nearFound, near_iff⟩ := reach_of_scan scan normal here
      have normalNear : NormalPaths near := fun path member =>
        normal_of_within scan normalScans normal ((near_iff path).1 member)
      obtain ⟨far, farFound, far_iff⟩ := reach_of_scan scan normalNear there
      obtain ⟨whole, wholeFound, whole_iff⟩ := reach_of_scan scan normal short
      have same : far = whole := by
        ext path
        rw [far_iff, whole_iff]
        apply within_add_iff
        intro other
        rw [Finset.mem_sort, near_iff]
      rw [nearFound, wholeFound, ← same]
      exact farFound
  | error fault =>
      by_cases idle : changed = ∅ ∨ depth = 0
      · rw [reach_idle idle normal]
        change repository.reach changed more = repository.reach changed (depth + more)
        rcases idle with none | shallow
        · rw [reach_idle (Or.inl none) normal, reach_idle (Or.inl none) normal]
        · rw [shallow, Nat.zero_add]
      · obtain ⟨some, deep⟩ := not_or.1 idle
        have failed (limit : Nat) : repository.told limit = .error fault := by
          rw [told, scan]
          rfl
        rw [reach_fault (failed _) some deep normal, reach_fault (failed _) some (by omega) normal]
        rfl

end Repository

/-- Two change sets crawled together give what they give apart, and going on from all that a crawl
gave is one deeper crawl, if its depth has a text; where the files cannot be scanned, both sides
fail alike. -/
theorem reach_is_additive (repository : Repository)
    (normalScans : ∀ path, repository.Scans path → NormalForm path.toList)
    (changed others : Finset String) (normal : NormalPaths changed)
    (normalOthers : NormalPaths others) (depth more : Nat) :
    repository.reach (changed ∪ others) depth = (do
        let first ← repository.reach changed depth
        let second ← repository.reach others depth
        pure (first ∪ second)) ∧
      (Value.hasShortText (depth + more : Nat) = true →
        (repository.reach changed depth >>= fun near => repository.reach near more) =
          repository.reach changed (depth + more)) :=
  ⟨Repository.reach_union others normal normalOthers, Repository.reach_reach normalScans normal⟩

namespace PairOfSheets

theorem sheet_normal {path : String} (member : path ∈ ["a.css", "b.css"]) :
    NormalForm path.toList := by
  have kept : repositoryPath path = path ∧ path ≠ "" := by
    rw [List.mem_pair] at member
    rcases member with rfl | rfl
    · decide
    · decide
  exact kept.1 ▸ (repository_path_normal path).resolve_left (kept.1.symm ▸ kept.2)

theorem sheet_paths {paths : Finset String} (inside : paths ⊆ {"a.css", "b.css"}) :
    NormalPaths paths := by
  intro path member
  apply sheet_normal
  simpa using inside member

theorem used_reach : repository.reach {"a.css"} 1 = .ok {"a.css", "b.css"} := by
  have busy : seeds ["a.css"] ≠ [] := by decide
  rw [Repository.reach, Finset.sort_singleton, crawl_short busy Nat.one_ne_zero (by decide),
    scanned]
  rfl

/-- Both sheets are reached from the used one, so they are all that two steps from it reach. -/
theorem pair_reach_is_additive :
    (∀ path, repository.Scans path → NormalForm path.toList) ∧
      NormalPaths {"a.css"} ∧ NormalPaths {"b.css"} ∧ Value.hasShortText (1 + 1 : Nat) = true ∧
      repository.reach ({"a.css"} ∪ {"b.css"}) 1 = (do
        let first ← repository.reach {"a.css"} 1
        let second ← repository.reach {"b.css"} 1
        pure (first ∪ second)) ∧
      repository.reach {"a.css", "b.css"} 1 = repository.reach {"a.css"} (1 + 1) := by
  have normalScans : ∀ path, repository.Scans path → NormalForm path.toList := by
    intro path scans
    exact sheet_normal ((Repository.scans_iff scanned path).1 scans)
  have used : NormalPaths {"a.css"} := sheet_paths (by decide)
  have using_ : NormalPaths {"b.css"} := sheet_paths (by decide)
  obtain ⟨union, again⟩ := reach_is_additive repository normalScans {"a.css"} {"b.css"} used
    using_ 1 1
  have short : Value.hasShortText (1 + 1 : Nat) = true := by decide
  have twice := again short
  rw [used_reach] at twice
  exact ⟨normalScans, used, using_, short, union, twice⟩

theorem using_reach : repository.reach {"b.css"} 1 = .ok {"b.css"} := by
  have busy : seeds ["b.css"] ≠ [] := by decide
  rw [Repository.reach, Finset.sort_singleton, crawl_short busy Nat.one_ne_zero (by decide),
    scanned]
  rfl

theorem both_reach : repository.reach {"a.css", "b.css"} 1 = .ok {"a.css", "b.css"} := by
  have union : repository.reach ({"a.css"} ∪ {"b.css"}) 1 = _ :=
    Repository.reach_union {"b.css"} (sheet_paths (by decide)) (sheet_paths (by decide))
  rw [used_reach, using_reach] at union
  have same : ({"a.css"} ∪ {"b.css"} : Finset String) = {"a.css", "b.css"} := by decide
  have again : ({"a.css", "b.css"} ∪ {"b.css"} : Finset String) = {"a.css", "b.css"} := by decide
  rw [same] at union
  exact union.trans (congrArg Except.ok again)

theorem deep_reach {depth : Nat} (deep : 3 ≤ depth) (short : Value.hasShortText depth = true) :
    repository.reach {"a.css"} depth = .ok {"a.css", "b.css"} := by
  have busy : seeds ["a.css"] ≠ [] := by decide
  have settled : Neighbourhood.search (.ofImports [("a.css", []), ("b.css", ["a.css"])])
      (seeds ["a.css"]) depth = _ := scanned_search_settled scanned (by decide : 2 < 3) deep
  rw [Repository.reach, Finset.sort_singleton, crawl_short busy (by omega) short, scanned]
  change Except.ok (_ ∪ (Neighbourhood.search _ _ depth).affected.toFinset) = _
  rw [settled]
  rfl

/-- The last depth that has a text, and one step more. From the sheet that is used both sheets are
reached and nothing beyond them, but not at the whole depth. -/
theorem one_step_beyond_longest_depth :
    (repository.reach {"a.css"} (longDepth - 1) >>= fun near => repository.reach near 1) =
        .ok {"a.css", "b.css"} ∧
      repository.reach {"a.css"} (longDepth - 1 + 1) = .error .numberTooLong := by
  have large : 10 ≤ longDepth := Nat.le_self_pow (by decide) 10
  have short : Value.hasShortText (longDepth - 1 : Nat) = true := by
    rw [Value.short_text_iff, Int.natAbs_natCast]
    exact Nat.sub_one_lt_of_lt large
  constructor
  · rw [deep_reach (by omega) short]
    exact both_reach
  · rw [Nat.sub_one_add_one_eq_of_pos (by omega), Repository.reach, Finset.sort_singleton,
      crawl_at_long_depth]
    rfl

end PairOfSheets

end ImportImpact
