import ImportImpact.Platform.Ordinary
import ImportImpact.Proofs.Analysis.Repository
import ImportImpact.Proofs.FileSystem.Lookup
import ImportImpact.Proofs.Graph.Search
import ImportImpact.Proofs.Outcome
import ImportImpact.Proofs.Value.Within

/-!
The crawl of a repository. Once its files are scanned it is the search in the index of their
imports; it finds exactly the bounded neighbourhood of the changed files. Only a depth that is too
long to be written keeps it from telling so.
-/

namespace ImportImpact

open Neighbourhood

/-- The unchanged files with a chain of at most so many imports to a changed one: each once, with
the length of its shortest chain, nearer files first. -/
structure BoundedNeighbourhood (index : ImporterIndex) (changed : List String) (depth : Nat)
    (found : Neighbourhood) : Prop where
  affected_iff : ∀ path, path ∈ found.affected ↔
    path ∉ changed ∧ ∃ length, 1 ≤ length ∧ length ≤ depth ∧ Reaches index changed length path
  depth_defined : ∀ path, (found.reached.lookup path).isSome = true ↔ path ∈ found.affected
  depth_shortest : ∀ path length, found.reached.lookup path = some length →
    Distance index changed length path
  distinct : found.affected.Nodup
  ordered : (found.reached.map Prod.snd).Pairwise (· ≤ ·)

theorem mem_of_lookup {found : Neighbourhood} {path : String} {depth : Nat}
    (given : found.reached.lookup path = some depth) : (path, depth) ∈ found.reached := by
  obtain ⟨before, after, shape, -⟩ := List.lookup_eq_some_iff.1 given
  simp [shape]

theorem lookup_defined_iff {found : Neighbourhood} {path : String} :
    (found.reached.lookup path).isSome = true ↔ path ∈ found.affected := by
  rw [List.lookup_isSome_iff]
  simp [affected]

theorem lookup_reached_iff {index : ImporterIndex} {changed : List String} {rounds : Nat}
    {found : Neighbourhood} (holds : Exact index changed rounds found) {path : String}
    {depth : Nat} :
    found.reached.lookup path = some depth ↔ (path, depth) ∈ found.reached := by
  constructor
  · exact mem_of_lookup
  · intro member
    have known : path ∈ found.affected := mem_affected_iff.2 ⟨depth, member⟩
    obtain ⟨other, given⟩ := Option.isSome_iff_exists.1 (lookup_defined_iff.2 known)
    have first := ((holds.reached_iff path depth).1 member).2.2
    have second := ((holds.reached_iff path other).1 (mem_of_lookup given)).2.2
    rw [given, distance_unique second first]

theorem bounded_of_exact {index : ImporterIndex} {changed : List String} {depth : Nat}
    {found : Neighbourhood} (holds : Exact index changed depth found) :
    BoundedNeighbourhood index changed depth found where
  affected_iff := by
    intro path
    rw [mem_affected_iff]
    constructor
    · intro given
      rcases given with ⟨length, reached⟩
      obtain ⟨absent, bound, distance⟩ := (holds.reached_iff path length).1 reached
      refine ⟨absent, length, ?_, bound, distance.reached⟩
      rcases Nat.eq_zero_or_pos length with rfl | positive
      · exact absurd (distance_zero_iff.1 distance) absent
      · exact positive
    · intro given
      rcases given with ⟨absent, length, -, bound, reached⟩
      obtain ⟨shortest, nearer, distance⟩ := exists_distance reached
      exact ⟨shortest, (holds.reached_iff path shortest).2 ⟨absent, by omega, distance⟩⟩
  depth_defined _ := lookup_defined_iff
  depth_shortest path length given :=
    ((holds.reached_iff path length).1 (mem_of_lookup given)).2.2
  distinct := holds.distinct
  ordered := List.pairwise_map.2 holds.ordered

/-- The crawl found what the search in this index finds. -/
structure Crawl.Searched (crawl : Crawl) (index : ImporterIndex) (changed : List String)
    (depth : Nat) : Prop where
  reached_eq : crawl.found.reached = (search index (seeds changed) depth).reached
  edges_eq : crawl.found.edges = (search index (seeds changed) depth).edges

namespace Crawl.Searched

variable {crawl : Crawl} {index : ImporterIndex} {changed : List String} {depth : Nat}

theorem affected_eq (searched : crawl.Searched index changed depth) :
    crawl.found.affected = (search index (seeds changed) depth).affected :=
  congrArg (List.map Prod.fst) searched.reached_eq

theorem bounded (searched : crawl.Searched index changed depth) :
    BoundedNeighbourhood index (seeds changed) depth crawl.found := by
  have bounded := bounded_of_exact (search_exact index (seeds changed) depth)
  constructor
  · rw [searched.affected_eq]
    exact bounded.affected_iff
  · rw [searched.affected_eq, searched.reached_eq]
    exact bounded.depth_defined
  · rw [searched.reached_eq]
    exact bounded.depth_shortest
  · rw [searched.affected_eq]
    exact bounded.distinct
  · rw [searched.reached_eq]
    exact bounded.ordered

theorem reached_iff (searched : crawl.Searched index changed depth) (path : String)
    (length : Nat) :
    (path, length) ∈ crawl.found.reached ↔ path ∉ seeds changed ∧ length ≤ depth ∧
      Distance index (seeds changed) length path := by
  rw [searched.reached_eq]
  exact (search_exact index (seeds changed) depth).reached_iff path length

theorem edge_iff (searched : crawl.Searched index changed depth) (edge : Edge) :
    edge ∈ crawl.found.edges ↔
      edge.source ∉ seeds changed ∧ edge.source ∈ index.importersOf edge.target ∧
        ∃ length < depth, Distance index (seeds changed) length edge.target := by
  rw [searched.edges_eq]
  exact (search_exact index (seeds changed) depth).edge_iff edge

/-- The files that are linked to their importers: the changed ones, and the affected ones above
the depth limit. -/
theorem linked_iff (searched : crawl.Searched index changed depth) (deep : 0 < depth)
    (path : String) :
    (∃ length < depth, Distance index (seeds changed) length path) ↔
      path ∈ seeds changed ∨ ∃ length < depth, crawl.found.reached.lookup path = some length := by
  constructor
  · intro given
    rcases given with ⟨length, bound, distance⟩
    by_cases member : path ∈ seeds changed
    · exact Or.inl member
    · have reached := (searched.reached_iff path length).2 ⟨member, by omega, distance⟩
      rw [searched.reached_eq] at reached ⊢
      have holds := search_exact index (seeds changed) depth
      exact Or.inr ⟨length, bound, (lookup_reached_iff holds).2 reached⟩
  · intro either
    rcases either with member | ⟨length, bound, given⟩
    · exact ⟨0, deep, distance_zero_iff.2 member⟩
    · obtain ⟨-, -, distance⟩ := (searched.reached_iff path length).1 (mem_of_lookup given)
      exact ⟨length, bound, distance⟩

end Crawl.Searched

theorem nothing_searched {changed : List String} {depth : Nat}
    (idle : seeds changed = [] ∨ depth = 0) (index : ImporterIndex) :
    Crawl.nothing.Searched index changed depth := by
  rcases idle with none | rfl
  · have search_eq : search index (seeds changed) depth = start [] := by
      rw [none, search, extend_of_empty_frontier rfl]
    exact ⟨congrArg Neighbourhood.reached search_eq.symm,
      congrArg Neighbourhood.edges search_eq.symm⟩
  · exact ⟨rfl, rfl⟩

theorem crawl_idle {changed : List String} {depth : Nat}
    (idle : seeds changed = [] ∨ depth = 0) (repository : Repository) :
    repository.crawl changed depth = .ok .nothing := by
  rw [Repository.crawl, if_pos (by simpa using idle)]

theorem crawl_busy {changed : List String} {depth : Nat} (some : seeds changed ≠ [])
    (deep : depth ≠ 0) (repository : Repository) :
    repository.crawl changed depth = (do
      let scanned ← repository.scannedImports
      (Value.int depth).demandWritable
      pure ⟨search (.ofImports scanned) (seeds changed) depth, scanned.length⟩) := by
  rw [Repository.crawl, if_neg (by simp [some, deep])]

section Depth

variable {changed : List String} {depth : Nat}

theorem crawl_short (some : seeds changed ≠ []) (deep : depth ≠ 0)
    (short : Value.hasShortText depth = true) (repository : Repository) :
    repository.crawl changed depth = repository.scannedImports.map fun scanned =>
      ⟨search (.ofImports scanned) (seeds changed) depth, scanned.length⟩ := by
  have told : (Value.int depth).demandWritable = .ok () := Value.demand_writable_iff.2 short
  rw [crawl_busy some deep, told]
  cases repository.scannedImports <;> rfl

theorem short_of_zero : Value.hasShortText (0 : Nat) = true := by decide

theorem deep_of_long (long : Value.hasShortText depth = false) : depth ≠ 0 := by
  rintro rfl
  rw [short_of_zero] at long
  cases long

/-- Where there is anything to start from, the crawl cannot tell of a depth that is too long. -/
theorem crawl_long (some : seeds changed ≠ []) (long : Value.hasShortText depth = false)
    {repository : Repository} {scanned : List (String × List String)}
    (scan : repository.scannedImports = .ok scanned) :
    repository.crawl changed depth = .error .numberTooLong := by
  have untold : (Value.int depth).demandWritable = .error .numberTooLong :=
    Value.demand_writable_error long
  rw [crawl_busy some (deep_of_long long), scan, untold]
  rfl

theorem crawl_of_scan {repository : Repository} {scanned : List (String × List String)}
    (scan : repository.scannedImports = .ok scanned) (changed : List String)
    (short : Value.hasShortText depth = true) :
    ∃ crawl, repository.crawl changed depth = .ok crawl ∧
      crawl.Searched (.ofImports scanned) changed depth := by
  by_cases idle : seeds changed = [] ∨ depth = 0
  · exact ⟨.nothing, crawl_idle idle repository, nothing_searched idle _⟩
  · obtain ⟨some, deep⟩ := not_or.1 idle
    rw [crawl_short some deep short, scan]
    exact ⟨_, rfl, rfl, rfl⟩

end Depth

/-- A crawl that did not fail is a search in the index of all scanned files, if it had to look at
files at all. -/
theorem exists_index_of_crawl {repository : Repository} {changed : List String} {depth : Nat}
    {crawl : Crawl} (done : repository.crawl changed depth = .ok crawl) :
    ∃ scanned, crawl.Searched (.ofImports scanned) changed depth ∧
      (seeds changed ≠ [] → depth ≠ 0 → repository.scannedImports = .ok scanned) := by
  by_cases idle : seeds changed = [] ∨ depth = 0
  · rw [crawl_idle idle] at done
    cases done
    refine ⟨[], nothing_searched idle _, fun some deep => ?_⟩
    exact absurd idle (not_or.2 ⟨some, deep⟩)
  · obtain ⟨some, deep⟩ := not_or.1 idle
    rw [crawl_busy some deep] at done
    obtain ⟨scanned, scan, done⟩ := Outcome.bind_ok_iff.1 done
    obtain ⟨-, -, done⟩ := Outcome.bind_ok_iff.1 done
    cases done
    exact ⟨scanned, ⟨rfl, rfl⟩, fun _ _ => scan⟩

/-- Whatever circles the imports run in, and whether or not a chain leads through changed files,
the search in an index finds the bounded neighbourhood of the changed files; so does the crawl of
a repository whose files give this index, if the depth can be written. -/
theorem crawl_finds_bounded_neighbourhood (index : ImporterIndex) (changed : List String)
    (depth : Nat) :
    BoundedNeighbourhood index (seeds changed) depth (search index (seeds changed) depth) ∧
      ∀ (repository : Repository) (scanned : List (String × List String)),
        repository.scannedImports = .ok scanned → index = .ofImports scanned →
          (Value.hasShortText depth = true →
            ∃ crawl, repository.crawl changed depth = .ok crawl ∧
              BoundedNeighbourhood index (seeds changed) depth crawl.found) ∧
          (Value.hasShortText depth = false → seeds changed ≠ [] →
            repository.crawl changed depth = .error .numberTooLong) := by
  refine ⟨bounded_of_exact (search_exact index (seeds changed) depth), ?_⟩
  intro repository scanned scan same
  subst same
  refine ⟨fun short => ?_, fun long some => crawl_long some long scan⟩
  obtain ⟨crawl, done, searched⟩ := crawl_of_scan scan changed short
  exact ⟨crawl, done, searched.bounded⟩

def longDepth : Nat := 10 ^ Value.mostDigits

theorem long_depth_long : Value.hasShortText longDepth = false :=
  Value.long_text_iff.2 (Nat.le_of_eq (Int.natAbs_natCast longDepth).symm)

namespace EmptyDirectory

def files : FileSystem := ⟨[], [], .ordinary⟩

def repository : Repository where
  system := files
  root := ⟨.root, []⟩
  settings := Settings.initial.set .sourceRoots (.list [])
  extractor := ⟨[], [], Form.scriptForms, Form.styleForms⟩

theorem searched : repository.searchRoots = .ok [⟨.root, []⟩] := by
  change (files.isDirectory ⟨.root, []⟩ >>= fun there =>
    if there then pure [⟨.root, []⟩] else pure [] : Outcome (List Path)) = _
  rw [FileSystem.root_is_directory]
  rfl

theorem scanned : repository.scannedImports = .ok [] := by
  have nothing : files.names [] = [] := FileSystem.names_of_written (by decide) (by decide)
  have walked (rules : FileSystem.WalkRules) : files.walk rules ⟨.root, []⟩ = .ok [] :=
    FileSystem.walk_files (FileSystem.root_is_directory files) (FileSystem.locate_root files)
      nothing (by simp)
  exact Repository.scanned_imports_ok_iff.2
    ⟨[], Repository.source_files_of_root searched rfl (walked _), rfl⟩

/-- Nothing is there to be found, but a crawl that would have to tell so with the depth fails. -/
theorem nothing_told_at_long_depth :
    repository.scannedImports = .ok [] ∧ seeds ["a.css"] ≠ [] ∧
      repository.crawl ["a.css"] longDepth = .error .numberTooLong :=
  ⟨scanned, by decide, crawl_long (by decide) long_depth_long scanned⟩

end EmptyDirectory

/-- Two files that import each other, one of them changed, and a third behind them. -/
example :
    (search (.ofImports [("a", ["b"]), ("b", ["a"]), ("c", ["b", "a"])]) ["a"] 9).reached =
      [("b", 1), ("c", 1)] := by
  decide

end ImportImpact
