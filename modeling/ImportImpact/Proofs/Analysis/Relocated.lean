import ImportImpact.Proofs.Analysis.Edges
import ImportImpact.Proofs.Analysis.Isolation
import ImportImpact.Proofs.FileSystem.Relocated
import ImportImpact.Proofs.Import.Candidate

/-!
One repository at two places. Each step of an analysis comes to the same at both, as seen from the
roots: the files that are there, what they say, where a specifier leads and which files a walk
finds.
-/

namespace ImportImpact

open FileSystem ImportImpact.Path Outcome Written

/-- The path leads nowhere above the root from which it is seen; and the limit on the length of a
path treats it alike at both places, if it leads to something. -/
structure StaysAlike (system : FileSystem) (here there : Location) (path : String) : Prop where
  relative : (Path.parse path).anchor = .relative
  stays : (leadBelow? [] (Path.parse path).names).isSome
  fits : system.LeadsSomewhere here (Path.parse path).names →
    FitsAlike here there (Path.parse path).names

/-- Settings that look for nothing outside a repository, wherever it lies. -/
structure Settings.Portable (settings : Settings) (system : FileSystem) (here there : Location) :
    Prop where
  spelled : SpellsOnly (settings.value .resolveExtensions) (settings.value .indexName)
    (StaysAlike system here there)
  /-- A rooted path is tried for an importer whose path starts with a backslash only; that makes no
  difference where all spellings are texts. -/
  apart : AllTexts (settings.value .resolveExtensions) (settings.value .indexName) ∨
    ∀ name names, system.lookup? (here ++ name :: names) ≠ none → name.toList.head? ≠ some '\\'
  walked : ∀ names, (settings.value .sourceRoots).elements = .ok names → ∀ name, .str name ∈ names →
    (Path.parse name).anchor = .relative ∧ ".." ∉ (Path.parse name).names ∧
      FitsAlike here there (Path.parse name).names

namespace Repository

def relocate (repository : Repository) (system : FileSystem) (there : Location) : Repository :=
  { repository with system, root := ⟨.root, there⟩ }

section Relocated

variable {repository : Repository} {second : FileSystem} {here there : Location} {path : String}

theorem join_of_relative (relative : (Path.parse path).anchor = .relative) (place : Location) :
    (⟨.root, place⟩ : Path).join path = ⟨.root, place ++ (Path.parse path).names⟩ := by
  rw [Path.join, relative]

theorem stays_alike_of_inside {first : FileSystem} (moved : Relocated first second here there)
    (inside : Inside path) : StaysAlike first here there path := by
  obtain ⟨names, rfl, named⟩ := inside
  have parsed := parse_relative fun name member => writable_of_name (named name member)
  have down : ∀ name ∈ names, Downward name := fun name member =>
    downward_of_name (named name member)
  refine ⟨by rw [parsed], ?_, ?_⟩
  · rw [parsed, lead_below_of_downward down]
    rfl
  · rw [parsed]
    exact moved.fits_downward down

theorem exists_names_of_beside {first : FileSystem} {places others : List Path}
    (beside : List.Forall₂ (Beside first here there) places others) :
    ∃ found : List (List String),
      (∀ names ∈ found, (∀ name ∈ names, isName name = true) ∧
        first.lookup? (here ++ names) ≠ none) ∧
      places = found.map (fun names => ⟨.root, here ++ names⟩) ∧
      others = found.map fun names => ⟨.root, there ++ names⟩ := by
  induction beside with
  | nil => exact ⟨[], by simp, rfl, rfl⟩
  | cons same _ induction =>
      obtain ⟨names, named, present, rfl, rfl⟩ := same
      obtain ⟨found, held, rfl, rfl⟩ := induction
      exact ⟨names :: found, List.forall_mem_cons.2 ⟨⟨named, present⟩, held⟩, rfl, rfl⟩

theorem files_below (place : Location) (found : List (List String)) :
    ((found.map fun names => (⟨.root, place ++ names⟩ : Path)).eraseDups.filterMap fun path =>
        (Path.below? ⟨.root, place⟩ path).map fun written => (path, written)) =
      found.eraseDups.map fun names => (⟨.root, place ++ names⟩, text ⟨.relative, names⟩) := by
  have injective : Function.Injective fun names : List String =>
      (⟨.root, place ++ names⟩ : Path) := by
    intro names others same
    simpa using same
  have seen (names : List String) : (Path.below? ⟨.root, place⟩ ⟨.root, place ++ names⟩) =
      some (text ⟨.relative, names⟩) :=
    below_iff.2 ⟨names, rfl, rfl⟩
  rw [FirstOccurrence.erase_dups_map injective, List.filterMap_map, ← List.filterMap_eq_map]
  apply List.filterMap_congr
  intro names _
  simp only [Function.comp_apply, seen, Option.map_some]

theorem importer_apart
    (portable : repository.settings.Portable repository.system here there) {names : List String}
    (named : ∀ name ∈ names, isName name = true)
    (present : repository.system.lookup? (here ++ names) ≠ none) :
    AllTexts repository.resolver.extensions repository.resolver.indexName ∨
      rooted (withSlashes (text ⟨.relative, names⟩)) = false := by
  refine portable.apart.imp_right fun plain => ?_
  cases names with
  | nil => decide
  | cons name others =>
      have filled : name.toList ≠ [] := by
        intro empty
        obtain ⟨⟨busy, -⟩, -⟩ := is_name_iff.1 (named name List.mem_cons_self)
        rw [empty] at busy
        cases busy
      apply not_rooted_with_slashes
      · have inside : Inside (text ⟨.relative, name :: others⟩) := ⟨_, rfl, named⟩
        simpa [rooted] using not_rooted_of_inside inside
      · rw [head_of_text filled]
        exact plain name others present

variable (moved : Relocated repository.system second here there)
  (placed : repository.root = ⟨.root, here⟩)

include moved placed

theorem entry_relocated (alike : StaysAlike repository.system here there path) (entry : Entry) :
    (repository.relocate second there).system.entryAt
        ((repository.relocate second there).root.join path) = .ok entry ↔
      repository.system.entryAt (repository.root.join path) = .ok entry := by
  change second.entryAt ((⟨.root, there⟩ : Path).join path) = .ok entry ↔ _
  rw [placed, join_of_relative alike.relative, join_of_relative alike.relative]
  exact moved.entry_iff alike.stays alike.fits entry

theorem text_relocated (inside : Inside path) :
    (repository.relocate second there).text? ((repository.relocate second there).root.join path) =
      repository.text? (repository.root.join path) :=
  text_alike rfl moved.platform (entry_relocated moved placed (stays_alike_of_inside moved inside))

theorem resolves_relocated
    (portable : repository.settings.Portable repository.system here there) {importer : String}
    (apart : AllTexts repository.resolver.extensions repository.resolver.indexName ∨
      rooted (withSlashes importer) = false) :
    ResolvesAlike repository (repository.relocate second there) importer := by
  intro specifier
  apply Resolver.resolve_congr
  · rfl
  · rfl
  · exact fun path inside =>
      has_file_alike (entry_relocated moved placed (stays_alike_of_inside moved inside))
  · exact portable.spelled.mono fun path alike =>
      has_file_alike (entry_relocated moved placed alike)
  · exact apart.imp_right fun relative candidate => candidate_not_rooted relative

def Searched (first : FileSystem) (here there : Location) (path other : Path) : Prop :=
  ∃ names, (∀ name ∈ names, isName name = true) ∧ FitsAlike here there names ∧
    first.isDirectory path = .ok true ∧ path = ⟨.root, here ++ names⟩ ∧
    other = ⟨.root, there ++ names⟩

theorem source_root_relocated
    (portable : repository.settings.Portable repository.system here there) {names : List Value}
    (listed : (repository.settings.value .sourceRoots).elements = .ok names) {value : Value}
    (member : value ∈ names) :
    Alike (Option.Rel (Searched repository.system here there)) (repository.sourceRoot? value)
      ((repository.relocate second there).sourceRoot? value) := by
  cases value with
  | str name =>
      obtain ⟨relative, down, fits⟩ := portable.walked names listed name member
      have named : ∀ part ∈ (Path.parse name).names, isName part = true := by
        intro part inside
        refine is_name_iff.2 ⟨writable_of_parsed inside, ?_⟩
        rintro rfl
        exact down inside
      have leads := lead_below_of_downward
        (fun part inside => downward_of_name (named part inside)) []
      have same := moved.entry (by rw [leads]; rfl) fits
      have here_path := join_of_relative relative here
      have there_path := join_of_relative relative there
      rw [sourceRoot?, sourceRoot?, placed, here_path]
      change Alike _ _ (second.isDirectory ((⟨.root, there⟩ : Path).join name) >>= fun found =>
        pure (if found then some ((⟨.root, there⟩ : Path).join name) else none))
      rw [there_path]
      rcases directory_alike same with ⟨answer, asked, askedToo⟩ | ⟨fault, other, lost, lostToo⟩
      · rw [asked, askedToo]
        cases answer with
        | false => exact .succeeded .none
        | true => exact .succeeded (.some ⟨_, named, fits, asked, rfl, rfl⟩)
      · rw [lost, lostToo]
        exact .failed fault other
  | _ => exact .failed _ _

theorem search_roots_relocated
    (portable : repository.settings.Portable repository.system here there) :
    Alike (List.Forall₂ (Searched repository.system here there)) repository.searchRoots
      (repository.relocate second there).searchRoots := by
  have root := directory_of_located moved.located moved.directory
  have rootToo : second.isDirectory ⟨.root, there⟩ = .ok true := by
    refine directory_of_located moved.located_too ?_
    have same := moved.same []
    rwa [List.append_nil, List.append_nil, moved.directory] at same
  rw [searchRoots, searchRoots]
  change Alike _ _ ((repository.settings.value .sourceRoots).elements >>= _)
  cases listed : (repository.settings.value .sourceRoots).elements with
  | error fault => exact .failed fault fault
  | ok names =>
      have asked : Alike (List.Forall₂ (Option.Rel (Searched repository.system here there)))
          (names.mapM repository.sourceRoot?)
          (names.mapM (repository.relocate second there).sourceRoot?) :=
        Alike.map_all (List.forall₂_same.2 fun value member =>
          source_root_relocated moved placed portable listed member)
      refine asked.bind fun found foundToo beside => ?_
      have kept : List.Forall₂ (Searched repository.system here there)
          (found.filterMap id) (foundToo.filterMap id) :=
        List.rel_filterMap (fun _ _ same => same) beside
      dsimp only
      have empty : (foundToo.filterMap id).isEmpty = (found.filterMap id).isEmpty := by
        rw [Bool.eq_iff_iff, List.isEmpty_iff_length_eq_zero, List.isEmpty_iff_length_eq_zero,
          kept.length_eq]
      rw [empty]
      split
      · exact .succeeded kept
      · change Alike _ (repository.system.isDirectory repository.root >>= _)
          (second.isDirectory ⟨.root, there⟩ >>= _)
        rw [placed, root, rootToo]
        have top : Searched repository.system here there ⟨.root, here⟩ ⟨.root, there⟩ :=
          ⟨[], by simp, fits_of_located moved.located moved.located_too, root, by simp, by simp⟩
        exact .succeeded (.cons top .nil)

omit placed in
theorem walk_all_relocated {roots rootsToo : List Path}
    (beside : List.Forall₂ (Searched repository.system here there) roots rootsToo) :
    Alike (List.Forall₂ (Beside repository.system here there)) (repository.walkAll roots)
      ((repository.relocate second there).walkAll rootsToo) := by
  have walks (rules : WalkRules) :
      Alike (List.Forall₂ (List.Forall₂ (Beside repository.system here there)))
        (roots.mapM (repository.system.walk rules)) (rootsToo.mapM (second.walk rules)) := by
    apply Alike.map_all
    refine beside.imp ?_
    rintro _ _ ⟨names, named, fits, asked, rfl, rfl⟩
    exact moved.walk_alike named fits asked rules
  cases beside with
  | nil => exact .succeeded .nil
  | cons first rest =>
      rw [walk_all_filled (by simp), walk_all_filled (by simp)]
      change Alike _ _ (repository.walkRules >>= _)
      cases repository.walkRules with
      | error fault => exact .failed fault fault
      | ok rules =>
          exact (walks rules).bind fun found foundToo same => .succeeded (List.rel_flatten same)

theorem source_files_relocated
    (portable : repository.settings.Portable repository.system here there) :
    Alike (fun files others => ∃ found : List (List String),
        (∀ names ∈ found, (∀ name ∈ names, isName name = true) ∧
          repository.system.lookup? (here ++ names) ≠ none) ∧
        files = found.map (fun names => (⟨.root, here ++ names⟩, text ⟨.relative, names⟩)) ∧
        others = found.map fun names => (⟨.root, there ++ names⟩, text ⟨.relative, names⟩))
      repository.sourceFiles (repository.relocate second there).sourceFiles := by
  rw [sourceFiles, sourceFiles]
  apply (search_roots_relocated moved placed portable).bind
  intro roots rootsToo searched
  apply (walk_all_relocated moved searched).bind
  intro places placesToo beside
  refine .succeeded ?_
  obtain ⟨found, held, rfl, rfl⟩ := exists_names_of_beside beside
  refine ⟨found.eraseDups, fun names member => held names (List.mem_eraseDups.1 member), ?_, ?_⟩
  · rw [named, placed, files_below]
  · exact files_below there found

theorem scanned_imports_relocated
    (portable : repository.settings.Portable repository.system here there) :
    Alike (fun scanned others =>
        scanned.map (fun file => (file.1, file.2.filter (!rooted ·))) =
          others.map fun file => (file.1, file.2.filter (!rooted ·)))
      repository.scannedImports (repository.relocate second there).scannedImports := by
  refine Alike.congr ?_ scanned_imports_option scanned_imports_option
  apply (source_files_relocated moved placed portable).bind
  rintro _ _ ⟨found, held, rfl, rfl⟩
  apply alike_of_view
  rw [map_all_view, map_all_view, List.mapM_map, List.mapM_map]
  apply map_all_congr
  intro names member
  obtain ⟨named, present⟩ := held names member
  have extracts : (repository.relocate second there).extractor = repository.extractor := rfl
  have read := text_relocated moved placed ⟨names, rfl, named⟩
  have here_path := join_inside repository.root named
  have there_path := join_inside (repository.relocate second there).root named
  rw [here_path, there_path, placed] at read
  exact (scan_alike extracts (resolves_relocated moved placed portable
    (importer_apart portable named present)) read).symm

theorem crawl_relocated (portable : repository.settings.Portable repository.system here there)
    (changed : List String) (depth : Nat) :
    ((repository.relocate second there).crawl changed depth).toOption =
      (repository.crawl changed depth).toOption := by
  rw [crawl, crawl]
  split
  · rfl
  · have scans := scanned_imports_relocated moved placed portable
    cases scan : repository.scannedImports with
    | error fault =>
        cases again : (repository.relocate second there).scannedImports with
        | error other => rfl
        | ok others =>
            rw [scan, again] at scans
            cases scans
    | ok scanned =>
        cases again : (repository.relocate second there).scannedImports with
        | error other =>
            rw [scan, again] at scans
            cases scans
        | ok others =>
            rw [scan, again] at scans
            cases scans with
            | succeeded agreed =>
                dsimp only [bind, Except.bind]
                rw [crawl_of_scans scan agreed changed depth]

theorem forward_edges_relocated
    (portable : repository.settings.Portable repository.system here there) {changed : List String}
    (normal : ∀ path ∈ changed, NormalForm path.toList) (inside : ∀ path ∈ changed, Inside path) :
    (repository.relocate second there).forwardEdges changed = repository.forwardEdges changed := by
  have extracts : (repository.relocate second there).extractor = repository.extractor := rfl
  refine forward_edges_alike extracts (fun path member => not_rooted_of_inside (inside path member))
    (fun path member => ?_) fun path member => text_relocated moved placed (inside path member)
  apply resolves_relocated moved placed portable
  right
  apply not_rooted_with_slashes (head_of_normal (normal path member))
  intro head
  exact backslash_of_normal (normal path member) (List.mem_of_mem_head? head)

end Relocated

end Repository

end ImportImpact
