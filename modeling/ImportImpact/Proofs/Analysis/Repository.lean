import ImportImpact.Analysis.Repository
import ImportImpact.Proofs.FileSystem.Folders
import ImportImpact.Proofs.FirstOccurrence
import ImportImpact.Proofs.Graph.ImporterIndex
import ImportImpact.Proofs.Outcome

/-!
The imports of a repository as a relation between names of files, and the two places where the
analysis gathers them: the files that are scanned, and the index of their imports. A scanned file
lies where its name says, so its name decides what it imports.
-/

namespace ImportImpact.Repository

open FirstOccurrence Outcome

/-- A specifier in the text of the one file, which can be read, leads to the other. -/
def Imports (repository : Repository) (importer target : String) : Prop :=
  ∃ text, repository.text? (repository.root.join importer) = .ok (some text) ∧
    ∃ specifier ∈ repository.extractor.extract text importer,
      repository.resolver.resolve specifier importer = .ok (some target)

/-- The file is one of those below the source roots. -/
def Scans (repository : Repository) (path : String) : Prop :=
  ∃ files, repository.sourceFiles = .ok files ∧ path ∈ files.map Prod.snd

/-- The settings name a source root by this path. -/
def SourceRoot (repository : Repository) (name : String) : Prop :=
  ∃ names, (repository.settings.value .sourceRoots).elements = .ok names ∧ .str name ∈ names

variable {repository : Repository}

theorem decoded_by_first {platform : Platform} {bytes : List UInt8} {name : String}
    {encoding : Encoding} {text : List Char} (plain : name.toList.contains '\x00' = false)
    (filled : bytes ≠ [])
    (named : Encoding.ofName? name = some encoding)
    (read : Encoding.decode? bytes encoding = some text) (rest : List Value) :
    FileSystem.decodeFirst platform bytes (.str name :: rest) = .ok (some text) := by
  have decoded : FileSystem.decodeAs platform bytes name = .text text := by
    rw [FileSystem.decodeAs, named]
    simp [read]
  rw [FileSystem.decodeFirst, plain, decoded]
  simp [filled]

theorem text_of_file {place : Path} {bytes : List UInt8} {fallbacks : List Value}
    {text : List Char} (entry : repository.system.entryAt place = .ok (.file bytes))
    (small : FileSystem.exceeds bytes.length (repository.settings.value .maxFileSize) = .ok false)
    (known : FileSystem.fallbackNames (repository.settings.value .fallbackEncodings) =
      .ok fallbacks)
    (decoded : FileSystem.decodeFirst repository.system.platform bytes
      (repository.settings.value .encoding :: fallbacks) = .ok (some text)) :
    repository.text? place = .ok (some (String.ofList text)) := by
  have read : repository.system.readText repository.readingRules place =
      .ok (String.ofList text) := by
    rw [FileSystem.readText, FileSystem.contentAt, entry]
    simp [readingRules, small, known, decoded, bind, Except.bind, pure, Except.pure]
  rw [text?, read]

theorem imports_of_text {place : Path} {path text : String} {specifiers : List String}
    (read : repository.text? place = .ok (some text))
    (specified : repository.extractor.extract text path = specifiers) :
    repository.imports place path = resolveAll repository.resolver path specifiers := by
  rw [imports, read, ← specified]
  rfl

theorem resolve_of_file {resolver : Resolver} {specifier importer candidate : String}
    (given : candidate? specifier importer = some candidate)
    (spelled : Written.suffix candidate ≠ "")
    (there : resolver.system.isFile (resolver.root.join candidate) = .ok true) :
    resolver.resolve specifier importer = .ok (some candidate) := by
  have found : resolver.hasFile candidate = true := by
    delta Resolver.hasFile
    rw [there]
  rw [Resolver.resolve, given]
  change resolver.resolveCandidate candidate = .ok (some candidate)
  rw [Resolver.resolveCandidate, if_pos spelled, if_pos found]

theorem mem_resolve_all {resolver : Resolver} {importer : String} {specifiers targets : List String}
    (done : resolveAll resolver importer specifiers = .ok targets) (target : String) :
    target ∈ targets ↔ ∃ specifier ∈ specifiers,
      resolver.resolve specifier importer = .ok (some target) := by
  induction specifiers generalizing targets with
  | nil =>
      cases done
      simp
  | cons specifier rest induction =>
      rw [resolveAll, bind_ok_iff] at done
      obtain ⟨found, here, done⟩ := done
      obtain ⟨others, later, done⟩ := bind_ok_iff.1 done
      rw [pure_ok_iff] at done
      subst done
      rw [List.mem_append, induction later]
      have first : target ∈ found.toList ↔
          resolver.resolve specifier importer = .ok (some target) := by
        rw [here, Option.mem_toList, Except.ok.injEq]
      simp [first]

theorem mem_imports {importer : String} {targets : List String}
    (done : repository.imports (repository.root.join importer) importer = .ok targets)
    (target : String) : target ∈ targets ↔ repository.Imports importer target := by
  rw [imports, bind_ok_iff] at done
  obtain ⟨read, given, done⟩ := done
  cases read with
  | none =>
      cases done
      simp [Imports, given]
  | some text =>
      rw [mem_resolve_all done]
      constructor
      · intro resolved
        exact ⟨text, given, resolved⟩
      · intro given
        rcases given with ⟨other, again, resolved⟩
        rw [given] at again
        cases again
        exact resolved

theorem not_imports_of_uncategorised {importer : String}
    (given : repository.extractor.categorize importer = none) (target : String) :
    ¬repository.Imports importer target := by
  intro given
  rcases given with ⟨text, -, specifier, member, -⟩
  simp [Extractor.extract, given] at member

theorem search_root_shape {roots : List Path} (done : repository.searchRoots = .ok roots) :
    ∀ directory ∈ roots, repository.system.isDirectory directory = .ok true ∧
      (directory = repository.root ∨
        ∃ name, repository.SourceRoot name ∧ directory = repository.root.join name) := by
  rw [searchRoots, bind_ok_iff] at done
  obtain ⟨names, listed, done⟩ := done
  obtain ⟨found, asked, done⟩ := bind_ok_iff.1 done
  have named : ∀ directory ∈ found.filterMap id,
      repository.system.isDirectory directory = .ok true ∧
        ∃ name, repository.SourceRoot name ∧ directory = repository.root.join name := by
    intro directory member
    obtain ⟨answer, inside, shape⟩ := List.mem_filterMap.1 member
    obtain ⟨value, given, source⟩ := exists_input (map_all_ok asked) inside
    rw [id] at shape
    subst shape
    cases value with
    | str name =>
        obtain ⟨there, known, source⟩ := bind_ok_iff.1 source
        rw [pure_ok_iff] at source
        split at source
        next yes =>
          cases source
          exact ⟨yes ▸ known, name, ⟨names, listed, given⟩, rfl⟩
        · simp at source
    | _ => simp [sourceRoot?, Value.misused] at source
  dsimp only at done
  split at done
  · cases done
    exact fun directory member => ⟨(named directory member).1, Or.inr (named directory member).2⟩
  · obtain ⟨there, known, done⟩ := bind_ok_iff.1 done
    split at done
    next yes =>
      cases done
      intro directory member
      rw [List.mem_singleton.1 member]
      exact ⟨yes ▸ known, Or.inl rfl⟩
    · cases done
      simp

theorem search_root_of_name {name : String}
    (named : (repository.settings.value .sourceRoots).elements = .ok [.str name])
    (there : repository.system.isDirectory (repository.root.join name) = .ok true) :
    repository.searchRoots = .ok [repository.root.join name] := by
  have found : repository.sourceRoot? (.str name) = .ok (some (repository.root.join name)) := by
    rw [sourceRoot?, there]
    rfl
  rw [searchRoots, named]
  dsimp only [bind, Except.bind]
  rw [List.mapM_cons, found]
  rfl

section Walks

open FileSystem

/-- Walks one after the other give what each of them gives, or break off where one of them does. -/
theorem walks_complete (walks : List Walked) : (walks.foldr Walked.andThen .nothing).complete =
    (do pure (← walks.mapM Walked.complete).flatten) := by
  induction walks with
  | nil => rfl
  | cons first rest induction =>
      obtain ⟨files, fault⟩ := first
      rw [List.foldr_cons, List.mapM_cons, Walked.andThen]
      cases fault with
      | some fault => rfl
      | none =>
          have later : Walked.complete { rest.foldr Walked.andThen .nothing with
              files := files ++ (rest.foldr Walked.andThen .nothing).files } =
                (rest.foldr Walked.andThen .nothing).complete.map (files ++ ·) := by
            unfold Walked.complete
            dsimp only
            split <;> rfl
          dsimp only
          rw [later, induction]
          cases rest.mapM Walked.complete <;> rfl

theorem mem_walks {walks : List Walked} {place : Path}
    (member : place ∈ (walks.foldr Walked.andThen .nothing).files) :
    ∃ walk ∈ walks, place ∈ walk.files := by
  induction walks with
  | nil => exact absurd member List.not_mem_nil
  | cons first rest induction =>
      rw [List.foldr_cons, Walked.andThen] at member
      split at member
      · exact ⟨first, List.mem_cons_self, member⟩
      · rcases List.mem_append.1 member with here | later
        · exact ⟨first, List.mem_cons_self, here⟩
        · obtain ⟨walk, inside, found⟩ := induction later
          exact ⟨walk, List.mem_cons_of_mem first inside, found⟩

theorem descends_of_place {roots : List Path} {place : Path}
    (member : place ∈ (repository.walked roots).files) :
    ∃ directory ∈ roots, Descends directory place := by
  cases roots with
  | nil => exact absurd member List.not_mem_nil
  | cons first rest =>
      rw [walked] at member
      split at member
      · exact absurd member List.not_mem_nil
      · obtain ⟨walk, inside, found⟩ := mem_walks member
        obtain ⟨directory, root, rfl⟩ := List.mem_map.1 inside
        exact ⟨directory, root, descends_of_walked place found⟩

theorem walk_all_filled {roots : List Path} (filled : roots ≠ []) : repository.walkAll roots = (do
    let rules ← repository.walkRules
    pure (← roots.mapM (repository.system.walk rules)).flatten) := by
  obtain ⟨first, rest, rfl⟩ := List.exists_cons_of_ne_nil filled
  rw [walkAll, walked]
  cases repository.walkRules with
  | error fault => rfl
  | ok rules =>
      dsimp only
      rw [walks_complete, List.mapM_map]
      rfl

end Walks

theorem walk_all_of_root {directory : Path} {rules : FileSystem.WalkRules} {places : List Path}
    (ruled : repository.walkRules = .ok rules)
    (walked : repository.system.walk rules directory = .ok places) :
    repository.walkAll [directory] = .ok places := by
  rw [walk_all_filled (by simp), ruled]
  dsimp only [bind, Except.bind]
  rw [List.mapM_cons, walked]
  exact congrArg Except.ok (List.append_nil places)

theorem source_files_of_root {directory : Path} {rules : FileSystem.WalkRules} {places : List Path}
    (searched : repository.searchRoots = .ok [directory])
    (ruled : repository.walkRules = .ok rules)
    (walked : repository.system.walk rules directory = .ok places) :
    repository.sourceFiles = .ok (repository.named places) := by
  rw [sourceFiles, searched]
  dsimp only [bind, Except.bind]
  rw [walk_all_of_root ruled walked]
  rfl

theorem walks_of_all {roots places : List Path} (done : repository.walkAll roots = .ok places) :
    ∃ walks, List.Forall₂ (fun directory walk => ∃ rules, repository.walkRules = .ok rules ∧
      repository.system.walk rules directory = .ok walk) roots walks ∧ places = walks.flatten := by
  cases roots with
  | nil =>
      cases done
      exact ⟨[], .nil, rfl⟩
  | cons first rest =>
      rw [walk_all_filled (by simp), bind_ok_iff] at done
      obtain ⟨rules, ruled, done⟩ := done
      obtain ⟨walks, walked, done⟩ := bind_ok_iff.1 done
      rw [pure_ok_iff] at done
      exact ⟨walks, (map_all_ok walked).imp fun _ _ walk => ⟨rules, ruled, walk⟩, done.symm⟩

theorem walk_of_place {roots places : List Path} (done : repository.walkAll roots = .ok places)
    {place : Path} (member : place ∈ places) :
    ∃ directory ∈ roots, ∃ rules walk, repository.walkRules = .ok rules ∧
      repository.system.walk rules directory = .ok walk ∧ place ∈ walk := by
  obtain ⟨walks, beside, rfl⟩ := walks_of_all done
  obtain ⟨walk, inside, found⟩ := List.mem_flatten.1 member
  obtain ⟨directory, root, rules, ruled, given⟩ := exists_input beside inside
  exact ⟨directory, root, rules, walk, ruled, given, found⟩

theorem walked_place {roots places : List Path} (done : repository.walkAll roots = .ok places)
    {place : Path} (member : place ∈ places) :
    ∃ directory ∈ roots, FileSystem.Descends directory place :=
  descends_of_place (FileSystem.Walked.files_of_complete done ▸ member)

/-- Below the repository root, everything comes from the spelling of a source root or is the name
of an entry. -/
theorem mem_below_root {directory place : Path}
    (root : directory = repository.root ∨
      ∃ name, repository.SourceRoot name ∧ directory = repository.root.join name)
    (below : FileSystem.Descends directory place) {name : String}
    (member : name ∈ place.names.drop repository.root.names.length) :
    (∃ written, repository.SourceRoot written ∧ name ∈ (Path.parse written).names) ∨
      FileSystem.isName name = true := by
  obtain ⟨-, names, shape, named⟩ := below
  rcases root with rfl | ⟨written, given, rfl⟩
  · rw [shape, List.drop_left] at member
    exact Or.inr (named name member)
  · have either : name ∈ (Path.parse written).names ∨ name ∈ names := by
      unfold Path.join at shape
      dsimp only at shape
      split at shape
      · rw [shape, List.append_assoc, List.drop_left] at member
        exact List.mem_append.1 member
      · rw [shape] at member
        exact List.mem_append.1 (List.mem_of_mem_drop member)
    rcases either with before | after
    · exact Or.inl ⟨written, given, before⟩
    · exact Or.inr (named name after)

theorem writable_below_root {directory place : Path}
    (root : directory = repository.root ∨
      ∃ name, repository.SourceRoot name ∧ directory = repository.root.join name)
    (below : FileSystem.Descends directory place) :
    ∀ name ∈ place.names.drop repository.root.names.length, Path.Writable name := by
  intro name member
  rcases mem_below_root root below member with ⟨written, -, parsed⟩ | named
  · exact Path.writable_of_parsed parsed
  · exact FileSystem.writable_of_name named

theorem join_seen {roots places : List Path} (searched : repository.searchRoots = .ok roots)
    (walked : repository.walkAll roots = .ok places) {place : Path} (member : place ∈ places)
    {path : String} (below : Path.below? repository.root place = some path) :
    repository.root.join path = place := by
  obtain ⟨directory, root, descends⟩ := walked_place walked member
  obtain ⟨-, shape⟩ := search_root_shape searched directory root
  exact Path.join_below (writable_below_root shape descends) below

theorem source_files_shape {files : List (Path × String)}
    (done : repository.sourceFiles = .ok files) :
    ∃ roots places, repository.searchRoots = .ok roots ∧ repository.walkAll roots = .ok places ∧
      files = repository.named places := by
  rw [sourceFiles, bind_ok_iff] at done
  obtain ⟨roots, searched, done⟩ := done
  obtain ⟨places, walked, done⟩ := bind_ok_iff.1 done
  rw [pure_ok_iff] at done
  exact ⟨roots, places, searched, walked, done.symm⟩

/-- A file that is scanned is found below a directory that is there, the root or a source root, and
named as seen from the root. -/
theorem named_origin {roots : List Path} (searched : repository.searchRoots = .ok roots)
    {file : Path × String} (member : file ∈ repository.named (repository.walked roots).files) :
    Path.below? repository.root file.1 = some file.2 ∧
      ∃ directory, repository.system.isDirectory directory = .ok true ∧
        (directory = repository.root ∨
          ∃ name, repository.SourceRoot name ∧ directory = repository.root.join name) ∧
        FileSystem.Descends directory file.1 := by
  obtain ⟨place, kept, seen⟩ := List.mem_filterMap.1 member
  obtain ⟨path, below, rfl⟩ := Option.map_eq_some_iff.1 seen
  obtain ⟨directory, root, descends⟩ := descends_of_place (List.mem_eraseDups.1 kept)
  obtain ⟨there, shape⟩ := search_root_shape searched directory root
  exact ⟨below, directory, there, shape, descends⟩

theorem source_file_origin {files : List (Path × String)}
    (done : repository.sourceFiles = .ok files) {file : Path × String} (member : file ∈ files) :
    Path.below? repository.root file.1 = some file.2 ∧
      ∃ directory, repository.system.isDirectory directory = .ok true ∧
        (directory = repository.root ∨
          ∃ name, repository.SourceRoot name ∧ directory = repository.root.join name) ∧
        FileSystem.Descends directory file.1 := by
  obtain ⟨roots, places, searched, walked, rfl⟩ := source_files_shape done
  exact named_origin searched (FileSystem.Walked.files_of_complete walked ▸ member)

theorem source_file_place {files : List (Path × String)}
    (done : repository.sourceFiles = .ok files) :
    ∀ file ∈ files, repository.root.join file.2 = file.1 := by
  obtain ⟨roots, places, searched, walked, rfl⟩ := source_files_shape done
  intro file member
  obtain ⟨place, kept, seen⟩ := List.mem_filterMap.1 member
  obtain ⟨path, below, rfl⟩ := Option.map_eq_some_iff.1 seen
  exact join_seen searched walked (List.mem_eraseDups.1 kept) below

theorem seen_places (root : Path) (places : List Path) :
    (places.filterMap fun place =>
      (Path.below? root place).map fun path => (place, path)).map Prod.fst =
      places.filter fun place => (Path.below? root place).isSome := by
  induction places with
  | nil => rfl
  | cons place rest induction =>
      cases seen : Path.below? root place with
      | none => simp [seen, induction]
      | some path => simp [seen, induction]

theorem scanned_imports_of_files {files : List (Path × String)}
    (found : repository.sourceFiles = .ok files) :
    repository.scannedImports = files.mapM repository.scan := by
  obtain ⟨roots, searched, found⟩ := bind_ok_iff.1 found
  obtain ⟨places, complete, found⟩ := bind_ok_iff.1 found
  rw [pure_ok_iff] at found
  subst found
  rw [walkAll] at complete
  rw [scannedImports, searched]
  change ((repository.named _).mapM repository.scan >>= fun scanned => _) = _
  rw [FileSystem.Walked.files_of_complete complete, complete]
  cases (repository.named places).mapM repository.scan with
  | ok rows => rfl
  | error fault => rfl

theorem scanned_imports_ok_iff {rows : List (String × List String)} :
    repository.scannedImports = .ok rows ↔
      ∃ files, repository.sourceFiles = .ok files ∧ files.mapM repository.scan = .ok rows := by
  rw [scannedImports, bind_ok_iff, sourceFiles]
  constructor
  · rintro ⟨roots, searched, done⟩
    obtain ⟨scanned, here, done⟩ := bind_ok_iff.1 done
    obtain ⟨places, complete, done⟩ := bind_ok_iff.1 done
    rw [pure_ok_iff] at done
    subst done
    rw [searched]
    refine ⟨repository.named places, ?_, ?_⟩
    · exact (congrArg (· >>= fun places => pure (repository.named places)) complete)
    · rw [FileSystem.Walked.files_of_complete complete] at here
      exact here
  · rintro ⟨files, found, scanned⟩
    have listed := scanned_imports_of_files found
    rw [scannedImports] at listed
    exact bind_ok_iff.1 (listed.trans scanned)

theorem scanned_imports_option : repository.scannedImports.toOption =
    (repository.sourceFiles >>= fun files => files.mapM repository.scan).toOption := by
  have ok_iff (rows : List (String × List String)) : repository.scannedImports = .ok rows ↔
      (repository.sourceFiles >>= fun files => files.mapM repository.scan) = .ok rows :=
    scanned_imports_ok_iff.trans bind_ok_iff.symm
  cases scanned : repository.scannedImports with
  | ok rows => rw [(ok_iff rows).1 scanned]
  | error fault =>
      cases listed : repository.sourceFiles >>= fun files => files.mapM repository.scan with
      | ok rows =>
          rw [(ok_iff rows).2 listed] at scanned
          cases scanned
      | error other => rfl

theorem source_file_names_nodup {files : List (Path × String)}
    (done : repository.sourceFiles = .ok files) : (files.map Prod.snd).Nodup := by
  have places_nodup : (files.map Prod.fst).Nodup := by
    obtain ⟨roots, places, -, -, rfl⟩ := source_files_shape done
    rw [named, seen_places]
    exact (erase_dups_nodup places).filter _
  have places_eq : files.map Prod.fst = (files.map Prod.snd).map repository.root.join := by
    rw [List.map_map]
    exact List.map_congr_left fun file member => (source_file_place done file member).symm
  rw [places_eq] at places_nodup
  exact places_nodup.of_map

end ImportImpact.Repository
