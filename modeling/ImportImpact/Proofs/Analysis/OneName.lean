import ImportImpact.Platform.Ordinary
import ImportImpact.Proofs.Analysis.Edges
import ImportImpact.Proofs.FileSystem.WithoutLinks
import ImportImpact.Proofs.Graph.Chain
import ImportImpact.Proofs.Path.Inside

/-!
Affected files and files on disk. A crawl compares paths as texts, so it keeps apart what lies apart
only where every file goes by one path. That is so without links, if neither a source root nor a
changed path is spelled with a step up.
-/

namespace ImportImpact

open FileSystem ImportImpact.Path

namespace Repository

/-- Both paths lead to one place below the root, where something is. -/
def SameFile (repository : Repository) (first second : String) : Prop :=
  ∃ location, repository.system.locate (repository.root.join first) = .ok location ∧
    repository.system.locate (repository.root.join second) = .ok location

variable {repository : Repository}

theorem located_inside (plain : repository.system.NoLinks) {names : List String}
    (named : ∀ name ∈ names, isName name = true) {location : Location}
    (located : repository.system.locate (repository.root.join (text ⟨.relative, names⟩)) =
      .ok location) :
    location = lead (repository.system.start repository.root) repository.root.names ++ names := by
  rw [join_inside _ named] at located
  have down : ∀ name ∈ names, Downward name := fun name member =>
    downward_of_name (named name member)
  rw [locate_lands (plain.passed _ _) located, lead_append, lead_of_downward down]
  rfl

/-- Without links, two paths inside the repository that name one file are the same path. -/
theorem eq_of_same_file (plain : repository.system.NoLinks) {first second : String}
    (inside : Inside first) (insideToo : Inside second)
    (same : repository.SameFile first second) : first = second := by
  obtain ⟨location, here, there⟩ := same
  obtain ⟨names, rfl, named⟩ := inside
  obtain ⟨others, rfl, namedToo⟩ := insideToo
  have shape := (located_inside plain named here).symm.trans (located_inside plain namedToo there)
  rw [List.append_cancel_left shape]

theorem inside_of_scans
    (roots : ∀ name, repository.SourceRoot name → ".." ∉ (Path.parse name).names) {path : String}
    (scans : repository.Scans path) : Inside path := by
  obtain ⟨files, listed, member⟩ := scans
  obtain ⟨file, inside, rfl⟩ := List.mem_map.1 member
  obtain ⟨below, directory, -, root, descends⟩ := source_file_origin listed inside
  refine inside_of_below (fun name kept => ?_) below
  rcases mem_below_root root descends kept with ⟨written, given, parsed⟩ | named
  · refine is_name_iff.2 ⟨Path.writable_of_parsed parsed, ?_⟩
    rintro rfl
    exact roots written given parsed
  · exact named

end Repository

theorem inside_of_seed {changed : List String} {path : String} (seed : path ∈ seeds changed)
    (down : ".." ∉ (Path.parse path).names) : Inside path :=
  inside_of_normal (normal_of_seed seed) down

theorem scans_of_affected {repository : Repository} {changed : List String} {depth : Nat}
    {crawl : Crawl} (done : repository.crawl changed depth = .ok crawl) {path : String}
    (affected : path ∈ crawl.found.affected) :
    repository.Scans path ∧ path ∉ seeds changed := by
  obtain ⟨scanned, searched, scan⟩ := exists_index_of_crawl done
  obtain ⟨unchanged, length, positive, bound, reached⟩ :=
    (searched.bounded.affected_iff path).1 affected
  obtain ⟨seed, member, -⟩ := reaches_iff_exists_seed.1 reached
  refine ⟨?_, unchanged⟩
  cases reached with
  | seed => omega
  | step _ importer =>
      have listed := scan (List.ne_nil_of_mem member) (by omega)
      exact ((Repository.mem_importers_iff listed _ _).1 importer).1

/-- No affected file is a changed one under another path, and no two of them are one file, unless a
source root or a changed path is spelled with a step up. -/
theorem affected_files_apart {repository : Repository} (plain : repository.system.NoLinks)
    (roots : ∀ name, repository.SourceRoot name → ".." ∉ (Path.parse name).names)
    {changed : List String} (down : ∀ path ∈ seeds changed, ".." ∉ (Path.parse path).names)
    {depth : Nat} {crawl : Crawl} (done : repository.crawl changed depth = .ok crawl) :
    (∀ path ∈ crawl.found.affected, ∀ other ∈ seeds changed, ¬repository.SameFile path other) ∧
      crawl.found.affected.Pairwise fun first second => ¬repository.SameFile first second := by
  obtain ⟨scanned, searched, -⟩ := exists_index_of_crawl done
  have inside : ∀ path ∈ crawl.found.affected, Inside path := fun path affected =>
    Repository.inside_of_scans roots (scans_of_affected done affected).1
  constructor
  · intro path affected other seed same
    have spelled := inside_of_seed seed (down other seed)
    have equal := Repository.eq_of_same_file plain (inside path affected) spelled same
    exact (scans_of_affected done affected).2 (equal ▸ seed)
  · apply searched.bounded.distinct.imp_of_mem
    intro first second here there different same
    exact different
      (Repository.eq_of_same_file plain (inside first here) (inside second there) same)

namespace PairOfSheets

/-- The sheet that uses the changed one is affected, and it is another file. -/
theorem pair_affected_apart : ∃ crawl, repository.crawl ["a.css"] 1 = .ok crawl ∧
    "b.css" ∈ crawl.found.affected ∧ ¬repository.SameFile "b.css" "a.css" := by
  have short : Value.hasShortText (1 : Nat) = true := by decide
  obtain ⟨crawl, crawled, searched⟩ := crawl_of_scan scanned ["a.css"] short
  have affected : "b.css" ∈ crawl.found.affected := by
    rw [searched.affected_eq]
    decide
  have plain : repository.system.NoLinks := by
    intro location target there
    cases location with
    | nil => cases there
    | cons name rest =>
        obtain ⟨before, after, shape, -⟩ := List.lookup_eq_some_iff.1 there
        have member : (name :: rest, Entry.link target) ∈ repository.system.entries := by
          rw [shape]
          simp
        revert member
        simp [repository, files]
  have roots : ∀ name, repository.SourceRoot name → ".." ∉ (Path.parse name).names := by
    rintro name ⟨names, listed, member⟩
    cases listed
    simp at member
  have down : ∀ path ∈ seeds ["a.css"], ".." ∉ (Path.parse path).names := by decide
  exact ⟨crawl, crawled, affected,
    (affected_files_apart plain roots down crawled).1 "b.css" affected "a.css" (by decide)⟩

end PairOfSheets

namespace RoundaboutRoot

def files : FileSystem where
  entries := [(["src"], .directory), (["src", "a.css"], .file []),
    (["src", "b.css"], .file (Utf8.ofString "@use './a.css'"))]
  workingDirectory := []
  platform := .ordinary

/-- The source root is spelled with a step up, and so are the files that are found below it. -/
def settings : Settings := Settings.initial.set .sourceRoots (.list [.str "src/../src"])

def repository : Repository where
  system := files
  root := ⟨.root, []⟩
  settings
  extractor := ⟨[".js", ".ts", ".jsx", ".tsx", ".svelte", ".mjs", ".cjs", ".vue"],
    [".css", ".scss", ".sass", ".less"], Form.scriptForms, Form.styleForms⟩

def rules : FileSystem.WalkRules :=
  ⟨[".js", ".ts", ".jsx", ".tsx", ".svelte", ".mjs", ".cjs", ".vue", ".css", ".scss", ".sass",
    ".less"], ["node_modules", ".git", "dist", "build", ".next", "coverage"], false⟩

def directory : Path := ⟨.root, ["src", "..", "src"]⟩

theorem follow_root (rest : List String) :
    files.follow true mostLinks [] ("src" :: rest) = files.follow true mostLinks ["src"] rest := by
  have there : files.lookup? ["src"] = some .directory := rfl
  exact follow_name rfl (by decide) (by decide) there (by simp) rest

theorem follow_around (rest : List String) :
    files.follow true mostLinks [] ("src" :: ".." :: "src" :: rest) =
      files.follow true mostLinks ["src"] rest := by
  rw [follow_root, follow_up rfl]
  exact follow_root rest

theorem follow_file {name : String} {content : List UInt8} (named : isName name = true)
    (short : name.utf8ByteSize ≤ longestName)
    (there : files.lookup? ["src", name] = some (.file content)) :
    files.follow true mostLinks ["src"] [name] = .ok (.entry ["src", name]) := by
  rw [follow_name rfl named short there (by simp)]
  exact follow_nothing true mostLinks ["src", name]

theorem root_place : files.locate directory = .ok ["src"] :=
  located_iff.2 ⟨by decide, (follow_around []).trans (follow_nothing _ _ _)⟩

theorem root_there : files.isDirectory directory = .ok true := directory_of_located root_place rfl

theorem used_place : files.locate (directory.child "a.css") = .ok ["src", "a.css"] :=
  located_iff.2 ⟨by decide, (follow_around ["a.css"]).trans
    (follow_file (by decide) (by decide) rfl)⟩

theorem using_place : files.locate (directory.child "b.css") = .ok ["src", "b.css"] :=
  located_iff.2 ⟨by decide, (follow_around ["b.css"]).trans
    (follow_file (by decide) (by decide) rfl)⟩

theorem using_place_inside : files.locate ⟨.root, ["src", "b.css"]⟩ = .ok ["src", "b.css"] :=
  located_iff.2 ⟨by decide, (follow_root ["b.css"]).trans
    (follow_file (by decide) (by decide) rfl)⟩

theorem used_place_inside : files.locate ⟨.root, ["src", "a.css"]⟩ = .ok ["src", "a.css"] :=
  located_iff.2 ⟨by decide, (follow_root ["a.css"]).trans
    (follow_file (by decide) (by decide) rfl)⟩

theorem names : files.names ["src"] = ["a.css", "b.css"] :=
  names_of_written (by decide) (by decide)

theorem walked : files.walk rules directory =
    .ok [directory.child "a.css", directory.child "b.css"] := by
  refine walk_files root_there root_place names fun name member => ?_
  rcases List.mem_pair.1 member with rfl | rfl
  · exact ⟨[], rfl⟩
  · exact ⟨Utf8.ofString "@use './a.css'", rfl⟩

theorem listed : repository.sourceFiles =
    .ok [(directory.child "a.css", "src/../src/a.css"),
      (directory.child "b.css", "src/../src/b.css")] := by
  have named : (repository.settings.value .sourceRoots).elements = .ok [.str "src/../src"] := rfl
  have searched := Repository.search_root_of_name named root_there
  exact Repository.source_files_of_root searched rfl walked

theorem used_imports :
    repository.imports (directory.child "a.css") "src/../src/a.css" = .ok [] := by
  have entry : files.entryAt (directory.child "a.css") = .ok (.file []) :=
    entry_of_located used_place rfl
  have text : repository.text? (directory.child "a.css") = .ok (some "") :=
    Repository.text_of_file entry rfl rfl rfl
  have none : repository.extractor.extract "" "src/../src/a.css" = [] := by decide +kernel
  exact Repository.imports_of_text text none

theorem using_imports :
    repository.imports (directory.child "b.css") "src/../src/b.css" = .ok ["src/a.css"] := by
  have entry : files.entryAt (directory.child "b.css") =
      .ok (.file (Utf8.ofString "@use './a.css'")) := entry_of_located using_place rfl
  have decoded : FileSystem.decodeFirst .ordinary (Utf8.ofString "@use './a.css'")
      [.str "utf-8", .str "latin-1"] = .ok (some "@use './a.css'".toList) := by
    have named : Encoding.ofName? "utf-8" = some .utf8 := by decide
    exact Repository.decoded_by_first (by decide) (by decide +kernel) named (by decide +kernel) _
  have text : repository.text? (directory.child "b.css") = .ok (some "@use './a.css'") := by
    rw [Repository.text_of_file entry rfl rfl decoded, String.ofList_toList]
  have specifiers : repository.extractor.extract "@use './a.css'" "src/../src/b.css" =
      ["./a.css"] := by decide +kernel
  have resolved : repository.resolver.resolve "./a.css" "src/../src/b.css" =
      .ok (some "src/a.css") := by
    apply Repository.resolve_of_file
    · decide
    · decide
    · exact is_file_iff.2 ⟨_, entry_of_located used_place_inside rfl⟩
  rw [Repository.imports_of_text text specifiers, Repository.resolveAll, resolved]
  rfl

theorem scanned : repository.scannedImports =
    .ok [("src/../src/a.css", []), ("src/../src/b.css", ["src/a.css"])] := by
  refine Repository.scanned_imports_ok_iff.2 ⟨_, listed, ?_⟩
  rw [List.mapM_cons, List.mapM_cons, Repository.scan, Repository.scan, used_imports,
    using_imports]
  rfl

/-- Both sheets have changed, and one of them is affected under another path. -/
theorem changed_file_is_affected :
    Repository.ofSettings files ⟨.root, []⟩ settings = .ok repository ∧
      ∃ crawl, repository.crawl ["src/a.css", "src/b.css"] 1 = .ok crawl ∧
        "src/../src/b.css" ∈ crawl.found.affected ∧
        "src/b.css" ∈ seeds ["src/a.css", "src/b.css"] ∧
        repository.SameFile "src/../src/b.css" "src/b.css" := by
  have short : Value.hasShortText (1 : Nat) = true := by decide
  obtain ⟨crawl, crawled, searched⟩ := crawl_of_scan scanned ["src/a.css", "src/b.css"] short
  have affected : "src/../src/b.css" ∈ crawl.found.affected := by
    rw [searched.affected_eq]
    decide
  exact ⟨rfl, crawl, crawled, affected, by decide, _, using_place, using_place_inside⟩

end RoundaboutRoot

end ImportImpact
