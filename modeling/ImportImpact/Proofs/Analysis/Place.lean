import ImportImpact.Proofs.Analysis.Relocated
import ImportImpact.Proofs.FileSystem.Planted

/-!
The place of a repository makes no difference to what an analysis finds, if its settings look for
nothing outside. Names above the root are never compared with those to ignore; but a spelling that
leads out comes back in by the name of the place, and a deep place leaves less room for paths.
-/

namespace ImportImpact

open FileSystem ImportImpact.Path Outcome Written

section Analysis

variable {first second : FileSystem} {root other : Path} {here there : Location}
  {settings : Settings}

theorem Request.stages_relocated (moved : Relocated first second here there)
    (portable : settings.Portable first here there) {changed : List ChangedFile}
    (normal : ∀ file ∈ changed, NormalForm file.path.toList)
    (inside : ∀ file ∈ changed, Inside file.path) (options : Options) :
    (runStages ⟨changed, options, ⟨.root, there⟩⟩ second settings).forwardEdges =
        (runStages ⟨changed, options, ⟨.root, here⟩⟩ first settings).forwardEdges ∧
      (runStages ⟨changed, options, ⟨.root, there⟩⟩ second settings).crawl? =
        (runStages ⟨changed, options, ⟨.root, here⟩⟩ first settings).crawl? := by
  cases extracted : Extractor.ofSettings settings with
  | error fault =>
      have failed (system : FileSystem) (root : Path) :
          Repository.ofSettings system root settings = .error fault := by
        rw [Repository.ofSettings, extracted]
        rfl
      simp only [runStages, failed, Stages.forwardEdges, Stages.crawl?]
      exact ⟨rfl, rfl⟩
  | ok extractor =>
      have made (system : FileSystem) (root : Path) :
          Repository.ofSettings system root settings = .ok ⟨system, root, settings, extractor⟩ := by
        rw [Repository.ofSettings, extracted]
        rfl
      have paths : ∀ path ∈ changed.map ChangedFile.path,
          NormalForm path.toList ∧ Inside path := by
        intro path member
        obtain ⟨file, listed, rfl⟩ := List.mem_map.1 member
        exact ⟨normal file listed, inside file listed⟩
      have placed : (⟨first, ⟨.root, here⟩, settings, extractor⟩ : Repository).root =
          ⟨.root, here⟩ := rfl
      have forward := Repository.forward_edges_relocated moved placed portable
        (fun path member => (paths path member).1) fun path member => (paths path member).2
      have crawl := Repository.crawl_relocated moved placed portable
        (changed.map ChangedFile.path) options.maxDepth
      simp only [runStages, made, Stages.forwardEdges, Stages.crawl?]
      dsimp only [Except.bind, Repository.relocate, Request.paths] at forward crawl ⊢
      refine ⟨by rw [forward], ?_⟩
      split
      · exact crawl
      · rfl

/-- What an analysis finds does not depend on the place of the repository. -/
theorem analysis_relocated (moved : Relocated first second here there)
    (settled : first.settle root = .ok ⟨.root, here⟩)
    (settledToo : second.settle other = .ok ⟨.root, there⟩)
    (portable : settings.Portable first here there) (changes : Changes)
    (within : ∀ changed, changes.normalized = .ok changed →
      ∀ file ∈ changed, (Path.parse file.path).names.head? ≠ some "..")
    (options : GivenOptions) (errors : List String) :
    (analyze second settings changes other options errors).edges =
        (analyze first settings changes root options errors).edges ∧
      (analyze second settings changes other options errors).affected =
        (analyze first settings changes root options errors).affected ∧
      (analyze second settings changes other options errors).stats =
        (analyze first settings changes root options errors).stats := by
  rw [analyze, analyze, Run.ofInput, Run.ofInput, Request.ofInput, Request.ofInput, settled,
    settledToo]
  cases normal : changes.normalized with
  | error fault => exact ⟨rfl, rfl, rfl⟩
  | ok changed =>
      cases options.complete settings with
      | error fault => exact ⟨rfl, rfl, rfl⟩
      | ok given =>
          have canonical := Changes.normalized_canonical normal
          have seeded : ∀ file ∈ changed, file.path ∈ seeds (changed.map ChangedFile.path) := by
            intro file member
            rw [seeds_of_canonical canonical]
            exact List.mem_map_of_mem member
          obtain ⟨forward, crawl⟩ := Request.stages_relocated moved portable
            (fun file member => normal_of_seed (seeded file member))
            (fun file member => inside_of_start (normal_of_seed (seeded file member))
              (within changed normal file member)) given
          simp only [bind, Except.bind, pure, Except.pure, Run.findings, Stages.findings, forward,
            crawl]
          exact ⟨rfl, rfl, rfl⟩

end Analysis

namespace BelowIgnoredNames

def sheets : List (Location × Entry) :=
  [(["src"], .directory), (["src", "a.css"], .file []),
    (["src", "b.css"], .file (Utf8.ofString "@use './a.css'"))]

def here : Location := ["repo"]

def there : Location := ["build", "node_modules"]

def changes : Changes := .list [.record (.ofPath "src/a.css")]

def findings (place : Location) : Findings :=
  analyze (planted place sheets) .initial changes ⟨.root, place⟩ (.record ⟨.bool true, 1⟩) []

theorem here_reachable : Reachable here := ⟨by decide, by decide, by decide⟩

theorem there_reachable : Reachable there := ⟨by decide, by decide, by decide⟩

theorem plain : ∀ entry ∈ sheets, ∀ target, entry.2 ≠ .link target := by
  simp [sheets]

theorem fits_alike {names : List String} (short : slashedSize names ≤ 100) :
    FitsAlike here there names := by
  have room (place : Location) (filled : place ≠ []) (small : slashedSize place ≤ 100) :
      (text ⟨.root, place ++ names⟩).utf8ByteSize < longestPath := by
    rw [text_size_of_root (by simp [filled]), slashed_size_append, longestPath]
    omega
  exact iff_of_true (room here (by decide) (by decide)) (room there (by decide) (by decide))

theorem relocated : Relocated (planted here sheets) (planted there sheets) here there := by
  refine planted_relocated here_reachable there_reachable plain fun names present => ?_
  obtain ⟨entry, member, same⟩ :=
    List.lookup_isSome_iff.1 (Option.isSome_iff_ne_none.2 present)
  obtain rfl := eq_of_beq same
  apply fits_alike
  revert entry
  decide

theorem portable : Settings.initial.Portable (planted here sheets) here there where
  spelled := Repository.initial_tries.spells.mono fun _ inside =>
    Repository.stays_alike_of_inside relocated inside
  apart := Or.inl Repository.initial_tries.all_texts
  walked := by
    intro names listed name member
    cases listed
    have short : ∀ name ∈ ["src", "frontend", "backend", "app", "lib"],
        (Path.parse name).anchor = .relative ∧ ".." ∉ (Path.parse name).names ∧
          slashedSize (Path.parse name).names ≤ 100 := by decide
    obtain ⟨relative, down, small⟩ := short name (by simpa using member)
    exact ⟨relative, down, fits_alike small⟩

/-- The sheets are linked the same below names that a walk ignores. -/
theorem found_below_ignored_names :
    Relocated (planted here sheets) (planted there sheets) here there ∧
      (planted here sheets).settle ⟨.root, here⟩ = .ok ⟨.root, here⟩ ∧
      (planted there sheets).settle ⟨.root, there⟩ = .ok ⟨.root, there⟩ ∧
      Settings.initial.Portable (planted here sheets) here there ∧
      (∀ changed, changes.normalized = .ok changed →
        ∀ file ∈ changed, (Path.parse file.path).names.head? ≠ some "..") ∧
      (findings there).edges = (findings here).edges ∧
      (findings there).affected = (findings here).affected ∧
      (findings there).stats = (findings here).stats := by
  have settled := planted_settled here_reachable plain
  have settledToo := planted_settled there_reachable plain
  have within : ∀ changed, changes.normalized = .ok changed →
      ∀ file ∈ changed, (Path.parse file.path).names.head? ≠ some ".." := by
    intro changed normal file member
    have only : changes.normalized = .ok [.ofPath "src/a.css"] := rfl
    cases only.symm.trans normal
    rw [List.mem_singleton.1 member]
    decide
  exact ⟨relocated, settled, settledToo, portable, within,
    analysis_relocated relocated settled settledToo portable changes within _ _⟩

end BelowIgnoredNames

namespace PlaceShows

def settings (extensions : List Value) : Settings :=
  PairOfSheets.settings.set .resolveExtensions (.list extensions)

section Sheets

variable (tree : List (Location × Entry)) (extensions : List Value)

def repository (place : Location) : Repository where
  system := planted place tree
  root := ⟨.root, place⟩
  settings := settings extensions
  extractor := PairOfSheets.repository.extractor

def edges (changes : Changes) (options : Options) (place : Location) : List Edge :=
  (analyze (planted place tree) (settings extensions) changes ⟨.root, place⟩ (.record options)
    []).edges

variable {tree} {extensions} {place : Location}

theorem sheet_entry (reachable : Reachable place) (room : slashedSize place + 100 < longestPath)
    {name : String} {content : List UInt8} (named : isName name = true)
    (short : slashedSize [name] ≤ 100) (there : tree.lookup [name] = some (.file content)) :
    (repository tree extensions place).system.entryAt ⟨.root, place ++ [name]⟩ =
      .ok (.file content) := by
  have size : name.utf8ByteSize ≤ longestName := by
    simp only [slashedSize] at short
    unfold longestName
    omega
  exact planted_file reachable named size there (by omega)

theorem sheet_imports {name written : String} {specifiers : List String}
    (entry : (repository tree extensions place).system.entryAt ⟨.root, place ++ [name]⟩ =
      .ok (.file (Utf8.ofString written)))
    (small : exceeds (Utf8.ofString written).length (.int 5) = .ok false)
    (decoded : decodeFirst .ordinary (Utf8.ofString written) [.str "ascii", .str "latin-1"] =
      .ok (some written.toList))
    (specified : PairOfSheets.repository.extractor.extract written name = specifiers) :
    (repository tree extensions place).imports ⟨.root, place ++ [name]⟩ name =
      Repository.resolveAll (repository tree extensions place).resolver name specifiers := by
  have text : (repository tree extensions place).text? ⟨.root, place ++ [name]⟩ =
      .ok (some written) := by
    rw [Repository.text_of_file entry small rfl decoded, String.ofList_toList]
  exact Repository.imports_of_text text specified

theorem edges_eq (reachable : Reachable place)
    (plain : ∀ entry ∈ tree, ∀ target, entry.2 ≠ .link target) {changes : Changes}
    {changed : List ChangedFile} (normal : changes.normalized = .ok changed) (options : Options) :
    edges tree extensions changes options place =
      ((⟨(repository tree extensions place).forwardEdges (changed.map ChangedFile.path),
        if options.includeReverse.truthy then
          some ((repository tree extensions place).crawl (changed.map ChangedFile.path)
            options.maxDepth)
        else none⟩ : Stages).findings ⟨changed, options, ⟨.root, place⟩⟩ true).edges := by
  have accepted : Request.ofInput (planted place tree) (settings extensions) changes
      ⟨.root, place⟩ (.record options) = .ok ⟨changed, options, ⟨.root, place⟩⟩ := by
    rw [Request.ofInput, normal, planted_settled reachable plain]
    rfl
  have made : Repository.ofSettings (planted place tree)
      (⟨changed, options, ⟨.root, place⟩⟩ : Request).root (settings extensions) =
        .ok (repository tree extensions place) := rfl
  rw [edges, analyze, Run.ofInput, accepted]
  dsimp only
  rw [Request.stages_of_repository made]
  rfl

theorem has_file_of_entry {path : String} {names : List String} {content : List UInt8}
    (joined : (⟨.root, place⟩ : Path).join path = ⟨.root, names⟩)
    (there : (repository tree extensions place).system.entryAt ⟨.root, names⟩ =
      .ok (.file content)) :
    (repository tree extensions place).resolver.hasFile path = true := by
  refine Resolver.has_file_iff.2 (is_file_iff.2 ⟨content, ?_⟩)
  change (repository tree extensions place).system.entryAt ((⟨.root, place⟩ : Path).join path) = _
  rw [joined, there]

theorem has_no_file_of_follow {path : String} {names : List String}
    (joined : (⟨.root, place⟩ : Path).join path = ⟨.root, names⟩)
    (lost : (planted place tree).follow true mostLinks [] names = .error .noEntry) :
    (repository tree extensions place).resolver.hasFile path = false := by
  rw [Bool.eq_false_iff]
  intro found
  obtain ⟨content, entry⟩ := is_file_iff.1 (Resolver.has_file_iff.1 found)
  obtain ⟨location, located, -⟩ := located_of_entry entry
  change (planted place tree).locate ((⟨.root, place⟩ : Path).join path) = _ at located
  rw [joined] at located
  cases (located_iff.1 located).2.symm.trans lost

end Sheets

def repo : Location := ["repo"]

def other : Location := ["other"]

def deep : Location := List.replicate 2045 "d"

theorem repo_reachable : Reachable repo := ⟨by decide, by decide, by decide⟩

theorem other_reachable : Reachable other := ⟨by decide, by decide, by decide⟩

theorem deep_size : slashedSize deep = 4090 := by
  have size : ∀ count, slashedSize (List.replicate count "d") = 2 * count := by
    intro count
    have once : "d".utf8ByteSize = 1 := by decide
    induction count with
    | zero => rfl
    | succ count induction =>
        rw [List.replicate_succ, slashedSize, induction, once]
        omega
  exact size 2045

theorem deep_filled : deep ≠ [] := by
  intro empty
  have size := deep_size
  rw [empty] at size
  cases size

theorem deep_reachable : Reachable deep where
  named name member := by
    rw [List.eq_of_mem_replicate member]
    decide
  short name member := by
    rw [List.eq_of_mem_replicate member]
    decide
  fits := by
    rw [text_size_of_root deep_filled, deep_size]
    decide

section Folded

/-- A sheet that uses another one without its suffix, and a folder of the same name. -/
def folded : List (Location × Entry) :=
  [(["x.css"], .file (Utf8.ofString "@use './a'")), (["a"], .directory), (["a.css"], .file [])]

def bothChanged : Changes := .list [.record (.ofPath "x.css"), .record (.ofPath "a.css")]

def linksOnly : Options := ⟨.bool false, 1⟩

/-- From a folder this leads to a repository of this name, and to a sheet in it. -/
def outside : String := "/../../repo/x.css"

theorem folded_plain : ∀ entry ∈ folded, ∀ target, entry.2 ≠ .link target := by
  simp [folded]

theorem both_normal : bothChanged.normalized = .ok [.ofPath "x.css", .ofPath "a.css"] := rfl

variable {place : Location} {extensions : List Value}

theorem edges_of_targets (reachable : Reachable place) {targets : List String}
    (user : (repository folded extensions place).imports ⟨.root, place ++ ["x.css"]⟩ "x.css" =
      .ok targets)
    (used : (repository folded extensions place).imports ⟨.root, place ++ ["a.css"]⟩ "a.css" =
      .ok []) :
    edges folded extensions bothChanged linksOnly place =
      (Assembly.make true ((targets.filter fun target =>
        ["x.css", "a.css"].contains target && target ≠ "x.css").map fun target => ⟨"x.css", target⟩)
          .none ["x.css", "a.css"]).edges := by
  have style : PairOfSheets.repository.extractor.categorize "x.css" = some .style := by decide
  have styleToo : PairOfSheets.repository.extractor.categorize "a.css" = some .style := by decide
  have extracts : (repository folded extensions place).extractor =
      PairOfSheets.repository.extractor := rfl
  have joins : (repository folded extensions place).root.join "x.css" =
    ⟨.root, place ++ ["x.css"]⟩ := rfl
  have joinsToo : (repository folded extensions place).root.join "a.css" =
    ⟨.root, place ++ ["a.css"]⟩ := rfl
  have linked : (repository folded extensions place).forwardEdges ["x.css", "a.css"] =
      .ok ((targets.filter fun target => ["x.css", "a.css"].contains target &&
        target ≠ "x.css").map fun target => ⟨"x.css", target⟩) := by
    rw [Repository.forwardEdges, List.mapM_cons, List.mapM_cons, Repository.forwardEdgesOf,
      Repository.forwardEdgesOf, extracts, style, styleToo]
    dsimp only
    rw [joins, joinsToo, user, used]
    exact congrArg Except.ok (List.append_nil _)
  rw [edges_eq reachable folded_plain both_normal]
  change (Stages.findings ⟨(repository folded extensions place).forwardEdges ["x.css", "a.css"],
    none⟩ _ _).edges = _
  rw [linked]
  rfl

theorem edges_of_first (reachable : Reachable place) (room : slashedSize place + 100 < longestPath)
    {target : String}
    (first : (repository folded extensions place).resolver.firstFile (Resolver.appended "a")
      extensions = .ok (some target)) :
    edges folded extensions bothChanged linksOnly place =
      (Assembly.make true (([target].filter fun target =>
        ["x.css", "a.css"].contains target && target ≠ "x.css").map fun target => ⟨"x.css", target⟩)
          .none ["x.css", "a.css"]).edges := by
  have specified : PairOfSheets.repository.extractor.extract "@use './a'" "x.css" = ["./a"] := by
    decide +kernel
  have nothing : PairOfSheets.repository.extractor.extract "" "a.css" = [] := by decide +kernel
  have resolved : (repository folded extensions place).resolver.resolve "./a" "x.css" =
      .ok (some target) := by
    rw [Resolver.resolve_without_suffix (by decide : _ = some "a") (by decide) rfl, first]
    rfl
  apply edges_of_targets reachable
  · rw [sheet_imports (sheet_entry reachable room (by decide) (by decide) rfl) rfl rfl specified,
      Repository.resolveAll, resolved]
    rfl
  · exact sheet_imports (sheet_entry reachable room (by decide) (by decide) rfl) rfl rfl nothing

theorem suffix_found (reachable : Reachable place)
    (room : slashedSize place + 100 < longestPath) :
    (repository folded extensions place).resolver.firstFile (Resolver.appended "a")
      [.str ".css"] = .ok (some "a.css") :=
  Resolver.first_file_of_file rfl (has_file_of_entry rfl
    (sheet_entry reachable room (by decide) (by decide) (rfl : folded.lookup ["a.css"] = _))) []

theorem other_edges_of_suffix :
    edges folded [.str ".css"] bothChanged linksOnly other = [⟨"x.css", "a.css"⟩] :=
  (edges_of_first other_reachable (by decide) (suffix_found other_reachable (by decide))).trans
    (by decide)

theorem other_edges_of_outside : edges folded [.str outside, .str ".css"] bothChanged linksOnly
    other = [⟨"x.css", "a.css"⟩] := by
  have top : (planted other folded).lookup? ["other"] = some .directory := rfl
  have folder : (planted other folded).lookup? ["other", "a"] = some .directory := rfl
  have lost : (planted other folded).follow true mostLinks []
      ["other", "a", "..", "..", "repo", "x.css"] = .error .noEntry := by
    rw [follow_name rfl (by decide) (by decide) top (by simp)]
    change (planted other folded).follow true mostLinks ["other"]
      ["a", "..", "..", "repo", "x.css"] = _
    rw [follow_name rfl (by decide) (by decide) folder (by simp), follow_up rfl]
    change (planted other folded).follow true mostLinks ["other"] ["..", "repo", "x.css"] = _
    rw [follow_up rfl]
    change (planted other folded).follow true mostLinks [] ["repo", "x.css"] = _
    rw [follow_downward (planted_no_links folded_plain) ⟨by decide, by decide, by decide⟩]
    rfl
  have missing : (repository folded [.str outside, .str ".css"] other).resolver.hasFile
      "a/../../repo/x.css" = false := has_no_file_of_follow rfl lost
  have first : (repository folded [.str outside, .str ".css"] other).resolver.firstFile
      (Resolver.appended "a") [.str outside, .str ".css"] = .ok (some "a.css") := by
    rw [Resolver.first_file_of_missing rfl missing]
    exact suffix_found other_reachable (by decide)
  exact (edges_of_first other_reachable (by decide) first).trans (by decide)

theorem repo_edges_of_outside :
    edges folded [.str outside, .str ".css"] bothChanged linksOnly repo = [] := by
  have top : (planted repo folded).lookup? ["repo"] = some .directory := rfl
  have folder : (planted repo folded).lookup? ["repo", "a"] = some .directory := rfl
  have there : (planted repo folded).lookup? ["repo", "x.css"] =
    some (.file (Utf8.ofString "@use './a'")) := rfl
  have followed : (planted repo folded).follow true mostLinks []
      ["repo", "a", "..", "..", "repo", "x.css"] = .ok (.entry ["repo", "x.css"]) := by
    rw [follow_name rfl (by decide) (by decide) top (by simp)]
    change (planted repo folded).follow true mostLinks ["repo"]
      ["a", "..", "..", "repo", "x.css"] = _
    rw [follow_name rfl (by decide) (by decide) folder (by simp), follow_up rfl]
    change (planted repo folded).follow true mostLinks ["repo"] ["..", "repo", "x.css"] = _
    rw [follow_up rfl]
    change (planted repo folded).follow true mostLinks [] ["repo", "x.css"] = _
    rw [follow_name rfl (by decide) (by decide) top (by simp)]
    change (planted repo folded).follow true mostLinks ["repo"] ["x.css"] = _
    rw [follow_name rfl (by decide) (by decide) there (by simp)]
    exact follow_nothing true mostLinks _
  have located : (planted repo folded).locate
      ⟨.root, ["repo", "a", "..", "..", "repo", "x.css"]⟩ = .ok ["repo", "x.css"] :=
    located_iff.2 ⟨by decide, followed⟩
  have found := entry_of_located located there
  exact (edges_of_first repo_reachable (by decide)
    (Resolver.first_file_of_file rfl (has_file_of_entry rfl found) _)).trans (by decide)

theorem deep_edges : edges folded [.str ".css"] bothChanged linksOnly deep = [] := by
  have unread : ∀ names, 6 ≤ slashedSize names →
      (repository folded [.str ".css"] deep).text? ⟨.root, deep ++ names⟩ = .ok none := by
    intro names long
    apply Repository.text_of_no_file
    intro content entry
    obtain ⟨location, located, -⟩ := located_of_entry entry
    have fits := (located_iff.1 located).1
    rw [text_size_of_root (by simp [deep_filled]), slashed_size_append, deep_size,
      longestPath] at fits
    omega
  have nothing : ∀ name, 6 ≤ slashedSize [name] →
      (repository folded [.str ".css"] deep).imports ⟨.root, deep ++ [name]⟩ name = .ok [] := by
    intro name long
    rw [Repository.imports, unread _ long]
    rfl
  exact (edges_of_targets deep_reachable (nothing _ (by decide)) (nothing _ (by decide))).trans
    (by decide)

end Folded

section Crossed

/-- A sheet whose name reads as a path from the top, and two sheets that use each other. -/
def crossed : List (Location × Entry) :=
  [(["\\repo\\x.css"], .file (Utf8.ofString "@use './b'")), (["b.css"], .file []),
    (["y.css"], .file (Utf8.ofString "@use './b.css'"))]

def withNumber : List Value := [.str ".css", .int 5]

def usedChanged : Changes := .list [.record (.ofPath "b.css")]

def withImporters : Options := ⟨.bool true, 1⟩

theorem crossed_plain : ∀ entry ∈ crossed, ∀ target, entry.2 ≠ .link target := by
  simp [crossed]

theorem used_normal : usedChanged.normalized = .ok [.ofPath "b.css"] := rfl

variable {place : Location} (reachable : Reachable place)
  (room : slashedSize place + 100 < longestPath)

include reachable

theorem listed (names : (planted place crossed).names place =
    ["\\repo\\x.css", "b.css", "y.css"]) :
    (repository crossed withNumber place).sourceFiles =
      .ok ([["\\repo\\x.css"], ["b.css"], ["y.css"]].map
        fun names => (⟨.root, place ++ names⟩, text ⟨.relative, names⟩)) := by
  have located : (planted place crossed).locate ⟨.root, place⟩ = .ok place :=
    planted_located reachable
  have there := directory_of_located located planted_top
  have walked : (planted place crossed).walk PairOfSheets.rules ⟨.root, place⟩ =
      .ok ([["\\repo\\x.css"], ["b.css"], ["y.css"]].map
        fun names => ⟨.root, place ++ names⟩) := by
    refine walk_files there located names fun name member => ?_
    rw [planted_below (by simp)]
    simp only [List.mem_cons, List.not_mem_nil, or_false] at member
    rcases member with rfl | rfl | rfl
    · exact ⟨_, rfl⟩
    · exact ⟨_, rfl⟩
    · exact ⟨_, rfl⟩
  have searched : (repository crossed withNumber place).searchRoots = .ok [⟨.root, place⟩] := by
    change ((planted place crossed).isDirectory ⟨.root, place⟩ >>= fun there =>
      if there then pure [⟨.root, place⟩] else pure [] : Outcome (List Path)) = _
    rw [there]
    rfl
  rw [Repository.source_files_of_root searched rfl walked]
  exact congrArg Except.ok (Repository.files_below place _)

include room

theorem used_imports : (repository crossed withNumber place).imports ⟨.root, place ++ ["b.css"]⟩
    "b.css" = .ok [] := by
  have nothing : PairOfSheets.repository.extractor.extract "" "b.css" = [] := by decide +kernel
  exact sheet_imports (sheet_entry reachable room (by decide) (by decide) rfl) rfl rfl nothing

theorem using_imports : (repository crossed withNumber place).imports ⟨.root, place ++ ["y.css"]⟩
    "y.css" = .ok ["b.css"] := by
  have resolved : (repository crossed withNumber place).resolver.resolve "./b.css" "y.css" =
      .ok (some "b.css") := by
    apply Repository.resolve_of_file
    · decide
    · decide
    · exact Resolver.has_file_iff.1 (has_file_of_entry rfl
        (sheet_entry reachable room (by decide) (by decide) (rfl : crossed.lookup ["b.css"] = _)))
  have specified : PairOfSheets.repository.extractor.extract "@use './b.css'" "y.css" =
      ["./b.css"] := by decide +kernel
  rw [sheet_imports (sheet_entry reachable room (by decide) (by decide) rfl) rfl rfl specified,
    Repository.resolveAll, resolved]
  rfl

theorem crossing_imports : (repository crossed withNumber place).imports
    ⟨.root, place ++ ["\\repo\\x.css"]⟩ "\\repo\\x.css" =
      (repository crossed withNumber place).resolver.resolve "./b" "\\repo\\x.css" >>=
        fun target => pure target.toList := by
  have specified : PairOfSheets.repository.extractor.extract "@use './b'" "\\repo\\x.css" =
      ["./b"] := by decide +kernel
  rw [sheet_imports (sheet_entry reachable room (by decide) (by decide) rfl) rfl rfl specified,
    Repository.resolveAll]
  cases (repository crossed withNumber place).resolver.resolve "./b" "\\repo\\x.css" with
  | error fault => rfl
  | ok target => exact congrArg Except.ok (List.append_nil _)

theorem scanned (names : (planted place crossed).names place =
    ["\\repo\\x.css", "b.css", "y.css"]) :
    (repository crossed withNumber place).scannedImports =
      ((repository crossed withNumber place).resolver.resolve "./b" "\\repo\\x.css").map
        fun target => [("\\repo\\x.css", target.toList.filter (· ≠ "\\repo\\x.css")),
          ("b.css", []), ("y.css", ["b.css"])] := by
  rw [Repository.scanned_imports_of_files (listed reachable names)]
  change List.mapM (repository crossed withNumber place).scan
    [(⟨.root, place ++ ["\\repo\\x.css"]⟩, "\\repo\\x.css"),
      (⟨.root, place ++ ["b.css"]⟩, "b.css"), (⟨.root, place ++ ["y.css"]⟩, "y.css")] = _
  rw [List.mapM_cons, List.mapM_cons, List.mapM_cons, Repository.scan, Repository.scan,
    Repository.scan, crossing_imports reachable room, used_imports reachable room,
    using_imports reachable room]
  cases (repository crossed withNumber place).resolver.resolve "./b" "\\repo\\x.css" with
  | error fault => rfl
  | ok target => rfl

theorem edges_of_crawl : edges crossed withNumber usedChanged withImporters place =
    (Assembly.make true []
      ((((repository crossed withNumber place).crawl ["b.css"] 1).toOption.map
        Crawl.findings).getD .none) ["b.css"]).edges := by
  have style : (repository crossed withNumber place).extractor.categorize "b.css" =
      some .style := by
    change PairOfSheets.repository.extractor.categorize "b.css" = some .style
    decide
  have joins : (repository crossed withNumber place).root.join "b.css" =
    ⟨.root, place ++ ["b.css"]⟩ := rfl
  have linked : (repository crossed withNumber place).forwardEdges ["b.css"] = .ok [] := by
    rw [Repository.forwardEdges, List.mapM_cons, Repository.forwardEdgesOf, style]
    dsimp only
    rw [joins, used_imports reachable room]
    rfl
  rw [edges_eq reachable crossed_plain used_normal]
  change (Stages.findings ⟨(repository crossed withNumber place).forwardEdges ["b.css"],
    some ((repository crossed withNumber place).crawl ["b.css"] 1)⟩ _ _).edges = _
  rw [linked]
  rfl

omit reachable room

theorem repo_edges_of_number :
    ⟨"y.css", "b.css"⟩ ∈ edges crossed withNumber usedChanged withImporters repo := by
  have names : (planted repo crossed).names repo = ["\\repo\\x.css", "b.css", "y.css"] :=
    names_of_written (by decide) (by decide)
  have found : (repository crossed withNumber repo).resolver.hasFile "/repo/b.css" = true :=
    has_file_of_entry rfl (sheet_entry repo_reachable (by decide) (by decide) (by decide)
      (rfl : crossed.lookup ["b.css"] = _))
  have first : (repository crossed withNumber repo).resolver.firstFile
      (Resolver.appended "/repo/b") withNumber = .ok (some "/repo/b.css") :=
    Resolver.first_file_of_file rfl found _
  have scan := scanned repo_reachable (by decide) names
  rw [Resolver.resolve_without_suffix (by decide : _ = some "/repo/b") (by decide) rfl,
    first] at scan
  have short : Value.hasShortText (1 : Nat) = true := by decide
  obtain ⟨crawl, crawled, searched⟩ := crawl_of_scan scan ["b.css"] short
  rw [edges_of_crawl repo_reachable (by decide), crawled]
  refine (mem_assembled ["b.css"]).2 (Or.inr ?_)
  change _ ∈ crawl.found.edges
  rw [searched.edges_eq]
  decide

theorem other_edges_of_number :
    edges crossed withNumber usedChanged withImporters other = [] := by
  have names : (planted other crossed).names other = ["\\repo\\x.css", "b.css", "y.css"] :=
    names_of_written (by decide) (by decide)
  have lost : (planted other crossed).follow true mostLinks [] ["repo", "b.css"] =
      .error .noEntry := by
    rw [follow_downward (planted_no_links crossed_plain) ⟨by decide, by decide, by decide⟩]
    rfl
  have missing : (repository crossed withNumber other).resolver.hasFile "/repo/b.css" = false :=
    has_no_file_of_follow rfl lost
  have failed : (repository crossed withNumber other).resolver.firstFile
      (Resolver.appended "/repo/b") withNumber = Value.misused (.notJoinable "str" "int") :=
    Resolver.first_file_of_missing rfl missing _
  have scan := scanned other_reachable (by decide) names
  rw [Resolver.resolve_without_suffix (by decide : _ = some "/repo/b") (by decide) rfl,
    failed] at scan
  have nothing : ((repository crossed withNumber other).crawl ["b.css"] 1).toOption = none := by
    have busy : seeds ["b.css"] = ["b.css"] := by decide
    rw [Repository.crawl, busy, scan]
    rfl
  rw [edges_of_crawl other_reachable (by decide), nothing]
  rfl

end Crossed

/-- Trees without links that give other edges in another place: where the name of the place is
tried, where there is no room for the paths below it, and where a sheet's path starts with a
backslash. -/
theorem place_shows :
    ((∀ entry ∈ folded, ∀ target, entry.2 ≠ .link target) ∧
      (∀ entry ∈ crossed, ∀ target, entry.2 ≠ .link target)) ∧
    (∀ extensions, ((settings extensions).value .sourceRoots).elements = .ok []) ∧
    (bothChanged.normalized = .ok [.ofPath "x.css", .ofPath "a.css"] ∧
      usedChanged.normalized = .ok [.ofPath "b.css"]) ∧
    (Reachable repo ∧ Reachable other ∧ Reachable deep) ∧
    (edges folded [.str outside, .str ".css"] bothChanged linksOnly other =
        [⟨"x.css", "a.css"⟩] ∧
      edges folded [.str outside, .str ".css"] bothChanged linksOnly repo = []) ∧
    (edges folded [.str ".css"] bothChanged linksOnly other = [⟨"x.css", "a.css"⟩] ∧
      edges folded [.str ".css"] bothChanged linksOnly deep = []) ∧
    ⟨"y.css", "b.css"⟩ ∈ edges crossed withNumber usedChanged withImporters repo ∧
      edges crossed withNumber usedChanged withImporters other = [] :=
  ⟨⟨folded_plain, crossed_plain⟩, fun _ => rfl, ⟨both_normal, used_normal⟩,
    ⟨repo_reachable, other_reachable, deep_reachable⟩,
    ⟨other_edges_of_outside, repo_edges_of_outside⟩, ⟨other_edges_of_suffix, deep_edges⟩,
    repo_edges_of_number, other_edges_of_number⟩

end PlaceShows

end ImportImpact
