import ImportImpact.Proofs.Analysis.ImportIndex
import ImportImpact.Proofs.Analysis.OneName
import ImportImpact.Proofs.FileSystem.PlainWalk

/-!
Two tests of one suffix. A walk asks for the suffix of an entry's name, and an extractor for that of
a whole path; both read what stands behind the last slash, so they agree on paths that end with a
plain name. A scanned file therefore has a category, and a file with a category is of a kind that is
scanned.
-/

namespace ImportImpact

open FileSystem Written

section Suffix

variable {opening name : List Char}

def Written.Opens (opening : List Char) : Prop :=
  opening = [] ∨ ∃ before, opening = before ++ [slash]

theorem last_characters_append (opens : Opens opening) (plain : slash ∉ name) :
    lastCharacters (opening ++ name) = name := by
  rcases opens with rfl | ⟨before, rfl⟩
  · rw [List.nil_append, lastCharacters]
    cases cut : Text.splitLast? slash name with
    | none => rfl
    | some halves =>
        obtain ⟨shape, -⟩ := Text.split_last_iff.1 cut
        exact absurd (shape ▸ by simp) plain
  · have cut : Text.splitLast? slash (before ++ [slash] ++ name) = some (before, name) :=
      Text.split_last_iff.2 ⟨by simp, plain⟩
    rw [lastCharacters, cut]

theorem Written.Opens.separated (opens : Opens opening) : Opens (opening.map separated) := by
  rcases opens with rfl | ⟨before, rfl⟩
  · exact Or.inl rfl
  · exact Or.inr ⟨before.map Written.separated, List.map_append⟩

theorem opening_of_text (anchor : Anchor) (folders : List String) (name : String) :
    ∃ opening, Opens opening ∧
      (Path.text ⟨anchor, folders ++ [name]⟩).toList = opening ++ name.toList := by
  have written : Path.text ⟨anchor, folders ++ [name]⟩ =
      anchor.text ++ "/".intercalate (folders ++ [name]) := by
    cases anchor <;> cases folders <;> rfl
  rw [written, String.toList_append, Path.intercalated_eq_join, List.map_append, List.map_singleton]
  by_cases top : folders = []
  · refine ⟨anchor.text.toList, ?_, by rw [top]; rfl⟩
    cases anchor with
    | relative => exact Or.inl rfl
    | root => exact Or.inr ⟨[], rfl⟩
    | doubleRoot => exact Or.inr ⟨[slash], rfl⟩
  · refine ⟨_, Or.inr ⟨anchor.text.toList ++ Text.join slash (folders.map String.toList), rfl⟩, ?_⟩
    rw [slash, Text.join_concat '/' (by simpa using top)]
    simp

theorem suffix_of_text (anchor : Anchor) (folders : List String) {name : String}
    (plain : slash ∉ name.toList) (portable : '\\' ∉ name.toList) :
    suffix (withSlashes (Path.text ⟨anchor, folders ++ [name]⟩)) = suffix name := by
  obtain ⟨opening, opens, shape⟩ := opening_of_text anchor folders name
  have whole : (withSlashes (Path.text ⟨anchor, folders ++ [name]⟩)).toList =
      opening.map Written.separated ++ name.toList := by
    rw [withSlashes, String.toList_ofList, shape, List.map_append, separated_of_plain portable]
  have alone : lastCharacters name.toList = name.toList :=
    last_characters_append (Or.inl rfl) plain
  rw [suffix, suffix, suffixCharacters, suffixCharacters, whole,
    last_characters_append opens.separated plain, alone]

end Suffix

section Settings

variable {settings : Settings} {scripts styles texts : List String} {value : Value}

theorem suffixes_of_texts (listed : value.elements = .ok (texts.map .str)) :
    Extractor.suffixes value = .ok (texts.map Text.lowerCase) := by
  rw [Extractor.suffixes, listed]
  exact Value.lowered_texts texts

variable (scripted : (settings.value .scriptExtensions).elements = .ok (scripts.map .str))
  (styled : (settings.value .styleExtensions).elements = .ok (styles.map .str))

include scripted styled

theorem extractor_of_texts : Extractor.ofSettings settings = .ok
    ⟨scripts.map Text.lowerCase, styles.map Text.lowerCase, Form.scriptForms, Form.styleForms⟩ := by
  rw [Extractor.ofSettings, suffixes_of_texts scripted, suffixes_of_texts styled]
  rfl

theorem scan_extensions_of_texts :
    settings.scanExtensions = .ok ((scripts ++ styles).map .str) := by
  rw [Settings.scanExtensions, Value.members_of_texts scripted, Value.members_of_texts styled,
    List.map_append]
  rfl

omit scripted styled in
theorem suffixes_of_rules {ignored follow : Value} {rules : WalkRules}
    (made : WalkRules.ofValues (.list (texts.map .str)) ignored follow = .ok rules) :
    rules.suffixes = texts.map Text.lowerCase := by
  rw [rules_of_texts, Outcome.bind_ok_iff] at made
  obtain ⟨names, -, given⟩ := made
  cases given
  rfl

end Settings

theorem categorize_is_some_iff {extractor : Extractor} {path : String} :
    (extractor.categorize path).isSome = true ↔
      Text.lowerCase (suffix (withSlashes path)) ∈
        extractor.scriptSuffixes ++ extractor.styleSuffixes := by
  rw [Extractor.categorize, List.mem_append]
  split
  next style => simpa using Or.inr style
  next other =>
    split
    next script => simpa using Or.inl script
    next neither => simp_all

/-- The one test says of a name what the other says of a path that ends with it. -/
theorem wants_iff_categorized {rules : WalkRules} {extractor : Extractor}
    (same : rules.suffixes = extractor.scriptSuffixes ++ extractor.styleSuffixes) (anchor : Anchor)
    (folders : List String) {name : String} (plain : slash ∉ name.toList)
    (portable : '\\' ∉ name.toList) : rules.wants name = true ↔
      (extractor.categorize (Path.text ⟨anchor, folders ++ [name]⟩)).isSome = true := by
  rw [categorize_is_some_iff, suffix_of_text anchor folders plain portable, ← same,
    WalkRules.wants, List.contains_iff_mem]

theorem FileSystem.wanted_of_walk {system : FileSystem} {rules : WalkRules} {directory : Path}
    {places : List Path} (done : system.walk rules directory = .ok places) :
    ∀ place ∈ places, ∃ folder name, place = Path.child folder name ∧
      isName name = true ∧ rules.wants name = true := by
  cases asked : system.isDirectory directory with
  | error fault =>
      rw [walk_of_refused asked] at done
      cases done
  | ok there =>
      cases there with
      | false =>
          rw [walk_of_no_directory asked] at done
          cases done
          simp
      | true =>
          obtain ⟨start, located, kept⟩ := located_directory asked
          rw [walk_of_located _ asked located] at done
          split at done
          · cases done
            intro place member
            obtain ⟨folder, location, name, shape, -, -, wanted⟩ :=
              (survey_of_walk located kept).sound place member
            obtain ⟨target, content, leads, -⟩ := wanted.file
            exact ⟨folder, name, shape, name_of_mem_names leads.listed, wanted.suffix⟩
          · cases done

theorem Path.below_child {base folder : Path} {name path : String}
    (below : below? base (folder.child name) = some path) (apart : folder.child name ≠ base) :
    ∃ before, path = text ⟨.relative, before ++ [name]⟩ := by
  obtain ⟨names, shape, rfl⟩ := below_iff.1 below
  rcases List.eq_nil_or_concat' names with rfl | ⟨before, last, rfl⟩
  · rw [List.append_nil] at shape
    exact absurd shape apart
  · have cut : folder.child name = child ⟨base.anchor, base.names ++ before⟩ last := by
      rw [shape, child, List.append_assoc]
    rw [(child_inj.1 cut).2]
    exact ⟨before, rfl⟩

namespace Repository

variable {repository : Repository} {files : List (Path × String)} {file : Path × String}

theorem wanted_of_source_file (done : repository.sourceFiles = .ok files) (member : file ∈ files) :
    ∃ rules folder name, repository.walkRules = .ok rules ∧ file.1 = Path.child folder name ∧
      isName name = true ∧ rules.wants name = true := by
  obtain ⟨roots, places, -, gathered, rfl⟩ := source_files_shape done
  obtain ⟨place, kept, seen⟩ := List.mem_filterMap.1 member
  obtain ⟨path, -, rfl⟩ := Option.map_eq_some_iff.1 seen
  obtain ⟨directory, -, rules, walk, ruled, walked, found⟩ :=
    walk_of_place gathered (List.mem_eraseDups.1 kept)
  obtain ⟨folder, name, shape, named, wanted⟩ := wanted_of_walk walked place found
  exact ⟨rules, folder, name, ruled, shape, named, wanted⟩

/-- A scanned file has a category, under its place and under the name by which it is known; only a
root that is a file itself is known as a dot. -/
theorem categorized_of_source_file {rules : WalkRules} (ruled : repository.walkRules = .ok rules)
    (same : rules.suffixes =
      repository.extractor.scriptSuffixes ++ repository.extractor.styleSuffixes)
    (done : repository.sourceFiles = .ok files) (member : file ∈ files)
    (portable : '\\' ∉ file.1.lastName.toList) :
    (repository.extractor.categorize file.1.text).isSome = true ∧
      (file.1 ≠ repository.root → (repository.extractor.categorize file.2).isSome = true) := by
  obtain ⟨other, folder, name, ruledToo, shape, named, wanted⟩ := wanted_of_source_file done member
  cases ruled.symm.trans ruledToo
  obtain ⟨below, -⟩ := source_file_origin done member
  rw [shape] at below ⊢
  rw [shape, Path.last_name_child] at portable
  have plain : slash ∉ name.toList := (is_name_iff.1 named).1.2
  refine ⟨(wants_iff_categorized same folder.anchor folder.names plain portable).1 wanted, ?_⟩
  intro apart
  obtain ⟨before, written⟩ := Path.below_child below apart
  rw [written]
  exact (wants_iff_categorized same .relative before plain portable).1 wanted

end Repository

/-- With any extensions, the walk wants a name if and only if a path that ends with it has a
category; so all scanned files have one. -/
theorem suffix_tests_agree {settings : Settings} {scripts styles : List String}
    (scripted : (settings.value .scriptExtensions).elements = .ok (scripts.map .str))
    (styled : (settings.value .styleExtensions).elements = .ok (styles.map .str)) :
    settings.scanExtensions = .ok ((scripts ++ styles).map .str) ∧
      ∃ extractor, Extractor.ofSettings settings = .ok extractor ∧
        (∀ ignored follow names, ignored.members = .ok names → ∃ rules,
          WalkRules.ofValues (.list ((scripts ++ styles).map .str)) ignored follow = .ok rules ∧
            ∀ anchor folders name, '/' ∉ name.toList → '\\' ∉ name.toList →
              (rules.wants name = true ↔
                (extractor.categorize (Path.text ⟨anchor, folders ++ [name]⟩)).isSome = true)) ∧
        ∀ system root repository files,
          Repository.ofSettings system root settings = .ok repository →
          repository.sourceFiles = .ok files → ∀ file ∈ files, '\\' ∉ file.1.lastName.toList →
            (repository.extractor.categorize file.1.text).isSome = true ∧
              (file.1 ≠ root → (repository.extractor.categorize file.2).isSome = true) := by
  have extensions := scan_extensions_of_texts scripted styled
  have made := extractor_of_texts scripted styled
  refine ⟨extensions, _, made, ?_, ?_⟩
  · intro ignored follow names members
    rw [rules_of_texts, members]
    exact ⟨_, rfl, fun anchor folders name plain portable =>
      wants_iff_categorized List.map_append anchor folders plain portable⟩
  · intro system root repository files given done file member portable
    rw [Repository.ofSettings, made] at given
    cases given
    obtain ⟨rules, -, -, ruled, -⟩ := Repository.wanted_of_source_file done member
    have suffixes := ruled
    rw [Repository.walkRules, extensions] at suffixes
    exact Repository.categorized_of_source_file ruled
      ((suffixes_of_rules suffixes).trans List.map_append) done member portable

namespace RoundaboutRoot

theorem extractor_made : Extractor.ofSettings settings = .ok repository.extractor := rfl

theorem rules_made : WalkRules.ofValues (.list ((repository.extractor.scriptSuffixes ++
    repository.extractor.styleSuffixes).map .str)) (settings.value .ignoredDirectories)
      (.bool false) = .ok rules := rfl

/-- A name in upper case with two dots is wanted, so its path has a category; and so has the sheet
that the walk comes to in a roundabout way. -/
theorem roundabout_tests_agree :
    rules.wants "b.min.CSS" = true ∧
      (repository.extractor.categorize (Path.text ⟨.root, ["a.js", "b.min.CSS"]⟩)).isSome = true ∧
      (repository.extractor.categorize (directory.child "b.css").text).isSome = true ∧
      (repository.extractor.categorize "src/../src/b.css").isSome = true := by
  have scripted : (settings.value .scriptExtensions).elements =
      .ok (repository.extractor.scriptSuffixes.map .str) := rfl
  have styled : (settings.value .styleExtensions).elements =
      .ok (repository.extractor.styleSuffixes.map .str) := rfl
  obtain ⟨-, extractor, made, tests, scanned⟩ := suffix_tests_agree scripted styled
  cases extractor_made.symm.trans made
  obtain ⟨same, ruled, agree⟩ := tests (settings.value .ignoredDirectories) (.bool false)
    (["node_modules", ".git", "dist", "build", ".next", "coverage"].map .str) rfl
  cases rules_made.symm.trans ruled
  have wanted : rules.wants "b.min.CSS" = true := by decide
  obtain ⟨placed, known⟩ := scanned files ⟨.root, []⟩ repository _ rfl listed
    (directory.child "b.css", "src/../src/b.css") (by simp) (by decide)
  exact ⟨wanted, (agree .root ["a.js"] "b.min.CSS" (by decide) (by decide)).1 wanted, placed,
    known (by decide)⟩

end RoundaboutRoot

end ImportImpact
