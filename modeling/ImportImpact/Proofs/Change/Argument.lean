import ImportImpact.Change.Argument
import ImportImpact.Proofs.Change.Distinct
import ImportImpact.Proofs.Path.Written

/-!
Changed files named by one argument. The argument is cut at its last colon, if something stands
before the colon and no slash behind it; else it is a path as a whole. The cut is made before the
separators count as one: a slash behind the last colon makes the colon a part of the path, and a
backslash in its place does not.
-/

namespace ImportImpact.ChangedFile

open Written

/-- The argument is a path and a word on the change, with the last colon between them. -/
structure CutAt (argument path word : String) : Prop where
  shape : argument = path ++ ":" ++ word
  filled : path ≠ ""
  last : ':' ∉ word.toList
  unslashed : '/' ∉ word.toList

section Cut

variable {argument path word : String}

theorem cut_iff : CutAt argument path word ↔
    Text.splitLast? ':' argument.toList = some (path.toList, word.toList) ∧
      path.toList ≠ [] ∧ '/' ∉ word.toList := by
  have whole : argument = path ++ ":" ++ word ↔
      argument.toList = path.toList ++ ':' :: word.toList := by
    rw [← String.toList_inj]
    simp
  rw [Text.split_last_iff, ← whole, ne_eq, String.toList_eq_nil_iff]
  exact ⟨fun cut => ⟨⟨cut.shape, cut.last⟩, cut.filled, cut.unslashed⟩,
    fun ⟨⟨shape, last⟩, filled, unslashed⟩ => ⟨shape, filled, last, unslashed⟩⟩

theorem CutAt.unique {other rest : String} (cut : CutAt argument path word)
    (cutToo : CutAt argument other rest) : path = other ∧ word = rest := by
  have same := (cut_iff.1 cut).1.symm.trans (cut_iff.1 cutToo).1
  simpa only [Option.some.injEq, Prod.mk.injEq, String.toList_inj] using same

theorem of_argument_cut (cut : CutAt argument path word) :
    ofArgument argument = create path (.parse (.str word)) .null := by
  obtain ⟨split, filled, unslashed⟩ := cut_iff.1 cut
  have whole : ¬(path.toList.isEmpty || word.toList.contains '/') = true := by
    simpa using ⟨cut.filled, unslashed⟩
  simp only [ofArgument, split]
  rw [if_neg whole, String.ofList_toList, String.ofList_toList]

theorem of_argument_uncut (uncut : ∀ path word, ¬CutAt argument path word) :
    ofArgument argument = ofPath argument := by
  unfold ofArgument
  split
  · rfl
  next path word split =>
    have kept := mt cut_iff.2 (uncut (String.ofList path) (String.ofList word))
    simp only [String.toList_ofList, split, true_and] at kept
    rw [if_pos (by simpa [or_iff_not_imp_left] using kept)]

/-- A kind of change is read back behind any path, colons in the path or not. -/
theorem of_argument_named (filled : path ≠ "") (kind : ChangeKind) :
    ofArgument (path ++ ":" ++ kind.name) = create path kind .null := by
  have cut : CutAt (path ++ ":" ++ kind.name) path kind.name :=
    ⟨rfl, filled, by cases kind <;> decide, by cases kind <;> decide⟩
  rw [of_argument_cut cut, kind_of_name]

end Cut

section Separators

theorem separated_colon_iff {character : Char} : separated character = ':' ↔ character = ':' := by
  unfold separated
  split <;> simp [slash, *]

theorem slash_not_mem_separated_iff {text : List Char} :
    '/' ∉ text.map separated ↔ '/' ∉ text ∧ '\\' ∉ text := by
  have slashed (character : Char) : separated character = '/' ↔
      character = '/' ∨ character = '\\' := by
    unfold separated
    split <;> simp [slash, *]
  rw [← not_or, List.mem_map]
  refine not_congr ⟨?_, ?_⟩
  · rintro ⟨character, member, same⟩
    rcases (slashed character).1 same with rfl | rfl
    · exact Or.inl member
    · exact Or.inr member
  · rintro (member | member)
    · exact ⟨_, member, (slashed _).2 (Or.inl rfl)⟩
    · exact ⟨_, member, (slashed _).2 (Or.inr rfl)⟩

theorem repository_path_with_slashes (path : String) :
    repositoryPath (withSlashes path) = repositoryPath path := by
  have same : (withSlashes path).toList.map separated = path.toList.map separated := by
    rw [withSlashes, String.toList_ofList]
    exact separated_of_plain (backslash_not_mem_separated path.toList)
  rw [repositoryPath, repositoryPath, same]

theorem create_with_slashes (path : String) (kind : ChangeKind) (url : Value) :
    create (withSlashes path) kind url = create path kind url := by
  rw [create, repository_path_with_slashes, create]

/-- With slashes only, the argument is cut where it was, unless this puts a slash behind the
colon. -/
theorem cut_with_slashes_iff {argument path word : String} :
    CutAt (withSlashes argument) path word ↔
      ∃ before, CutAt argument before word ∧ '\\' ∉ word.toList ∧ path = withSlashes before := by
  constructor
  · intro cut
    obtain ⟨split, filled, unslashed⟩ := cut_iff.1 cut
    obtain ⟨shape, last⟩ := Text.split_last_iff.1 split
    rw [withSlashes, String.toList_ofList, List.map_eq_append_iff] at shape
    obtain ⟨before, rest, whole, here, behind⟩ := shape
    obtain ⟨colon, after, rfl, first, same⟩ := List.map_eq_cons_iff.1 behind
    obtain rfl := separated_colon_iff.1 first
    obtain ⟨-, plain⟩ := slash_not_mem_separated_iff.1 (same ▸ unslashed)
    rw [separated_of_plain plain] at same
    subst same
    refine ⟨String.ofList before, cut_iff.2 ⟨?_, ?_, unslashed⟩, plain, ?_⟩
    · rw [Text.split_last_iff, String.toList_ofList]
      exact ⟨whole, last⟩
    · rintro nothing
      rw [String.toList_ofList] at nothing
      exact filled (by rw [← here, nothing, List.map_nil])
    · rw [withSlashes, String.toList_ofList, here, String.ofList_toList]
  · rintro ⟨before, ⟨shape, filled, last, unslashed⟩, plain, rfl⟩
    refine ⟨?_, ?_, last, unslashed⟩
    · rw [shape, withSlashes, withSlashes, String.toList_append, String.toList_append,
        List.map_append, List.map_append, separated_of_plain plain]
      simp [separated, String.append_assoc]
    · simpa [withSlashes] using filled

end Separators

/-- An argument is read back: a path and the kind of change behind it. Slashes and backslashes are
read alike, except behind the colon at which the argument is cut: there a backslash is a part of the
word on the change, and with a slash in its place all of the argument is a path. -/
theorem argument_read_up_to_separators (argument : String) :
    (∀ path kind, path ≠ "" → ofArgument (path ++ ":" ++ kind.name) =
      ⟨repositoryPath path, kind, .null⟩) ∧
      ((∀ path word, CutAt argument path word → '\\' ∉ word.toList) →
        ofArgument (withSlashes argument) = ofArgument argument) ∧
      ∀ path word, CutAt argument path word → '\\' ∈ word.toList →
        ofArgument argument = ⟨repositoryPath path, .parse (.str word), .null⟩ ∧
          ofArgument (withSlashes argument) = ⟨repositoryPath argument, .edit, .null⟩ := by
  refine ⟨fun path kind filled => of_argument_named filled kind, ?_, ?_⟩
  · intro plain
    by_cases whole : ∀ path word, ¬CutAt argument path word
    · have wholeToo : ∀ path word, ¬CutAt (withSlashes argument) path word := by
        intro path word cut
        obtain ⟨before, cut, -, -⟩ := cut_with_slashes_iff.1 cut
        exact whole before word cut
      rw [of_argument_uncut whole, of_argument_uncut wholeToo, ofPath, create_with_slashes, ofPath]
    · obtain ⟨path, word, cut⟩ : ∃ path word, CutAt argument path word := by simpa using whole
      have cutToo := cut_with_slashes_iff.2 ⟨path, cut, plain path word cut, rfl⟩
      rw [of_argument_cut cut, of_argument_cut cutToo, create_with_slashes]
  · intro path word cut back
    refine ⟨of_argument_cut cut, ?_⟩
    -- A cut of the argument with slashes would be a cut at the same colon.
    have whole : ∀ other rest, ¬CutAt (withSlashes argument) other rest := by
      intro other rest again
      obtain ⟨before, cutToo, plain, -⟩ := cut_with_slashes_iff.1 again
      exact plain ((cut.unique cutToo).2 ▸ back)
    rw [of_argument_uncut whole, ofPath, create_with_slashes]
    rfl

/-- A path with a colon in front of its folder: with a kind behind it, and without one. -/
theorem colon_before_folder_read :
    "src:gen\\a.js" ≠ "" ∧
      ofArgument ("src:gen\\a.js" ++ ":" ++ ChangeKind.delete.name) =
        ⟨repositoryPath "src:gen\\a.js", .delete, .null⟩ ∧
      (∀ path word, CutAt "src:gen\\a.js:delete" path word → '\\' ∉ word.toList) ∧
      ofArgument (withSlashes "src:gen\\a.js:delete") = ofArgument "src:gen\\a.js:delete" ∧
      CutAt "src:gen\\a.js" "src" "gen\\a.js" ∧ '\\' ∈ "gen\\a.js".toList ∧
      ofArgument "src:gen\\a.js" =
        ⟨repositoryPath "src", .parse (.str "gen\\a.js"), .null⟩ ∧
      ofArgument (withSlashes "src:gen\\a.js") =
        ⟨repositoryPath "src:gen\\a.js", .edit, .null⟩ := by
  have typed : CutAt "src:gen\\a.js:delete" "src:gen\\a.js" "delete" :=
    ⟨by decide, by decide, by decide, by decide⟩
  have plain : ∀ path word, CutAt "src:gen\\a.js:delete" path word → '\\' ∉ word.toList := by
    intro path word cut
    rw [← (typed.unique cut).2]
    decide
  have folder : CutAt "src:gen\\a.js" "src" "gen\\a.js" :=
    ⟨by decide, by decide, by decide, by decide⟩
  obtain ⟨named, typedRead, -⟩ := argument_read_up_to_separators "src:gen\\a.js:delete"
  obtain ⟨-, -, folderRead⟩ := argument_read_up_to_separators "src:gen\\a.js"
  exact ⟨by decide, named "src:gen\\a.js" .delete (by decide), plain, typedRead plain, folder,
    by decide, folderRead "src" "gen\\a.js" folder (by decide)⟩

/-- Written with a backslash this is a change of some other kind to `src`, and with a slash an edit
of a file. -/
theorem backslash_behind_colon_misread :
    ¬ofArgument (withSlashes "src:gen\\a.js") = ofArgument "src:gen\\a.js" := by
  intro same
  have paths : (ofArgument (withSlashes "src:gen\\a.js")).path ≠
      (ofArgument "src:gen\\a.js").path := by decide
  exact paths (congrArg ChangedFile.path same)

end ImportImpact.ChangedFile
