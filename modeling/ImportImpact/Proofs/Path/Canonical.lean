import ImportImpact.Proofs.Path.Evaluate
import ImportImpact.Proofs.Path.Inside

/-!
The name of a repository file told from its spelling. The spelling is cut at both kinds of
separator, and the pieces are steps of a walk that starts somewhere below the root: what remains is
how far the walk led above its start, and the names that lead down from there. Spellings of one
walk have one normal form, apart from those that consist of separators.
-/

namespace ImportImpact.Written

open Segment

def isSeparator (character : Char) : Bool := character = '/' || character = '\\'

/-- The spelling names nothing at all, not even the directory in which it starts. -/
def OnlySeparators (path : String) : Prop :=
  ∀ character ∈ path.toList, isSeparator character = true

instance (path : String) : Decidable (OnlySeparators path) :=
  inferInstanceAs (Decidable (∀ character ∈ path.toList, isSeparator character = true))

def pieces (path : String) : List Segment := path.toList.splitOnP isSeparator

/-- Where a walk stands: some directories above its start, and then down along names. -/
structure Standing where
  ups : Nat
  names : List Segment
  plain : ∀ name ∈ names, Plain name

namespace Standing

def start : Standing := ⟨0, [], by simp⟩

def step (standing : Standing) (segment : Segment) : Standing :=
  if idles : idle segment = true then standing
  else if down : segment ≠ up then
    { standing with
      names := standing.names ++ [segment]
      plain := by
        intro name member
        rcases List.mem_append.1 member with before | here
        · exact standing.plain name before
        · exact List.mem_singleton.1 here ▸ ⟨by simpa using idles, down⟩ }
  else if standing.names = [] then { standing with ups := standing.ups + 1 }
  else
    { standing with
      names := standing.names.dropLast
      plain := fun name member => standing.plain name (List.dropLast_subset _ member) }

def segments (standing : Standing) : List Segment :=
  List.replicate standing.ups up ++ standing.names

/-- A step of the walk is a step on the stack of what is kept. -/
theorem advance_eq (standing : Standing) (segment : Segment) :
    advance false standing.segments.reverse segment = (standing.step segment).segments.reverse := by
  obtain ⟨ups, names, plain⟩ := standing
  unfold advance step
  by_cases idles : idle segment = true
  · simp [idles]
  · by_cases down : segment ≠ up
    · simp [idles, down, segments]
    · rcases names.eq_nil_or_concat with rfl | ⟨before, last, rfl⟩
      · cases ups with
        | zero => simp [idles, down, segments]
        | succ ups =>
            have stack : (List.replicate (ups + 1) up).reverse = up :: List.replicate ups up :=
              List.reverse_replicate
            have higher : up :: up :: List.replicate ups up = List.replicate (ups + 2) up := rfl
            simpa [idles, down, segments, stack] using higher
      · have named : last ≠ up := (plain last (by simp)).2
        simp [idles, down, segments, named]

theorem reduce_eq (segments : List Segment) :
    reduce false segments = (segments.foldl step start).segments := by
  -- The steps are taken from wherever the walk stands, not only from its start.
  have fold : ∀ standing : Standing,
      segments.foldl (advance false) standing.segments.reverse =
        (segments.foldl step standing).segments.reverse := by
    induction segments with
    | nil => exact fun _ => rfl
    | cons segment rest induction =>
        intro standing
        rw [List.foldl_cons, advance_eq, induction, List.foldl_cons]
  rw [reduce, show ([] : List Segment) = start.segments.reverse from rfl, fold,
    List.reverse_reverse]

end Standing

/-- The segments that remain of a spelling: double dots, and then names. -/
def evaluated (path : String) : List Segment :=
  ((pieces path).foldl Standing.step Standing.start).segments

theorem separated_eq_slash_iff {character : Char} :
    separated character = slash ↔ isSeparator character = true := by
  unfold separated isSeparator slash
  split
  next backslash => simp [backslash]
  next different => simp [different]

theorem split_separated (text : List Char) :
    Text.split slash (text.map separated) = text.splitOnP isSeparator := by
  induction text with
  | nil => rfl
  | cons character rest induction =>
      rw [List.map_cons, Text.split, induction, List.splitOnP_cons_eq_if_modifyHead]
      by_cases here : isSeparator character = true
      · rw [if_pos (separated_eq_slash_iff.2 here), if_pos here]
      · have other : character ≠ '\\' := by
          rintro rfl
          exact here rfl
        rw [if_neg (mt separated_eq_slash_iff.1 here), if_neg here, separated, if_neg other]
        cases shape : rest.splitOnP isSeparator with
        | nil => exact absurd shape (List.splitOnP_ne_nil _ _)
        | cons piece others => rfl

theorem reduce_without_first_slashes (text : List Char) :
    reduce false (Text.split slash (text.dropWhile (· = slash))) =
      reduce false (Text.split slash text) := by
  induction text with
  | nil => rfl
  | cons character rest induction =>
      by_cases here : character = slash
      · rw [List.dropWhile_cons_of_pos (by simpa using here), induction, here, Text.split,
          if_pos rfl]
        rfl
      · rw [List.dropWhile_cons_of_neg (by simpa using here)]

theorem reduce_separated (path : String) :
    reduce false (Text.split slash (path.toList.map separated)) = evaluated path := by
  rw [split_separated, Standing.reduce_eq]
  rfl

theorem evaluated_settled (path : String) : Settled (evaluated path).reverse := by
  rw [← reduce_separated]
  exact reduce_settled _

theorem evaluated_writable (path : String) :
    ∀ name ∈ (evaluated path).map String.ofList, Path.Writable name := by
  apply Path.writable_of_segments (evaluated_settled path)
  intro segment member
  rw [← reduce_separated] at member
  exact Text.separator_not_mem_split slash _ segment (mem_reduce member)

theorem only_separators_iff (path : String) :
    OnlySeparators path ↔ (path.toList.map separated).dropWhile (· = slash) = [] := by
  rw [List.dropWhile_eq_nil_iff]
  simp [OnlySeparators, separated_eq_slash_iff]

theorem repository_path_eq (path : String) :
    repositoryPath path =
      if OnlySeparators path then ""
      else Path.text ⟨.relative, (evaluated path).map String.ofList⟩ := by
  unfold repositoryPath
  split
  next empty => rw [if_pos ((only_separators_iff path).2 empty)]
  next filled =>
    rw [if_neg (mt (only_separators_iff path).1 filled)]
    have relative := head_without_first_slashes (path.toList.map separated)
    rw [← String.toList_ofList
      (l := (path.toList.map separated).dropWhile (· = slash))] at relative
    have spelled := Path.normal_eq_text relative
    rw [normal, String.toList_ofList, reduce_without_first_slashes, reduce_separated] at spelled
    exact spelled

/-- Both kinds of separator, a name that is taken back, and one step more above the start. -/
example : evaluated "\\src/./..\\../b//c/" = [up, ['b'], ['c']] ∧
    repositoryPath "\\src/./..\\../b//c/" = "../b/c" := by
  decide

theorem evaluated_of_only_separators {path : String} (only : OnlySeparators path) :
    evaluated path = [] := by
  rw [← reduce_separated, ← reduce_without_first_slashes, (only_separators_iff path).1 only]
  rfl

/-- Parsed again, the normal form gives back what remains of the path. -/
theorem parse_repository_path (path : String) :
    Path.parse (repositoryPath path) = ⟨.relative, (evaluated path).map String.ofList⟩ := by
  rw [repository_path_eq]
  split
  next only =>
    rw [evaluated_of_only_separators only]
    rfl
  · exact Path.parse_relative (evaluated_writable path)

theorem pieces_of_normal {path : String} (normal : NormalForm path.toList) :
    pieces path = Text.split slash path.toList := by
  rw [pieces, ← split_separated, separated_of_plain (backslash_of_normal normal)]

theorem ups_first_of_normal {path : String} (normal : NormalForm path.toList) :
    (pieces path).Pairwise fun earlier later => later = up → earlier = up := by
  rw [pieces_of_normal normal]
  rcases normal with dot | ⟨segments, filled, shape, settled, plain⟩
  · rw [dot]
    exact List.pairwise_singleton _ _
  · rw [shape, Text.split_join filled fun segment member => (plain segment member).1]
    exact List.pairwise_reverse.1 settled.ups_below

theorem no_separator_first_of_normal {path : String} (normal : NormalForm path.toList)
    {character : Char} (head : path.toList.head? = some character) :
    isSeparator character = false := by
  have slashed : character ≠ '/' := by
    rintro rfl
    exact head_of_normal normal head
  have backslashed : character ≠ '\\' := by
    rintro rfl
    exact backslash_of_normal normal (List.mem_of_mem_head? head)
  simp [isSeparator, slashed, backslashed]

theorem repository_path_empty_iff (path : String) :
    repositoryPath path = "" ↔ OnlySeparators path := by
  rw [only_separators_iff]
  unfold repositoryPath
  split
  next empty => simp [empty]
  next filled =>
    have some := normal_characters_ne_nil ((path.toList.map separated).dropWhile (· = slash))
    rw [String.ofList_eq_empty_iff]
    exact iff_of_false some filled

theorem repository_path_eq_iff (path other : String) :
    repositoryPath path = repositoryPath other ↔
      OnlySeparators path ∧ OnlySeparators other ∨
        ¬OnlySeparators path ∧ ¬OnlySeparators other ∧ evaluated path = evaluated other := by
  constructor
  · intro same
    have only : OnlySeparators path ↔ OnlySeparators other := by
      rw [← repository_path_empty_iff, same, repository_path_empty_iff]
    by_cases here : OnlySeparators path
    · exact Or.inl ⟨here, only.1 here⟩
    · refine Or.inr ⟨here, mt only.2 here, ?_⟩
      have names : (evaluated path).map String.ofList = (evaluated other).map String.ofList := by
        have parsed := congrArg (fun path => (Path.parse path).names) same
        simpa only [parse_repository_path] using parsed
      exact List.map_injective_iff.2 (fun _ _ => String.ofList_injective) names
  · intro given
    rcases given with ⟨here, there⟩ | ⟨here, there, same⟩
    · rw [repository_path_eq, if_pos here, repository_path_eq, if_pos there]
    · rw [repository_path_eq, if_neg here, repository_path_eq, if_neg there, same]

/-- What the name of a file is, told from its spelling alone. -/
structure CanonicalForm (path : String) : Prop where
  written : repositoryPath path =
    if OnlySeparators path then ""
    else if evaluated path = [] then "."
    else "/".intercalate ((evaluated path).map String.ofList)
  empty_iff : repositoryPath path = "" ↔ OnlySeparators path
  settled : repositoryPath (repositoryPath path) = repositoryPath path
  no_separator_first : ∀ character, (repositoryPath path).toList.head? = some character →
    isSeparator character = false
  slashes_only : '\\' ∉ (repositoryPath path).toList
  ups_first : (pieces (repositoryPath path)).Pairwise fun earlier later =>
    later = up → earlier = up
  same_iff : ∀ other, repositoryPath path = repositoryPath other ↔
    OnlySeparators path ∧ OnlySeparators other ∨
      ¬OnlySeparators path ∧ ¬OnlySeparators other ∧ evaluated path = evaluated other

theorem repository_path_canonical (path : String) : CanonicalForm path where
  written := by
    rw [repository_path_eq]
    congr 1
    by_cases nothing : evaluated path = []
    · rw [nothing]
      rfl
    · obtain ⟨first, rest, shape⟩ := List.exists_cons_of_ne_nil nothing
      simp [shape, Path.text, Anchor.text]
  empty_iff := repository_path_empty_iff path
  settled := repository_path_idempotent path
  no_separator_first := by
    intro character head
    rcases repository_path_normal path with empty | normal
    · simp [empty] at head
    · exact no_separator_first_of_normal normal head
  slashes_only := by
    rcases repository_path_normal path with empty | normal
    · simp [empty]
    · exact backslash_of_normal normal
  ups_first := by
    rcases repository_path_normal path with empty | normal
    · rw [empty]
      exact List.pairwise_singleton _ _
    · exact ups_first_of_normal normal
  same_iff := repository_path_eq_iff path

/-- A separator and a dot lead nowhere alike, but only the dot names the start. -/
theorem separator_differs_from_dot :
    ¬(repositoryPath "/" = repositoryPath "." ↔
      evaluated "/" = evaluated "." ∨ OnlySeparators "/" ∧ OnlySeparators ".") := by
  decide +kernel

end ImportImpact.Written
