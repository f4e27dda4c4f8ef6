import ImportImpact.Proofs.Import.Resolver
import ImportImpact.Proofs.Path.Evaluate
import Mathlib.Data.List.Induction

/-!
What a local specifier means, read off its segments. They are evaluated after those of the
importer's directory, from the top of the repository: a specifier that leaves it anywhere on the way
means nothing, even if it comes back.
-/

namespace ImportImpact

open FileSystem ImportImpact.Path Segment Written

/-- The segments of the importer's directory and of the specifier; those of a specifier that starts
with a slash stand alone. -/
def specifiedSegments (specifier importer : String) : List Segment :=
  match specifier.toList with
  | '.' :: _ => (Text.split slash (withSlashes importer).toList).dropLast ++
      Text.split slash specifier.toList
  | characters => Text.split slash characters

def busySegments (path : List Char) : List Segment :=
  (Text.split slash path).filter fun segment => !idle segment

section Busy

theorem busy_at (before after : List Char) :
    busySegments (before ++ slash :: after) = busySegments before ++ busySegments after := by
  rw [busySegments, Text.split_at, List.filter_append]
  rfl

theorem busy_of_slash_first (path : List Char) : busySegments (slash :: path) = busySegments path :=
  busy_at [] path

theorem busy_without_first_slashes (path : List Char) :
    busySegments (path.dropWhile (· = slash)) = busySegments path := by
  induction path with
  | nil => rfl
  | cons character rest induction =>
      by_cases here : character = slash
      · rw [List.dropWhile_cons_of_pos (by simpa using here), here, busy_of_slash_first, induction]
      · rw [List.dropWhile_cons_of_neg (by simpa using here)]

theorem busy_without_last_slashes (path : List Char) :
    busySegments (path.reverse.dropWhile (· = slash)).reverse = busySegments path := by
  induction path using List.reverseRecOn with
  | nil => rfl
  | append_singleton before character induction =>
      rw [List.reverse_append, List.reverse_singleton, List.singleton_append]
      by_cases here : character = slash
      · rw [List.dropWhile_cons_of_pos (by simpa using here), here, induction, busy_at]
        exact (List.append_nil _).symm
      · rw [List.dropWhile_cons_of_neg (by simpa using here)]
        simp

end Busy

section Directory

variable {path : String}

/-- The directory of a relative path is nothing at all, or a relative path that does not end with a
slash. -/
theorem directory_of_relative (relative : path.toList.head? ≠ some slash) :
    busySegments (directory path).toList =
        ((Text.split slash path.toList).dropLast.filter fun segment => !idle segment) ∧
      (directory path = "" ∨ (directory path).toList.head? ≠ some slash ∧
        ∃ last, (directory path).toList.getLast? = some last ∧ last ≠ slash) := by
  unfold directory
  split
  next lone =>
    rw [Text.split_of_absent (Text.absent_of_split_last lone)]
    exact ⟨rfl, Or.inl rfl⟩
  next before after last =>
    obtain ⟨shape, absent⟩ := Text.split_last_append last
    have cut : (Text.split slash path.toList).dropLast = Text.split slash before := by
      rw [shape, Text.split_at, Text.split_of_absent absent, List.dropLast_concat]
    obtain ⟨first, others, rfl⟩ : ∃ first others, before = first :: others := by
      apply List.exists_cons_of_ne_nil
      rintro rfl
      exact relative (by rw [shape]; rfl)
    have different : first ≠ slash := by
      rintro rfl
      exact relative (by rw [shape]; rfl)
    rw [if_neg (by simp [different]), cut, String.toList_ofList]
    refine ⟨busy_without_last_slashes _, Or.inr ?_⟩
    have outside := List.head?_dropWhile_not (· = slash) (first :: others).reverse
    cases kept : (first :: others).reverse.dropWhile (· = slash) with
    | nil =>
        rw [List.dropWhile_eq_nil_iff] at kept
        exact absurd (by simpa using kept first (by simp)) different
    | cons last rest =>
        rw [kept] at outside
        obtain ⟨more, begins⟩ : (last :: rest).reverse <+: first :: others := by
          rw [← List.reverse_suffix, List.reverse_reverse, ← kept]
          exact List.dropWhile_suffix _
        refine ⟨?_, last, by simp, by simpa using outside⟩
        have head := congrArg List.head? begins
        rw [List.head?_append_of_ne_nil _ (by simp)] at head
        rw [head]
        simpa using different

end Directory

section Specified

variable {specifier importer : String} {rest : List Char}

theorem specified_from_directory (importer : String) (dot : specifier.toList = '.' :: rest) :
    specifiedPath specifier importer = joined (directory (withSlashes importer)) specifier ∧
      specifiedSegments specifier importer =
        (Text.split slash (withSlashes importer).toList).dropLast ++
          Text.split slash specifier.toList := by
  unfold specifiedPath specifiedSegments
  rw [dot]
  exact ⟨rfl, rfl⟩

theorem specified_from_root (importer : String) (root : specifier.toList = '/' :: rest) :
    specifiedPath specifier importer =
        String.ofList (specifier.toList.dropWhile (· = slash)) ∧
      specifiedSegments specifier importer = Text.split slash specifier.toList := by
  unfold specifiedPath specifiedSegments
  rw [root]
  exact ⟨rfl, rfl⟩

theorem specified_path_busy (stays : isLocalSpecifier specifier = true)
    (relative : rooted (withSlashes importer) = false) :
    busySegments (specifiedPath specifier importer).toList =
        ((specifiedSegments specifier importer).filter fun segment => !idle segment) ∧
      (specifiedPath specifier importer).toList.head? ≠ some slash := by
  rw [rooted, decide_eq_false_iff_not] at relative
  unfold isLocalSpecifier at stays
  split at stays
  next rest dot =>
    obtain ⟨path, segments⟩ := specified_from_directory importer dot
    obtain ⟨busy, shape⟩ := directory_of_relative relative
    have dotted : rooted specifier = false := by simp [rooted, dot, slash]
    rw [path, segments, List.filter_append, ← busy, joined, dotted]
    rcases shape with empty | ⟨head, last, ending, different⟩
    · rw [empty]
      exact ⟨rfl, by simp [dot, slash]⟩
    · have filled : (directory (withSlashes importer)).toList ≠ [] := by
        intro empty
        simp [empty] at ending
      have slashed : "/".toList = [slash] := rfl
      simp only [ending, if_neg different, Bool.false_eq_true, if_false, String.toList_append,
        slashed, List.append_assoc, List.singleton_append]
      refine ⟨busy_at (directory (withSlashes importer)).toList specifier.toList, ?_⟩
      rw [List.head?_append_of_ne_nil _ filled]
      exact head
  next rest root =>
    obtain ⟨path, segments⟩ := specified_from_root importer root
    rw [path, segments, String.toList_ofList]
    exact ⟨busy_without_first_slashes specifier.toList,
      head_without_first_slashes specifier.toList⟩
  · cases stays

end Specified

section Normal

variable {path : String} {segments : List Segment}

/-- A path that is kept at the top leaves the repository, or leads nowhere but to its root. -/
theorem leaves_of_escaped (relative : path.toList.head? ≠ some slash)
    (escaped : evaluate? (Text.split slash path.toList) = none) :
    leavesRepository (normal path) = true := by
  have head := evaluate_escaped escaped
  obtain ⟨rest, shape⟩ := List.head?_eq_some_iff.1 head
  rw [normal_eq_text relative, shape, text_of_segments (by simp)]
  cases rest with
  | nil => decide
  | cons next others =>
      rw [Text.join_cons_of_ne_nil _ _ (by simp)]
      simp [leavesRepository, up, slash]

theorem normal_of_nothing (relative : path.toList.head? ≠ some slash)
    (nothing : evaluate? (Text.split slash path.toList) = some []) : normal path = "." := by
  rw [normal_eq_text relative, (evaluate_kept nothing).1]
  rfl

theorem stays_of_named {names : List String} (filled : names ≠ [])
    (named : ∀ name ∈ names, isName name = true) :
    leavesRepository (text ⟨.relative, names⟩) = false := by
  have written : (parse (text ⟨.relative, names⟩)).names = names := by
    rw [parse_relative fun name member => writable_of_name (named name member)]
  have down := down_of_inside ⟨names, rfl, named⟩
  simp only [leavesRepository, Bool.or_eq_false_iff, decide_eq_false_iff_not]
  refine ⟨⟨?_, ?_⟩, ?_⟩
  · intro dot
    rw [dot] at written
    exact filled written.symm
  · intro up
    rw [up] at down
    exact down (by decide)
  · rw [← Bool.not_eq_true, List.isPrefixOf_iff_prefix]
    rintro ⟨rest, shape⟩
    apply down
    have first : Text.split slash (text ⟨.relative, names⟩).toList =
        Text.split slash up ++ Text.split slash rest := by
      rw [← shape]
      exact Text.split_at slash up rest
    refine List.mem_map.2 ⟨up, List.mem_filter.2 ⟨?_, rfl⟩, rfl⟩
    change up ∈ Text.split slash _
    rw [first]
    exact List.mem_append_left _ (by decide)

theorem normal_of_kept (relative : path.toList.head? ≠ some slash)
    (kept : evaluate? (Text.split slash path.toList) = some segments) (filled : segments ≠ []) :
    normal path = String.ofList (Text.join slash segments) ∧
      leavesRepository (normal path) = false := by
  obtain ⟨same, plain⟩ := evaluate_kept kept
  have whole : ∀ segment ∈ segments, slash ∉ segment := by
    intro segment member
    rw [← same] at member
    exact Text.separator_not_mem_split slash path.toList segment (mem_reduce member)
  rw [normal_eq_text relative, same]
  refine ⟨text_of_segments filled, ?_⟩
  apply stays_of_named (by simpa using filled)
  intro name member
  obtain ⟨segment, inside, rfl⟩ := List.mem_map.1 member
  obtain ⟨busy, down⟩ := plain segment inside
  have outside : '/' ∉ segment := whole segment inside
  simp [isName, busy, down, outside]

end Normal

section Candidate

variable {specifier importer : String}

theorem candidate_evaluated (stays : isLocalSpecifier specifier = true)
    (relative : rooted (withSlashes importer) = false) :
    candidate? specifier importer =
      match evaluate? (specifiedSegments specifier importer) with
      | none | some [] => none
      | some kept => some (String.ofList (Text.join slash kept)) := by
  obtain ⟨busy, relativeToo⟩ := specified_path_busy stays relative
  rw [← evaluate_congr busy, candidate?, stays]
  generalize specifiedPath specifier importer = path at relativeToo
  simp only [Bool.not_true, Bool.false_eq_true, if_false]
  cases evaluated : evaluate? (Text.split slash path.toList) with
  | none =>
      rw [leaves_of_escaped relativeToo evaluated]
      simp
  | some kept =>
      cases kept with
      | nil =>
          rw [normal_of_nothing relativeToo evaluated]
          simp [leavesRepository]
      | cons first rest =>
          obtain ⟨spelled, inside⟩ := normal_of_kept relativeToo evaluated (by simp)
          have filled : path ≠ "" := by
            rintro rfl
            cases evaluated
          rw [inside, spelled]
          simp [filled]

theorem not_rooted_with_slashes {path : String} (relative : path.toList.head? ≠ some slash)
    (plain : path.toList.head? ≠ some '\\') : rooted (withSlashes path) = false := by
  rw [rooted, decide_eq_false_iff_not, withSlashes, String.toList_ofList, List.head?_map]
  cases shape : path.toList with
  | nil => simp
  | cons first rest =>
      rw [shape, List.head?_cons, Ne, Option.some.injEq] at relative plain
      simp [separated, relative, plain]

theorem candidate_not_rooted {candidate : String}
    (relative : rooted (withSlashes importer) = false)
    (given : candidate? specifier importer = some candidate) : rooted candidate = false := by
  obtain ⟨stays, rfl, kept⟩ := normal_of_candidate given
  obtain ⟨names, -, written, named⟩ :=
    inside_of_stays (specified_path_busy stays relative).2 kept
  exact not_rooted_of_inside ⟨names, written, named⟩

theorem candidate_none_iff (stays : isLocalSpecifier specifier = true)
    (relative : rooted (withSlashes importer) = false) :
    candidate? specifier importer = none ↔
      evaluate? (specifiedSegments specifier importer) = some [] ∨
        ∃ before after, specifiedSegments specifier importer = before ++ up :: after ∧
          evaluate? before = some [] := by
  rw [← evaluate_none_iff, candidate_evaluated stays relative]
  cases evaluate? (specifiedSegments specifier importer) with
  | none => simp
  | some kept => cases kept <;> simp

end Candidate

section Named

variable {names folders : List String} {file importer : String}

theorem plain_of_named (named : ∀ name ∈ names, isName name = true) :
    ∀ segment ∈ names.map String.toList, Plain segment := by
  intro segment member
  obtain ⟨name, inside, rfl⟩ := List.mem_map.1 member
  have plain := named name inside
  simp only [isName, Bool.not_eq_true', Bool.or_eq_false_iff, decide_eq_false_iff_not] at plain
  exact plain.1

theorem split_of_named (filled : names ≠ []) (named : ∀ name ∈ names, isName name = true) :
    Text.split slash (text ⟨.relative, names⟩).toList = names.map String.toList := by
  rw [text_relative filled]
  refine Text.split_join (by simpa using filled) fun segment member => ?_
  obtain ⟨name, inside, rfl⟩ := List.mem_map.1 member
  exact (writable_of_name (named name inside)).2

theorem split_after_ups (count : Nat) (path : List Char) :
    Text.split slash ((String.join (List.replicate count "../")).toList ++ path) =
      List.replicate count up ++ Text.split slash path := by
  induction count with
  | zero => rfl
  | succ count induction =>
      have shape : (String.join (List.replicate (count + 1) "../")).toList ++ path =
          up ++ slash :: ((String.join (List.replicate count "../")).toList ++ path) := by
        simp [List.replicate_succ, String.join_cons, up, slash]
      rw [shape, Text.split_at, induction, List.replicate_succ]
      rfl

theorem candidate_of_evaluated {specifier : String} (filled : names ≠ [])
    (stays : isLocalSpecifier specifier = true) (relative : rooted (withSlashes importer) = false)
    (evaluated : evaluate? (specifiedSegments specifier importer) =
      some (names.map String.toList)) :
    candidate? specifier importer = some (text ⟨.relative, names⟩) := by
  have pieces : names.map String.toList ≠ [] := by simpa using filled
  have spelled := text_of_segments pieces
  have same : (names.map String.toList).map String.ofList = names := by simp [Function.comp_def]
  rw [same] at spelled
  obtain ⟨first, others, shape⟩ := List.exists_cons_of_ne_nil pieces
  rw [candidate_evaluated stays relative, evaluated, spelled, shape]

theorem candidate_from_root (filled : names ≠ []) (named : ∀ name ∈ names, isName name = true)
    (relative : rooted (withSlashes importer) = false) :
    candidate? ("/" ++ text ⟨.relative, names⟩) importer = some (text ⟨.relative, names⟩) := by
  have root : ("/" ++ text ⟨.relative, names⟩).toList =
      '/' :: (text ⟨.relative, names⟩).toList := String.toList_append
  have segments := (specified_from_root importer root).2
  have busy : evaluate? (specifiedSegments ("/" ++ text ⟨.relative, names⟩) importer) =
      evaluate? (names.map String.toList) := by
    apply evaluate_congr
    rw [segments, root, ← split_of_named filled named]
    exact busy_of_slash_first _
  refine candidate_of_evaluated filled ?_ relative
    (busy.trans (evaluate_plain (plain_of_named named)))
  simp [isLocalSpecifier, root]

theorem candidate_after_ups (filled : names ≠ []) (named : ∀ name ∈ names, isName name = true)
    (namedToo : ∀ name ∈ folders ++ [file], isName name = true)
    (written : withSlashes importer = text ⟨.relative, folders ++ [file]⟩) :
    candidate? ("./" ++ String.join (List.replicate folders.length "../") ++
      text ⟨.relative, names⟩) importer = some (text ⟨.relative, names⟩) := by
  have relative : rooted (withSlashes importer) = false := by
    rw [written]
    exact not_rooted_of_writable fun name member => writable_of_name (namedToo name member)
  have dot : ("./" ++ String.join (List.replicate folders.length "../") ++
      text ⟨.relative, names⟩).toList = '.' :: slash ::
        ((String.join (List.replicate folders.length "../")).toList ++
          (text ⟨.relative, names⟩).toList) := by
    rw [String.toList_append, String.toList_append]
    rfl
  generalize "./" ++ String.join (List.replicate folders.length "../") ++
    text ⟨.relative, names⟩ = specifier at dot
  have segments := (specified_from_directory importer dot).2
  have cut : Text.split slash specifier.toList =
      ['.'] :: (List.replicate folders.length up ++ names.map String.toList) := by
    rw [dot, ← split_of_named filled named, ← split_after_ups]
    exact Text.split_at slash ['.'] _
  have above : (Text.split slash (withSlashes importer).toList).dropLast =
      folders.map String.toList := by
    rw [written, split_of_named (by simp) namedToo, List.map_append, List.map_singleton,
      List.dropLast_concat]
  have busy : evaluate? (specifiedSegments specifier importer) = evaluate?
      (folders.map String.toList ++
        List.replicate (folders.map String.toList).length up ++ names.map String.toList) := by
    apply evaluate_congr
    rw [segments, above, cut, List.length_map, List.append_assoc, List.filter_append,
      List.filter_append]
    rfl
  have plain := plain_of_named fun name member => namedToo name (List.mem_append_left _ member)
  refine candidate_of_evaluated filled ?_ relative
    (busy.trans (evaluate_back plain (plain_of_named named)))
  simp [isLocalSpecifier, dot]

end Named

/-- The candidate of a local specifier is what its segments evaluate to after those of the
importer's directory. It is missing just where a step leads above the repository or nothing is left
at the end. So what starts at the root, or goes back there first, leads to what follows. -/
theorem candidate_is_evaluation :
    (∀ specifier importer, isLocalSpecifier specifier = true →
      rooted (withSlashes importer) = false →
      (candidate? specifier importer =
        match evaluate? (specifiedSegments specifier importer) with
        | none | some [] => none
        | some kept => some (String.ofList (Text.join slash kept))) ∧
      (candidate? specifier importer = none ↔
        evaluate? (specifiedSegments specifier importer) = some [] ∨
          ∃ before after, specifiedSegments specifier importer = before ++ up :: after ∧
            evaluate? before = some [])) ∧
    ∀ (names folders : List String) (file importer : String), names ≠ [] →
      (∀ name ∈ names, isName name = true) → (∀ name ∈ folders ++ [file], isName name = true) →
      withSlashes importer = text ⟨.relative, folders ++ [file]⟩ →
      candidate? ("/" ++ text ⟨.relative, names⟩) importer = some (text ⟨.relative, names⟩) ∧
      candidate? ("./" ++ String.join (List.replicate folders.length "../") ++
        text ⟨.relative, names⟩) importer = some (text ⟨.relative, names⟩) := by
  constructor
  · intro specifier importer stays relative
    exact ⟨candidate_evaluated stays relative, candidate_none_iff stays relative⟩
  · intro names folders file importer filled named namedToo written
    refine ⟨candidate_from_root filled named ?_, candidate_after_ups filled named namedToo written⟩
    rw [written]
    exact not_rooted_of_writable fun name member => writable_of_name (namedToo name member)

/-- A way out that comes back leads nowhere, though what it comes back to is a path of the
repository; backslashes count as folders of the importer. -/
theorem candidate_out_and_back :
    candidate? "./../../src/x" "src/a.js" = none ∧
      candidate? "./../../lib/x" "src\\ui/a.js" = some "lib/x" := by
  constructor
  · refine (candidate_is_evaluation.1 "./../../src/x" "src/a.js" (by decide) (by decide)).2.2 ?_
    exact Or.inr ⟨["src", ".", ".."].map String.toList, ["src", "x"].map String.toList,
      by decide, by decide⟩
  · exact (candidate_is_evaluation.2 ["lib", "x"] ["src", "ui"] "a.js" "src\\ui/a.js" (by simp)
      (by decide) (by decide) (by decide)).2

end ImportImpact
