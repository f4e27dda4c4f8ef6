import ImportImpact.Import.Resolver
import ImportImpact.Proofs.FileSystem.Walk
import ImportImpact.Proofs.Path.Written

/-!
Paths inside a repository: they are spelled relative to its root and with no step that leads up, so
each of them names one place below the root in the only way. A normal form is inside unless it
leaves the repository.
-/

namespace ImportImpact.Path

open FileSystem Segment Written

/-- The path is spelled by names that lead down. -/
def Inside (path : String) : Prop :=
  ∃ names : List String, path = text ⟨.relative, names⟩ ∧ ∀ name ∈ names, isName name = true

theorem join_inside (root : Path) {names : List String}
    (named : ∀ name ∈ names, isName name = true) :
    root.join (text ⟨.relative, names⟩) = ⟨root.anchor, root.names ++ names⟩ := by
  rw [join, parse_relative fun name member => writable_of_name (named name member)]

theorem descends_of_inside {path : String} (inside : Inside path) (root : Path) :
    Descends root (root.join path) := by
  obtain ⟨names, rfl, named⟩ := inside
  rw [join_inside root named]
  exact ⟨rfl, names, rfl, named⟩

theorem inside_of_below {base path : Path} {written : String}
    (named : ∀ name ∈ path.names.drop base.names.length, isName name = true)
    (below : below? base path = some written) : Inside written := by
  obtain ⟨names, rfl, rfl⟩ := below_iff.1 below
  rw [List.drop_left] at named
  exact ⟨names, rfl, named⟩

theorem text_relative {names : List String} (some : names ≠ []) :
    (text ⟨.relative, names⟩).toList = Text.join slash (names.map String.toList) := by
  obtain ⟨name, others, rfl⟩ := List.exists_cons_of_ne_nil some
  rw [slash, ← intercalated_eq_join]
  simp [text, Anchor.text]

theorem text_single (name : String) : text ⟨.relative, [name]⟩ = name :=
  String.empty_append.trans String.intercalate_singleton

theorem text_child {names : List String} (some : names ≠ []) (name : String) :
    text ⟨.relative, names ++ [name]⟩ = text ⟨.relative, names⟩ ++ "/" ++ name := by
  apply String.toList_injective
  have slashes : "/".toList = [slash] := rfl
  rw [String.toList_append, String.toList_append, text_relative some, text_relative (by simp),
    List.map_append, List.map_singleton, Text.join_concat slash (by simpa using some), slashes,
    List.append_assoc, List.singleton_append]

theorem head_of_text {name : String} (filled : name.toList ≠ []) (others : List String) :
    (text ⟨.relative, name :: others⟩).toList.head? = name.toList.head? := by
  obtain ⟨first, rest, shape⟩ := List.exists_cons_of_ne_nil filled
  rw [text_relative (List.cons_ne_nil name others), List.map_cons, shape, Text.join_cons_cons]
  rfl

theorem exists_opening (before : List String) (last : String) :
    ∃ opening, text ⟨.relative, before ++ [last]⟩ = opening ++ last ∧
      ∀ more, text ⟨.relative, before ++ [last ++ more]⟩ = opening ++ (last ++ more) := by
  by_cases none : before = []
  · refine ⟨"", ?_, fun more => ?_⟩
    · rw [none, List.nil_append, text_single, String.empty_append]
    · rw [none, List.nil_append, text_single, String.empty_append]
  · exact ⟨_, text_child none last, fun more => text_child none (last ++ more)⟩

theorem text_of_segments {segments : List Segment} (filled : segments ≠ []) :
    text ⟨.relative, segments.map String.ofList⟩ = String.ofList (Text.join slash segments) := by
  apply String.toList_injective
  have pieces : (segments.map String.ofList).map String.toList = segments := by
    simp [Function.comp_def]
  rw [text_relative (by simpa using filled), pieces, String.toList_ofList]

theorem writable_of_segments {segments : List Segment} (settled : Settled segments.reverse)
    (plain : ∀ segment ∈ segments, slash ∉ segment) :
    ∀ name ∈ segments.map String.ofList, Writable name := by
  intro name member
  obtain ⟨segment, inside, rfl⟩ := List.mem_map.1 member
  rw [Writable, String.toList_ofList]
  exact ⟨busy_of_settled settled segment inside, plain segment inside⟩

theorem exists_names_of_normal {path : String} (normal : NormalForm path.toList) :
    ∃ names : List String, path = text ⟨.relative, names⟩ ∧ ∀ name ∈ names, Writable name := by
  rcases normal with dot | ⟨segments, filled, shape, settled, plain⟩
  · exact ⟨[], String.toList_injective dot, by simp⟩
  · refine ⟨segments.map String.ofList, ?_, writable_of_segments settled fun segment member =>
      (plain segment member).1⟩
    rw [text_of_segments filled, ← shape, String.ofList_toList]

theorem below_join (base : Path) {path : String} (normal : NormalForm path.toList) :
    below? base (base.join path) = some path := by
  obtain ⟨names, rfl, writable⟩ := exists_names_of_normal normal
  rw [join, parse_relative writable]
  exact below_iff.2 ⟨names, rfl, rfl⟩

theorem down_of_inside {path : String} (inside : Inside path) : ".." ∉ (parse path).names := by
  obtain ⟨names, rfl, named⟩ := inside
  rw [parse_relative fun name member => writable_of_name (named name member)]
  exact fun member => (is_name_iff.1 (named _ member)).2 rfl

theorem inside_of_normal {path : String} (normal : NormalForm path.toList)
    (down : ".." ∉ (parse path).names) : Inside path := by
  obtain ⟨names, rfl, writable⟩ := exists_names_of_normal normal
  rw [parse_relative writable] at down
  refine ⟨names, rfl, fun name member => is_name_iff.2 ⟨writable name member, ?_⟩⟩
  rintro rfl
  exact down member

theorem head_up_of_settled {segments : List Segment} (settled : Settled segments.reverse)
    (member : up ∈ segments) : segments.head? = some up := by
  cases segments with
  | nil => simp at member
  | cons first rest =>
      rcases List.mem_cons.1 member with here | later
      · rw [here]
        rfl
      · have ordered := settled.ups_below
        rw [List.pairwise_reverse] at ordered
        rw [(List.pairwise_cons.1 ordered).1 up later rfl]
        rfl

/-- A double dot in a normal form comes first, so one that starts otherwise leads inside. -/
theorem inside_of_start {path : String} (normal : NormalForm path.toList)
    (start : (parse path).names.head? ≠ some "..") : Inside path := by
  refine inside_of_normal normal fun member => start ?_
  rcases normal with dot | ⟨segments, filled, shape, settled, plain⟩
  · obtain rfl : path = "." := String.toList_injective dot
    cases member
  · have names : (parse path).names = segments.map String.ofList := by
      rw [← String.ofList_toList (s := path), shape, ← text_of_segments filled,
        parse_relative (writable_of_segments settled fun segment member =>
          (plain segment member).1)]
    rw [names] at member ⊢
    obtain ⟨segment, inside, same⟩ := List.mem_map.1 member
    obtain rfl : segment = up := String.ofList_injective same
    rw [List.head?_map, head_up_of_settled settled inside]
    rfl

theorem normal_eq_text {path : String} (relative : path.toList.head? ≠ some slash) :
    normal path =
      text ⟨.relative, (reduce false (Text.split slash path.toList)).map String.ofList⟩ := by
  have settled := reduce_settled (Text.split slash path.toList)
  rw [normal, normal_characters_of_relative relative]
  by_cases filled : reduce false (Text.split slash path.toList) = []
  · rw [filled]
    rfl
  · have busy := join_ne_nil filled (busy_of_settled settled)
    rw [text_of_segments filled, if_neg (by simpa using busy)]

/-- The normal form of a path that starts without a slash leads inside, if it does not leave. -/
theorem inside_of_stays {path : String} (relative : path.toList.head? ≠ some slash)
    (stays : leavesRepository (normal path) = false) :
    ∃ names : List String, names ≠ [] ∧ normal path = text ⟨.relative, names⟩ ∧
      ∀ name ∈ names, isName name = true := by
  have settled := reduce_settled (Text.split slash path.toList)
  have plain : ∀ segment ∈ reduce false (Text.split slash path.toList), slash ∉ segment :=
    fun segment member =>
      Text.separator_not_mem_split slash path.toList segment (mem_reduce member)
  rw [normal_eq_text relative] at stays ⊢
  generalize reduce false (Text.split slash path.toList) = segments at settled plain stays ⊢
  simp only [leavesRepository, Bool.or_eq_false_iff, decide_eq_false_iff_not] at stays
  obtain ⟨⟨noDot, noUp⟩, noPrefix⟩ := stays
  have filled : segments ≠ [] := by
    rintro rfl
    exact noDot rfl
  have down : up ∉ segments := by
    intro member
    have first := head_up_of_settled settled member
    cases segments with
    | nil => simp at first
    | cons head rest =>
        obtain rfl : head = up := by simpa using first
        rw [text_of_segments filled] at noUp noPrefix
        cases rest with
        | nil => exact noUp rfl
        | cons next others =>
            rw [Text.join_cons_of_ne_nil _ _ (by simp), ← Bool.not_eq_true,
              List.isPrefixOf_iff_prefix] at noPrefix
            exact noPrefix ⟨Text.join slash (next :: others), by simp [up, slash]⟩
  refine ⟨segments.map String.ofList, by simpa using filled, rfl, fun name member => ?_⟩
  refine is_name_iff.2 ⟨writable_of_segments settled plain name member, ?_⟩
  rintro rfl
  obtain ⟨segment, inside, same⟩ := List.mem_map.1 member
  have upSegment : segment = up := by
    rw [← String.toList_ofList (l := segment), same]
    rfl
  exact down (upSegment ▸ inside)

theorem prefix_up_iff {segment : Segment} :
    segment <+: up ↔ segment = [] ∨ segment = ['.'] ∨ segment = up := by
  simp [up, List.prefix_cons_iff, and_or_left, exists_or]

theorem is_name_iff_no_start_of_up {name : String} :
    isName name = true ↔ ¬name.toList <+: up ∧ slash ∉ name.toList := by
  simp [isName, idle, prefix_up_iff, slash, and_assoc]

theorem is_name_append {name more : String} (named : isName name = true)
    (plain : slash ∉ more.toList) : isName (name ++ more) = true := by
  obtain ⟨long, absent⟩ := is_name_iff_no_start_of_up.1 named
  rw [is_name_iff_no_start_of_up, String.toList_append, List.mem_append]
  constructor
  · exact fun short => long ((List.prefix_append _ _).trans short)
  · exact fun either => either.elim absent plain

theorem not_rooted_of_writable {names : List String} (writable : ∀ name ∈ names, Writable name) :
    rooted (text ⟨.relative, names⟩) = false := by
  rw [rooted, decide_eq_false_iff_not]
  cases names with
  | nil => decide
  | cons name others =>
      have busy : ∀ segment ∈ (name :: others).map String.toList, idle segment = false := by
        intro segment member
        obtain ⟨other, inside, rfl⟩ := List.mem_map.1 member
        exact (writable other inside).1
      obtain ⟨segment, member, character, rest, shape, head⟩ :=
        join_head (by simp : (name :: others).map String.toList ≠ []) busy
      obtain ⟨other, inside, rfl⟩ := List.mem_map.1 member
      rw [text_relative (by simp), head]
      intro same
      apply (writable other inside).2
      rw [shape, Option.some.inj same]
      exact List.mem_cons_self

theorem not_rooted_of_inside {path : String} (inside : Inside path) : rooted path = false := by
  obtain ⟨names, rfl, named⟩ := inside
  exact not_rooted_of_writable fun name member => writable_of_name (named name member)

theorem not_rooted_of_name {name : String} (named : isName name = true) : rooted name = false :=
  not_rooted_of_inside ⟨[name], (text_single name).symm, by simpa using named⟩

def Spelled (path : String) : Prop :=
  ∃ names : List String, names ≠ [] ∧ path = text ⟨.relative, names⟩ ∧
    ∀ name ∈ names, isName name = true

theorem spelled_of_inside {path : String} (inside : Inside path) (named : path ≠ ".") :
    Spelled path := by
  obtain ⟨names, rfl, kept⟩ := inside
  refine ⟨names, ?_, rfl, kept⟩
  rintro rfl
  exact named rfl

namespace Spelled

variable {path : String}

theorem inside (spelled : Spelled path) : Inside path := by
  obtain ⟨names, -, rfl, named⟩ := spelled
  exact ⟨names, rfl, named⟩

theorem exists_last (spelled : Spelled path) : ∃ before last,
    path = text ⟨.relative, before ++ [last]⟩ ∧ ∀ name ∈ before ++ [last], isName name = true := by
  obtain ⟨names, some, rfl, named⟩ := spelled
  rw [← List.dropLast_append_getLast some] at named ⊢
  exact ⟨_, _, rfl, named⟩

theorem append {more : String} (spelled : Spelled path) (plain : slash ∉ more.toList) :
    Spelled (path ++ more) := by
  obtain ⟨before, last, rfl, named⟩ := spelled.exists_last
  obtain ⟨opening, short, long⟩ := exists_opening before last
  refine ⟨before ++ [last ++ more], by simp, ?_, fun name member => ?_⟩
  · rw [short, long, String.append_assoc]
  · rcases List.mem_append.1 member with early | late
    · exact named name (List.mem_append_left _ early)
    · rw [List.mem_singleton.1 late]
      exact is_name_append (named last (by simp)) plain

theorem below {name : String} (spelled : Spelled path) (child : isName name = true) :
    Spelled (path ++ "/" ++ name) := by
  obtain ⟨names, some, rfl, named⟩ := spelled
  refine ⟨names ++ [name], by simp, (text_child some name).symm, fun other member => ?_⟩
  rcases List.mem_append.1 member with early | late
  · exact named other early
  · rw [List.mem_singleton.1 late]
    exact child

theorem joined_eq {more : String} (spelled : Spelled path) (relative : rooted more = false) :
    joined path more = path ++ "/" ++ more := by
  obtain ⟨before, last, rfl, named⟩ := spelled.exists_last
  obtain ⟨⟨busy, absent⟩, -⟩ := is_name_iff.1 (named last (by simp))
  obtain ⟨opening, whole, -⟩ := exists_opening before last
  obtain ⟨start, final, shape⟩ : ∃ start final, last.toList = start ++ [final] := by
    refine ⟨_, _, (List.dropLast_append_getLast ?_).symm⟩
    intro empty
    rw [empty] at busy
    cases busy
  have ending : (text ⟨.relative, before ++ [last]⟩).toList.getLast? = some final := by
    rw [whole, String.toList_append, shape, ← List.append_assoc, List.getLast?_concat]
  have different : final ≠ slash := by
    rintro rfl
    exact absent (by simp [shape, slash])
  rw [joined, relative, ending]
  simp only [Bool.false_eq_true, if_false, if_neg different]

end Spelled

section Rooted

theorem rooted_append {path : String} (rooted : Written.rooted path = true) (more : String) :
    Written.rooted (path ++ more) = true := by
  rw [Written.rooted, decide_eq_true_eq] at rooted ⊢
  rw [String.toList_append, List.head?_append, rooted]
  rfl

theorem rooted_joined {base : String} (rooted : Written.rooted base = true) (path : String) :
    Written.rooted (joined base path) = true := by
  unfold joined
  split
  · assumption
  · split
    next empty =>
      rw [List.getLast?_eq_none_iff] at empty
      simp [Written.rooted, empty] at rooted
    · split
      · exact rooted_append rooted path
      · exact rooted_append (rooted_append rooted "/") path

theorem rooted_normal {path : String} (rooted : path.toList.head? = some slash) :
    Written.rooted (normal path) = true := by
  have slashes : rootSlashes path.toList ≠ 0 := by
    obtain ⟨rest, shape⟩ := List.head?_eq_some_iff.1 rooted
    rw [shape]
    unfold rootSlashes
    split <;> simp_all [slash]
  obtain ⟨fewer, more⟩ := Nat.exists_eq_succ_of_ne_zero slashes
  simp [Written.rooted, normal, normalCharacters, more, List.replicate_succ]

end Rooted

end ImportImpact.Path
