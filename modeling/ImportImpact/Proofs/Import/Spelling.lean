import ImportImpact.Platform.Ordinary
import ImportImpact.Proofs.FileSystem.SameBelow
import ImportImpact.Proofs.Import.Candidate

/-!
The spellings under which a candidate is looked for. They are tried in one order, and the first that
leads to a file is the answer. All of them are spelled by names that lead down, as the candidate is,
except where the index and an extension make no name together: such a spelling leads back to the
candidate or to a directory.
-/

namespace ImportImpact

open FileSystem ImportImpact.Path Segment Written

/-- The spellings of a candidate in the order in which they are tried. -/
def spellings (extensions : List String) (index candidate : String) : List String :=
  if suffix candidate ≠ "" then [candidate]
  else extensions.map (candidate ++ ·) ++
    extensions.map fun extension => candidate ++ "/" ++ (index ++ extension)

theorem Path.Spelled.plain {path : String} (spelled : Spelled path) :
    ∀ segment ∈ Text.split slash path.toList, Plain segment := by
  obtain ⟨names, some, rfl, named⟩ := spelled
  rw [split_of_named some named]
  exact plain_of_named named

theorem local_of_candidate {specifier importer candidate : String}
    (given : candidate? specifier importer = some candidate) :
    isLocalSpecifier specifier = true :=
  (normal_of_candidate given).1

section Joined

variable {candidate last : String}

theorem names_at (before after : List Char) :
    namesOf (before ++ slash :: after) = namesOf before ++ namesOf after := by
  unfold namesOf
  rw [← List.map_append, ← List.filter_append]
  exact congrArg (fun pieces => (pieces.filter fun segment => !idle segment).map String.ofList)
    (Text.split_at slash before after)

theorem names_of_idle {segment : Segment} (nothing : idle segment = true) :
    namesOf segment = [] := by
  rw [idle, Bool.or_eq_true, List.isEmpty_iff, decide_eq_true_eq] at nothing
  rcases nothing with rfl | rfl
  · rfl
  · rfl

theorem parse_idle_last (spelled : Spelled candidate) (nothing : idle last.toList = true) :
    parse (candidate ++ "/" ++ last) = parse candidate := by
  have whole : (candidate ++ "/" ++ last).toList = candidate.toList ++ slash :: last.toList := by
    have slashes : "/".toList = [slash] := rfl
    rw [String.toList_append, String.toList_append, slashes, List.append_assoc,
      List.singleton_append]
  have relative : candidate.toList.head? ≠ some slash := by
    simpa [rooted] using not_rooted_of_inside spelled.inside
  have filled : candidate.toList ≠ [] := by
    intro empty
    have segments := spelled.plain
    rw [empty] at segments
    cases (segments [] (by simp [Text.split])).1
  have relativeToo : (candidate.toList ++ slash :: last.toList).head? ≠ some slash := by
    rwa [List.head?_append_of_ne_nil _ filled]
  rw [parse, parse, whole, names_at, names_of_idle nothing, List.append_nil, anchorOf, anchorOf,
    root_slashes_of_relative relative, root_slashes_of_relative relativeToo]

theorem parse_up_last (spelled : Spelled candidate) :
    (parse (candidate ++ "/" ++ "..")).names.getLast? = some ".." := by
  obtain ⟨names, some, rfl, named⟩ := spelled
  rw [← text_child some, parse_relative, List.getLast?_concat]
  intro name member
  rcases List.mem_append.1 member with early | late
  · exact writable_of_name (named name early)
  · rw [List.mem_singleton.1 late]
    exact ⟨by decide, by decide⟩

end Joined

namespace Resolver

variable {resolver : Resolver}

/-- The path, seen from the root, leads to a file. -/
def LeadsToFile (resolver : Resolver) (path : String) : Prop :=
  ∃ content, resolver.system.entryAt (resolver.root.join path) = .ok (.file content)

def LeadsFirst (resolver : Resolver) (tried : List String) (path : String) : Prop :=
  resolver.LeadsToFile path ∧ ∃ before after, tried = before ++ path :: after ∧
    ∀ earlier ∈ before, ¬resolver.LeadsToFile earlier

/-- What a specifier of an importer is resolved to: the first of the spellings of its candidate that
leads to a file. The file is below the root, and the path is spelled by names, but for a dot after
the candidate itself where the index is empty and an extension is a dot. -/
structure Answers (resolver : Resolver) (extensions : List String)
    (index specifier importer : String) (found : Option String) : Prop where
  nothing : found = none ↔ isLocalSpecifier specifier = false ∨
    candidate? specifier importer = none ∨ ∃ candidate,
      candidate? specifier importer = some candidate ∧
        ∀ path ∈ spellings extensions index candidate, ¬resolver.LeadsToFile path
  first : ∀ path ∈ found, ∃ candidate, candidate? specifier importer = some candidate ∧
    resolver.LeadsFirst (spellings extensions index candidate) path
  below : ∀ path ∈ found, Descends resolver.root (resolver.root.join path)
  plain : ∀ path ∈ found, (∀ segment ∈ Text.split slash path.toList, Plain segment) ∨
    index = "" ∧ "." ∈ extensions ∧ ∃ candidate,
      candidate? specifier importer = some candidate ∧ path = candidate ++ "/" ++ "."

theorem has_file_iff_leads {path : String} :
    resolver.hasFile path = true ↔ resolver.LeadsToFile path :=
  has_file_iff.trans is_file_iff

theorem first_file_iff {tried : List String} {path : String} :
    tried.find? resolver.hasFile = some path ↔ resolver.LeadsFirst tried path := by
  simp [List.find?_eq_some_iff_append, LeadsFirst, ← has_file_iff_leads]

theorem first_file_find {spell : Value → Outcome String} {written : String → String}
    {extensions : List String}
    (spelled : ∀ extension ∈ extensions, spell (.str extension) = .ok (written extension)) :
    resolver.firstFile spell (extensions.map .str) =
      .ok ((extensions.map written).find? resolver.hasFile) := by
  induction extensions with
  | nil => rfl
  | cons extension rest induction =>
      obtain ⟨first, others⟩ := List.forall_mem_cons.1 spelled
      rw [List.map_cons, List.map_cons, List.find?_cons]
      cases there : resolver.hasFile (written extension) with
      | true => exact first_file_of_file first there _
      | false => rw [first_file_of_missing first there, induction others]

theorem leads_to_file_of_idle_last {candidate last : String} (spelled : Spelled candidate)
    (nothing : idle last.toList = true) (there : resolver.LeadsToFile (candidate ++ "/" ++ last)) :
    resolver.LeadsToFile candidate := by
  unfold LeadsToFile at there ⊢
  rwa [join, parse_idle_last spelled nothing] at there

theorem not_leads_to_file_of_up_last (held : resolver.system.Held) {candidate : String}
    (spelled : Spelled candidate) : ¬resolver.LeadsToFile (candidate ++ "/" ++ "..") := by
  rintro ⟨content, there⟩
  obtain ⟨location, located, file⟩ := located_of_entry there
  have last : (resolver.root.join (candidate ++ "/" ++ "..")).names.getLast? = some ".." := by
    have up := parse_up_last spelled
    unfold join
    dsimp only
    split
    · rw [List.getLast?_append, up]
      rfl
    · exact up
  have directory := directory_of_up held last (located_iff.1 located).2
  rw [isDirectoryAt, file] at directory
  cases directory

section Resolve

variable {extensions : List String} {index : String}
  (flat : ∀ extension ∈ extensions, slash ∉ extension.toList) (flatIndex : slash ∉ index.toList)

include flat flatIndex

/-- An index file that is found has a name, but for a dot after the candidate itself. -/
theorem spelled_of_index_file (held : resolver.system.Held) {candidate extension : String}
    (spelled : Spelled candidate) (member : extension ∈ extensions)
    (missing : ¬resolver.LeadsToFile (candidate ++ extension))
    (there : resolver.LeadsToFile (candidate ++ "/" ++ (index ++ extension))) :
    Spelled (candidate ++ "/" ++ (index ++ extension)) ∨ index = "" ∧ extension = "." := by
  by_cases child : isName (index ++ extension) = true
  · exact Or.inl (spelled.below child)
  · right
    have absent : slash ∉ (index ++ extension).toList := by
      rw [String.toList_append, List.mem_append]
      exact fun either => either.elim flatIndex (flat extension member)
    have short : (index ++ extension).toList <+: up := by
      by_contra long
      exact child (is_name_iff_no_start_of_up.2 ⟨long, absent⟩)
    -- A step that stays leads to the candidate, which was tried if the extension is empty.
    have stays : idle (index ++ extension).toList = true → extension ≠ "" := by
      rintro nothing rfl
      rw [String.append_empty] at missing
      exact missing (leads_to_file_of_idle_last spelled nothing there)
    rcases prefix_up_iff.1 short with empty | dot | double
    · have none := stays (by rw [empty]; rfl)
      rw [String.toList_append, List.append_eq_nil_iff] at empty
      exact absurd (String.toList_injective empty.2) none
    · have some := stays (by rw [dot]; rfl)
      rw [String.toList_append, List.append_eq_singleton_iff] at dot
      rcases dot with ⟨bare, last⟩ | ⟨-, none⟩
      · exact ⟨String.toList_injective bare, String.toList_injective last⟩
      · exact absurd (String.toList_injective none) some
    · obtain steps : index ++ extension = ".." := String.toList_injective double
      rw [steps] at there
      exact absurd there (not_leads_to_file_of_up_last held spelled)

theorem spelled_of_leads_first (held : resolver.system.Held) {candidate path : String}
    (spelled : Spelled candidate)
    (found : resolver.LeadsFirst (spellings extensions index candidate) path) :
    Spelled path ∨ index = "" ∧ "." ∈ extensions ∧ path = candidate ++ "/" ++ "." := by
  have there := found.1
  rw [← first_file_iff, spellings] at found
  split at found
  · rw [List.mem_singleton.1 (List.mem_of_find?_eq_some found)]
    exact Or.inl spelled
  · rw [List.find?_append, Option.or_eq_some_iff] at found
    rcases found with first | ⟨missing, second⟩
    · obtain ⟨extension, member, rfl⟩ := List.mem_map.1 (List.mem_of_find?_eq_some first)
      exact Or.inl (spelled.append (flat extension member))
    · obtain ⟨extension, member, rfl⟩ := List.mem_map.1 (List.mem_of_find?_eq_some second)
      have missed : ¬resolver.LeadsToFile (candidate ++ extension) := by
        rw [← has_file_iff_leads]
        exact List.find?_eq_none.1 missing _ (List.mem_map_of_mem member)
      rcases spelled_of_index_file flat flatIndex held spelled member missed there with
        named | ⟨rfl, rfl⟩
      · exact Or.inl named
      · exact Or.inr ⟨rfl, member, by rw [String.empty_append]⟩

theorem resolve_candidate_find (listed : resolver.extensions.elements = .ok (extensions.map .str))
    (named : resolver.indexName = .str index) {candidate : String} (spelled : Spelled candidate) :
    resolver.resolveCandidate candidate =
      .ok ((spellings extensions index candidate).find? resolver.hasFile) := by
  have added : ∀ extension ∈ extensions, appended candidate (.str extension) =
      .ok (candidate ++ extension) := fun _ _ => rfl
  have indexed : ∀ extension ∈ extensions,
      (do pure (joined candidate (← indexFile resolver.indexName (.str extension))) :
        Outcome String) = .ok (candidate ++ "/" ++ (index ++ extension)) := by
    intro extension member
    have relative : rooted (index ++ extension) = false := by
      rw [rooted, decide_eq_false_iff_not, String.toList_append]
      intro head
      rcases List.mem_append.1 (List.mem_of_head? head) with early | late
      · exact flatIndex early
      · exact flat extension member late
    rw [index_spelled rfl named, spelled.joined_eq relative]
  unfold resolveCandidate spellings
  split
  · cases there : resolver.hasFile candidate with
    | true => rw [List.find?_cons, there, if_pos rfl]
    | false => rw [List.find?_cons, there, List.find?_nil, if_neg Bool.false_ne_true]
  · rw [listed, List.find?_append]
    simp only [bind, Except.bind] at indexed ⊢
    rw [first_file_find added, first_file_find indexed]
    cases (extensions.map (candidate ++ ·)).find? resolver.hasFile with
    | none => rfl
    | some path => rfl

/-- No specifier raises an error: it is resolved to the first of its spellings that leads to a file,
and to nothing just where none does. -/
theorem resolve_answers_first_file (held : resolver.system.Held)
    (listed : resolver.extensions.elements = .ok (extensions.map .str))
    (indexed : resolver.indexName = .str index) (specifier : String) {importer : String}
    (relative : rooted (withSlashes importer) = false) :
    ∃ found, resolver.resolve specifier importer = .ok found ∧
      resolver.Answers extensions index specifier importer found := by
  unfold resolve
  cases given : candidate? specifier importer with
  | none => exact ⟨none, rfl, by simp [given], by simp, by simp, by simp⟩
  | some candidate =>
      have spelled : Spelled candidate := by
        rcases candidate_place given with outside | inside
        · simp [candidate_not_rooted relative given] at outside
        · exact inside
      refine ⟨_, resolve_candidate_find flat flatIndex listed indexed spelled, ?_, ?_, ?_, ?_⟩
      · simp [given, local_of_candidate given, List.find?_eq_none, has_file_iff_leads]
      · intro path found
        exact ⟨candidate, given, first_file_iff.1 found⟩
      · intro path found
        rcases spelled_of_leads_first flat flatIndex held spelled (first_file_iff.1 found) with
          named | ⟨-, -, rfl⟩
        · exact descends_of_inside named.inside resolver.root
        · have same := descends_of_inside spelled.inside resolver.root
          have dot : idle ".".toList = true := rfl
          rwa [join, ← parse_idle_last spelled dot] at same
      · intro path found
        rcases spelled_of_leads_first flat flatIndex held spelled (first_file_iff.1 found) with
          named | ⟨bare, dot, rfl⟩
        · exact Or.inl named.plain
        · exact Or.inr ⟨bare, dot, candidate, given, rfl⟩

end Resolve

end Resolver

namespace FileAndFolder

/-- A file without a suffix, and a folder with an index. -/
def files : FileSystem where
  entries := [(["a"], .file []), (["b"], .directory), (["b", "index.js"], .file [])]
  workingDirectory := []
  platform := .ordinary

theorem plain : files.PlainTree :=
  plain_tree_of_entries (by simp [files]) (by decide) (by simp [files])

def resolver (extension index : String) : Resolver :=
  ⟨files, ⟨.root, []⟩, .list [.str extension], .str index⟩

theorem folder_answers_first_file : (resolver ".js" "index").system.Held ∧ ∃ found,
    (resolver ".js" "index").resolve "./b" "x.js" = .ok found ∧
    (resolver ".js" "index").Answers [".js"] "index" "./b" "x.js" found := by
  have held : (resolver ".js" "index").system.Held := plain.held
  refine ⟨held, ?_⟩
  exact Resolver.resolve_answers_first_file (by decide) (by decide) held rfl rfl "./b" (by decide)

theorem file_leads : (resolver "." "").LeadsToFile ("a" ++ "/" ++ ".") :=
  ⟨[], entry_of_located (locate_name (by decide) (by decide) rfl (by simp)) rfl⟩

theorem longer_name_leads_nowhere : ¬(resolver "." "").LeadsToFile ("a" ++ ".") := by
  rintro ⟨content, there⟩
  obtain ⟨location, located, -⟩ := located_of_entry there
  have followed := (located_iff.1 located).2
  change files.follow true mostLinks [] ["a."] = _ at followed
  rw [follow_downward plain.no_links ⟨by decide, by decide, by decide⟩] at followed
  cases followed

/-- An empty index and a dot as the extension lead to the file of the candidate, under a spelling
that is no normal form. -/
theorem file_found_below_itself : (resolver "." "").system.Held ∧
    (resolver "." "").resolve "./a" "x.js" = .ok (some "a/.") ∧
    ¬∀ segment ∈ Text.split slash "a/.".toList, Plain segment := by
  refine ⟨plain.held, ?_, ?_⟩
  · have spelled : Spelled "a" := ⟨["a"], by simp, (text_single "a").symm, by decide⟩
    have tried : spellings ["."] "" "a" = ["a" ++ ".", "a" ++ "/" ++ "."] := by decide
    have candidate : candidate? "./a" "x.js" = some "a" := by decide
    have found := (resolver "." "").first_file_iff.2
      ⟨file_leads, [_], [], tried, by simpa using longer_name_leads_nowhere⟩
    rw [Resolver.resolve, candidate]
    exact (Resolver.resolve_candidate_find (by decide) (by decide) rfl rfl spelled).trans
      (congrArg Except.ok found)
  · intro named
    exact absurd (named ['.'] (by decide)).1 (by decide)

end FileAndFolder

end ImportImpact
