import ImportImpact.Path.Basic
import ImportImpact.Proofs.Text.Split

/-!
Joining takes back the view from a base: a path below a base is the base joined with its text, as
long as the names below the base can be written as segments. Parsed paths have no other names.
-/

namespace ImportImpact.Path

/-- A name that stays as it is when a path is written and parsed again. -/
def Writable (name : String) : Prop := Segment.idle name.toList = false ∧ '/' ∉ name.toList

theorem writable_of_parsed {written : String} {name : String}
    (member : name ∈ (parse written).names) : Writable name := by
  obtain ⟨segment, kept, rfl⟩ := List.mem_map.1 member
  obtain ⟨cut, busy⟩ := List.mem_filter.1 kept
  rw [Writable, String.toList_ofList]
  exact ⟨by simpa using busy, Text.separator_not_mem_split '/' written.toList segment cut⟩

theorem anchor_of_writable {name : String} (writable : Writable name) (rest : List Char) :
    anchorOf (name.toList ++ rest) = .relative := by
  obtain ⟨busy, absent⟩ := writable
  cases shape : name.toList with
  | nil => simp [shape, Segment.idle] at busy
  | cons character others =>
      have different : character ≠ '/' := by
        intro same
        exact absent (by simp [shape, same])
      unfold anchorOf Written.rootSlashes
      split
      · rfl
      next two => simp_all
      next => simp_all

theorem intercalated_eq_join (names : List String) :
    ("/".intercalate names).toList = Text.join '/' (names.map String.toList) := by
  rw [String.toList_intercalate, Text.join_eq_intercalate]
  rfl

theorem names_of_joined {names : List String} (writable : ∀ name ∈ names, Writable name) :
    namesOf (Text.join '/' (names.map String.toList)) = names := by
  by_cases none : names = []
  · subst none
    rfl
  · have absent : ∀ piece ∈ names.map String.toList, '/' ∉ piece := by
      intro piece member
      obtain ⟨name, inside, rfl⟩ := List.mem_map.1 member
      exact (writable name inside).2
    have busy : (names.map String.toList).filter (fun segment => !Segment.idle segment) =
        names.map String.toList := by
      apply List.filter_eq_self.2
      intro segment member
      obtain ⟨name, inside, rfl⟩ := List.mem_map.1 member
      simp [(writable name inside).1]
    rw [namesOf, Text.split_join (by simpa using none) absent, busy, List.map_map]
    simp [Function.comp_def]

theorem parse_relative {names : List String} (writable : ∀ name ∈ names, Writable name) :
    parse (text ⟨.relative, names⟩) = ⟨.relative, names⟩ := by
  cases names with
  | nil => rfl
  | cons name others =>
      have written : (text ⟨.relative, name :: others⟩).toList =
          Text.join '/' ((name :: others).map String.toList) := by
        rw [← intercalated_eq_join]
        simp [text, Anchor.text]
      rw [parse, written, names_of_joined writable]
      congr 1
      cases others with
      | nil => simpa [Text.join] using anchor_of_writable (writable name (by simp)) []
      | cons next rest => exact anchor_of_writable (writable name (by simp)) _

theorem relative_to_iff {base path : Path} {names : List String} :
    relativeTo? base path = some names ↔ path = ⟨base.anchor, base.names ++ names⟩ := by
  obtain ⟨anchor, parts⟩ := path
  rw [relativeTo?, mk.injEq]
  constructor
  · intro below
    split at below
    next sameAnchor =>
      split at below
      next isPrefix =>
        cases below
        rw [List.isPrefixOf_iff_prefix, List.prefix_iff_eq_append] at isPrefix
        exact ⟨sameAnchor, isPrefix.symm⟩
      · cases below
    · cases below
  · rintro ⟨rfl, rfl⟩
    simp [List.isPrefixOf_iff_prefix]

theorem below_iff {base path : Path} {written : String} :
    below? base path = some written ↔
      ∃ names, path = ⟨base.anchor, base.names ++ names⟩ ∧ text ⟨.relative, names⟩ = written := by
  simp only [below?, Option.map_eq_some_iff, relative_to_iff]

/-- Seen from a base and joined to it again, a path is the same as before. -/
theorem join_below {base path : Path} {written : String}
    (writable : ∀ name ∈ path.names.drop base.names.length, Writable name)
    (below : below? base path = some written) : base.join written = path := by
  obtain ⟨names, rfl, rfl⟩ := below_iff.1 below
  rw [List.drop_left] at writable
  rw [join, parse_relative writable]

end ImportImpact.Path
