import ImportImpact.Path.Basic

/-!
Paths with more names at their end, and how long the text of a path is: each name counts with the
slash before it.
-/

namespace ImportImpact.Path

def extend (path : Path) (names : List String) : Path :=
  { path with names := path.names ++ names }

def slashedSize : List String → Nat
  | [] => 0
  | name :: rest => name.utf8ByteSize + 1 + slashedSize rest

variable {path : Path} {names : List String} {name : String}

theorem extend_nil (path : Path) : path.extend [] = path := by
  simp [extend]

theorem extend_child (path : Path) (names : List String) (name : String) :
    (path.extend names).child name = path.extend (names ++ [name]) := by
  simp [extend, child]

theorem slashed_size_append (first second : List String) :
    slashedSize (first ++ second) = slashedSize first + slashedSize second := by
  induction first with
  | nil => simp [slashedSize]
  | cons name rest induction =>
      rw [List.cons_append, slashedSize, slashedSize, induction, ← Nat.add_assoc]

theorem slashed_size_replicate (count : Nat) (name : String) :
    slashedSize (List.replicate count name) = (name.utf8ByteSize + 1) * count := by
  induction count with
  | zero => rfl
  | succ count induction =>
      rw [List.replicate_succ, slashedSize, induction, Nat.mul_succ, Nat.add_comm]

/-- A path is its anchor and its names, the first of them without a slash. -/
theorem text_size (anchor : Anchor) (filled : names ≠ []) :
    (text ⟨anchor, names⟩).utf8ByteSize + 1 = anchor.text.utf8ByteSize + slashedSize names := by
  have joined : ∀ name others, ("/".intercalate (name :: others)).utf8ByteSize + 1 =
      slashedSize (name :: others) := by
    have slash : "/".utf8ByteSize = 1 := by decide
    intro name others
    induction others generalizing name with
    | nil => simp [slashedSize]
    | cons other rest induction =>
        rw [String.intercalate_cons_cons, String.utf8ByteSize_append, String.utf8ByteSize_append,
          Nat.add_assoc, induction, slash]
        rfl
  obtain ⟨name, others, rfl⟩ := List.exists_cons_of_ne_nil filled
  have written : text ⟨anchor, name :: others⟩ =
      anchor.text ++ "/".intercalate (name :: others) := by
    cases anchor <;> rfl
  rw [written, String.utf8ByteSize_append, Nat.add_assoc, joined]

theorem text_size_of_root (filled : names ≠ []) :
    (text ⟨.root, names⟩).utf8ByteSize = slashedSize names := by
  have slash : Anchor.root.text.utf8ByteSize = 1 := by decide
  have size := text_size .root filled
  omega

theorem names_length_le (path : Path) : path.names.length ≤ path.text.utf8ByteSize + 1 := by
  obtain ⟨anchor, names⟩ := path
  have slashed : names.length ≤ slashedSize names := by
    induction names with
    | nil => simp
    | cons name rest induction => simp [slashedSize]; omega
  by_cases filled : names = []
  · simp [filled]
  · have size := text_size anchor filled
    change names.length ≤ (text ⟨anchor, names⟩).utf8ByteSize + 1
    omega

theorem text_size_le_child (filled : name ≠ "") :
    path.text.utf8ByteSize ≤ (path.child name).text.utf8ByteSize := by
  obtain ⟨anchor, names⟩ := path
  have size : name.utf8ByteSize ≠ 0 := by simpa using filled
  have longer := slashed_size_append names [name]
  simp only [slashedSize] at longer
  have below := text_size anchor (by simp : names ++ [name] ≠ [])
  change _ ≤ (text ⟨anchor, names ++ [name]⟩).utf8ByteSize
  by_cases top : names = []
  · subst top
    have short : (text ⟨anchor, []⟩).utf8ByteSize ≤ anchor.text.utf8ByteSize + 1 := by
      cases anchor <;> decide
    simp only [slashedSize] at longer
    omega
  · have above := text_size anchor top
    omega

end ImportImpact.Path
