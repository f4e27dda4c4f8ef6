import ImportImpact.Platform.Ordinary
import ImportImpact.Proofs.FileSystem.Relocated
import Mathlib.Data.List.Infix

/-!
A tree that is planted somewhere: the directories above it and nothing else. It is the same tree
wherever it is planted.
-/

namespace ImportImpact.FileSystem

/-- A tree at a place, with the directories that lead there and nothing else. -/
def planted (place : Location) (tree : List (Location × Entry)) : FileSystem where
  entries := place.inits.map (fun above => (above, .directory)) ++
    tree.map fun entry => (place ++ entry.1, entry.2)
  workingDirectory := []
  platform := .ordinary

/-- The names of a place can be followed to it. -/
structure Reachable (place : Location) : Prop where
  named : ∀ name ∈ place, isName name = true
  short : ∀ name ∈ place, name.utf8ByteSize ≤ longestName
  fits : (Path.text ⟨.root, place⟩).utf8ByteSize < longestPath

section Planted

variable {place : Location} {tree : List (Location × Entry)}

theorem planted_above {above : Location} (leads : above <+: place) :
    (planted place tree).lookup? above = some .directory := by
  cases above with
  | nil => rfl
  | cons name names =>
      have listed : (place.inits.map fun above => (above, Entry.directory)).lookup
          (name :: names) = some .directory := by
        have member := (List.mem_inits _ _).2 leads
        generalize place.inits = prefixes at member
        induction prefixes with
        | nil => cases member
        | cons first rest induction =>
            rw [List.map_cons, List.lookup_cons]
            by_cases here : name :: names = first
            · rw [beq_iff_eq.2 here]
            · rw [beq_false_of_ne here]
              exact induction ((List.mem_cons.1 member).resolve_left here)
      change (_ ++ _ : List (Location × Entry)).lookup (name :: names) = _
      rw [List.lookup_append, listed]
      rfl

theorem planted_below {names : List String} (filled : names ≠ []) :
    (planted place tree).lookup? (place ++ names) = tree.lookup names := by
  have passed : (place.inits.map fun above => (above, Entry.directory)).lookup
      (place ++ names) = none := by
    rw [List.lookup_eq_none_iff]
    intro entry member
    obtain ⟨above, inside, rfl⟩ := List.mem_map.1 member
    have shorter := ((List.mem_inits _ _).1 inside).length_le
    have longer := List.length_pos_of_ne_nil filled
    rw [bne_iff_ne]
    intro same
    have length : (place ++ names).length = above.length := congrArg List.length same
    rw [List.length_append] at length
    omega
  have moved : (tree.map fun entry => (place ++ entry.1, entry.2)).lookup (place ++ names) =
      tree.lookup names := by
    induction tree with
    | nil => rfl
    | cons entry rest induction =>
        rw [List.map_cons, List.lookup_cons, List.lookup_cons, induction]
        by_cases here : names = entry.1
        · rw [beq_iff_eq.2 here, beq_iff_eq.2 (congrArg (place ++ ·) here)]
        · rw [beq_false_of_ne here,
            beq_false_of_ne fun same => here (List.append_cancel_left same)]
  have located : (planted place tree).lookup? (place ++ names) =
      (planted place tree).entries.lookup (place ++ names) := by
    cases shape : place ++ names with
    | nil => exact absurd (List.append_eq_nil_iff.1 shape).2 filled
    | cons name others => rfl
  rw [located, planted, List.lookup_append, passed, moved]
  rfl

theorem planted_top : (planted place tree).lookup? place = some .directory :=
  planted_above (List.prefix_refl place)

theorem planted_no_links (plain : ∀ entry ∈ tree, ∀ target, entry.2 ≠ .link target) :
    (planted place tree).NoLinks := by
  intro location target link
  have listed : (location, Entry.link target) ∈ (planted place tree).entries := by
    cases location with
    | nil => cases link
    | cons name names =>
        obtain ⟨before, after, shape, -⟩ := List.lookup_eq_some_iff.1 link
        rw [shape]
        simp
  rcases List.mem_append.1 listed with before | below
  · obtain ⟨above, -, same⟩ := List.mem_map.1 before
    cases same
  · obtain ⟨entry, member, same⟩ := List.mem_map.1 below
    exact plain entry member target (congrArg Prod.snd same)

theorem planted_followed (reachable : Reachable place) {through : Bool} {links : Nat} :
    (planted place tree).follow through links [] place = .ok (.entry place) := by
  have onward : ∀ after before, before ++ after = place →
      (planted place tree).follow through links before after = .ok (.entry place) := by
    intro after
    induction after with
    | nil =>
        rintro before rfl
        rw [List.append_nil]
        exact follow_nothing through links before
    | cons name rest induction =>
        rintro before whole
        have member : name ∈ place := by simp [← whole]
        have above : before ++ [name] <+: place := ⟨rest, by simpa using whole⟩
        have directory : (planted place tree).isDirectoryAt before = true :=
          decide_eq_true (planted_above ⟨name :: rest, whole⟩)
        rw [follow_name directory (reachable.named name member) (reachable.short name member)
          (planted_above above) (by simp)]
        exact induction _ (by simpa using whole)
  exact onward place [] rfl

theorem planted_located (reachable : Reachable place) :
    (planted place tree).locate ⟨.root, place⟩ = .ok place :=
  located_iff.2 ⟨reachable.fits, planted_followed reachable⟩

theorem planted_settled (reachable : Reachable place)
    (plain : ∀ entry ∈ tree, ∀ target, entry.2 ≠ .link target) :
    (planted place tree).settle ⟨.root, place⟩ = .ok ⟨.root, place⟩ := by
  have leads := lead_of_downward
    (fun name member => downward_of_name (reachable.named name member)) []
  rw [settle_eq (planted_no_links plain), real_path_eq (planted_no_links plain)]
  exact congrArg (fun location => Except.ok (Path.mk .root location)) leads

/-- A tree is the same at all places that leave room for its entries. -/
theorem planted_relocated {other : Location} (reachable : Reachable place)
    (reachableToo : Reachable other)
    (plain : ∀ entry ∈ tree, ∀ target, entry.2 ≠ .link target)
    (fits : ∀ names, tree.lookup names ≠ none → FitsAlike place other names) :
    Relocated (planted place tree) (planted other tree) place other where
  located := planted_located reachable
  located_too := planted_located reachableToo
  directory := planted_top
  same names := by
    by_cases top : names = []
    · rw [top, List.append_nil, List.append_nil, planted_top, planted_top]
    · rw [planted_below top, planted_below top]
  no_links names := planted_no_links plain _
  platform := rfl
  fits names present := by
    by_cases top : names = []
    · rw [top, FitsAlike, List.append_nil, List.append_nil]
      exact iff_of_true reachable.fits reachableToo.fits
    · rw [planted_below top] at present
      exact fits names present

theorem fits_of_size {names : List String} (filled : names ≠ [])
    (room : Path.slashedSize place + Path.slashedSize names < longestPath) :
    (Path.text ⟨.root, place ++ names⟩).utf8ByteSize < longestPath := by
  rw [Path.text_size_of_root (by simp [filled]), Path.slashed_size_append]
  exact room

theorem planted_file {name : String} {content : List UInt8} (reachable : Reachable place)
    (named : isName name = true) (short : name.utf8ByteSize ≤ longestName)
    (there : tree.lookup [name] = some (.file content))
    (room : Path.slashedSize place + Path.slashedSize [name] < longestPath) :
    (planted place tree).entryAt ⟨.root, place ++ [name]⟩ = .ok (.file content) := by
  have found : (planted place tree).lookup? (place ++ [name]) = some (.file content) :=
    (planted_below (by simp)).trans there
  have located : (planted place tree).locate ⟨.root, place⟩ = .ok place :=
    planted_located reachable
  obtain ⟨left, onward⟩ := follow_through located [name]
  refine entry_of_located (located_iff.2 ⟨fits_of_size (by simp) room, onward.trans ?_⟩) found
  rw [follow_name (decide_eq_true planted_top) named short found (by simp)]
  exact follow_nothing true left _

end Planted

end ImportImpact.FileSystem
