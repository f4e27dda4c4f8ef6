import ImportImpact.Proofs.FileSystem.Lookup
import ImportImpact.Proofs.FileSystem.Names

/-!
What the entries of a directory lead to. A link is followed from the directory it lies in, and the
way that led to this directory does not change where it ends: the links of that way only add to
those that may be followed on one path.
-/

namespace ImportImpact.FileSystem

variable {system : FileSystem}

/-- Steps are followed one after another: those behind have the links that the first ones leave, and
more links do no harm. -/
theorem follow_append {links : Nat} {here there : Location} {steps : List String}
    (arrived : system.follow true links here steps = .ok (.entry there)) :
    ∃ left ≤ links, ∀ more rest, system.follow true (links + more) here (steps ++ rest) =
      system.follow true (left + more) there rest := by
  generalize ended : Arrival.entry there = arrival at arrived
  replace arrived := followed_iff.1 arrived
  induction arrived with
  | nothing links here =>
      cases ended
      exact ⟨links, Nat.le_refl links, fun more rest => rfl⟩
  | idle directory idle onward induction =>
      obtain ⟨left, fewer, same⟩ := induction ended
      refine ⟨left, fewer, fun more others => ?_⟩
      rw [List.cons_append, follow_idle directory idle, same]
  | up directory onward induction =>
      obtain ⟨left, fewer, same⟩ := induction ended
      refine ⟨left, fewer, fun more others => ?_⟩
      rw [List.cons_append, follow_up directory, same]
  | free => cases ended
  | last looks link stays => cases stays
  | @link links here step target rest arrival looks link followed onward induction =>
      obtain ⟨left, fewer, same⟩ := induction ended
      refine ⟨left, by omega, fun more others => ?_⟩
      have count : links + 1 + more = links + more + 1 := by omega
      rw [List.cons_append, count, looks.follow_link link (goes_through_all _),
        ← List.append_assoc, same]
  | entry looks found plain onward induction =>
      obtain ⟨left, fewer, same⟩ := induction ended
      refine ⟨left, fewer, fun more others => ?_⟩
      rw [List.cons_append, looks.follow_entry found plain, same]

/-- A way from the top of the tree through a place goes on from there. -/
theorem follow_through {place : Location}
    (located : system.locate ⟨.root, place⟩ = .ok place) (rest : List String) :
    ∃ left, system.follow true mostLinks [] (place ++ rest) =
      system.follow true left place rest := by
  obtain ⟨left, -, same⟩ := follow_append (located_iff.1 located).2
  exact ⟨left, same 0 rest⟩

/-- Through its entry of this name a directory leads to a location. A link leads where it can be
followed to from the directory; anything else is where it lies. -/
inductive LeadsTo (system : FileSystem) (directory : Location) (name : String) : Location → Prop
  | plain {entry : Entry} (listed : name ∈ system.names directory)
      (there : system.lookup? (directory ++ [name]) = some entry)
      (plain : ∀ target, entry ≠ .link target) : LeadsTo system directory name (directory ++ [name])
  | link {target : String} {location : Location} (listed : name ∈ system.names directory)
      (there : system.lookup? (directory ++ [name]) = some (.link target))
      (followed : system.follow true mostLinks directory [name] = .ok (.entry location)) :
      LeadsTo system directory name location

section LeadsTo

variable {folder : Path} {directory location other : Location} {name : String}

theorem LeadsTo.listed (leads : system.LeadsTo directory name location) :
    name ∈ system.names directory := by
  cases leads with
  | plain listed there plain => exact listed
  | link listed there followed => exact listed

theorem LeadsTo.unique (first : system.LeadsTo directory name location)
    (second : system.LeadsTo directory name other) : location = other := by
  cases first with
  | plain listed there plain =>
      cases second with
      | plain => rfl
      | link listed link followed =>
          rw [there, Option.some.injEq] at link
          exact absurd link (plain _)
  | link listed link followed =>
      cases second with
      | plain listed there plain =>
          rw [link, Option.some.injEq] at there
          exact absurd there.symm (plain _)
      | link listed link again =>
          rw [followed] at again
          cases again
          rfl

/-- A path and the name of an entry are looked up as the entry is from where the path leads, with
fewer links. -/
theorem locate_child_followed (located : system.locate folder = .ok directory)
    (child : system.locate (folder.child name) = .ok location) :
    system.follow true mostLinks directory [name] = .ok (.entry location) := by
  obtain ⟨left, fewer, same⟩ := follow_append (located_iff.1 located).2
  have again : system.follow true left directory [name] = .ok (.entry location) :=
    (same 0 [name]).symm.trans (located_iff.1 child).2
  -- The links that the way took are given back, which changes nothing where enough were left.
  obtain ⟨rest, -, alike⟩ := follow_append again
  have whole : left + (mostLinks - left) = mostLinks := Nat.add_sub_of_le fewer
  rw [← whole, ← List.append_nil [name], alike, follow_nothing]

theorem located_of_placed (placed : system.place (folder.child name) = .ok location) :
    ∃ directory, system.locate folder = .ok directory := by
  rw [place, Path.parent_child] at placed
  cases found : system.locate folder with
  | error refusal => simp [found, bind, Except.bind] at placed
  | ok directory => exact ⟨directory, rfl⟩

theorem leads_of_placed (located : system.locate folder = .ok directory)
    (listed : name ∈ system.names directory)
    (placed : system.place (folder.child name) = .ok location) :
    system.LeadsTo directory name location := by
  obtain ⟨entry, there⟩ := Option.ne_none_iff_exists'.1 (mem_names_iff.1 listed).2
  cases entry with
  | link target =>
      rw [place_link located there] at placed
      exact .link listed there (locate_child_followed located placed)
  | directory =>
      rw [place_plain located there (by simp)] at placed
      cases placed
      exact .plain listed there (by simp)
  | file content =>
      rw [place_plain located there (by simp)] at placed
      cases placed
      exact .plain listed there (by simp)

theorem leads_of_located (located : system.locate folder = .ok directory)
    (listed : name ∈ system.names directory)
    (child : system.locate (folder.child name) = .ok location) :
    system.LeadsTo directory name location := by
  obtain ⟨named, filled⟩ := mem_names_iff.1 listed
  obtain ⟨entry, there⟩ := Option.ne_none_iff_exists'.1 filled
  have followed := locate_child_followed located child
  by_cases link : ∃ target, entry = .link target
  · obtain ⟨target, rfl⟩ := link
    exact .link listed there followed
  · have plain : ∀ target, entry ≠ .link target := fun target same => link ⟨target, same⟩
    rw [eq_of_followed named there plain followed]
    exact .plain listed there plain

end LeadsTo

end ImportImpact.FileSystem
