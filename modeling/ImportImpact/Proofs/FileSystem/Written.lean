import ImportImpact.FileSystem.Edit
import ImportImpact.Proofs.FileSystem.Lookup
import ImportImpact.Proofs.Outcome

/-!
Files that were written. The path that a file was written to leads to it, through the same links as
before: on its way it never stood on the place that was written, because only a directory or a link
is gone through, and a link there would not have been the end of the path. Other paths lead to what
they led to, and what was missing is missing.
-/

namespace ImportImpact.FileSystem

section Follow

variable {system : FileSystem} {location : Location}

/-- A path that comes from outside ends on no link, if no directory is there: what lies below is
reached only through the place itself. -/
theorem no_link_of_arrived {links : Nat} {here : Location} {steps : List String}
    (outside : ¬location <+: here) (below : location ≠ [])
    (arrived : system.follow true links here steps = .ok (.entry location)) (target : String) :
    system.lookup? location ≠ some (.link target) := by
  generalize ended : Arrival.entry location = arrival at arrived
  replace arrived := followed_iff.1 arrived
  induction arrived with
  | nothing =>
      cases ended
      exact absurd List.prefix_rfl outside
  | idle directory idle onward induction => exact induction outside ended
  | up directory onward induction =>
      exact induction (fun inside => outside (inside.trans (List.dropLast_prefix _))) ended
  | free => cases ended
  | last looks there stays => cases stays
  | link looks there followed onward induction =>
      refine induction (fun inside => ?_) ended
      split at inside
      · exact below (List.prefix_nil.1 inside)
      · exact outside inside
  | @entry links here step rest entry arrival looks found plain onward induction =>
      by_cases reached : location <+: here ++ [step]
      · obtain rfl | inside := List.prefix_concat_iff.1 reached
        · rw [found]
          exact fun link => plain _ (Option.some.inj link)
        · exact absurd inside outside
      · exact induction reached ended

theorem directory_beside_put (content : List UInt8) (below : location ≠ [])
    (file : system.isDirectoryAt location = false) {here : Location}
    (directory : system.isDirectoryAt here = true) :
    (system.put location (.file content)).isDirectoryAt here = true := by
  have apart : here ≠ location := by
    rintro rfl
    exact Bool.false_ne_true (file.symm.trans directory)
  rw [isDirectoryAt, lookup_put_apart below _ apart]
  exact directory

theorem closed_beside_put (content : List UInt8) (below : location ≠ []) {here : Location}
    (closed : system.isDirectoryAt here = false) :
    (system.put location (.file content)).isDirectoryAt here = false := by
  by_cases reached : here = location
  · rw [isDirectoryAt, reached, lookup_put_here below]
    rfl
  · rw [isDirectoryAt, lookup_put_apart below _ reached]
    exact closed

theorem looks_up_beside_put (content : List UInt8) (below : location ≠ [])
    (file : system.isDirectoryAt location = false) {here : Location} {step : String}
    (looks : system.LooksUp here step) :
    (system.put location (.file content)).LooksUp here step :=
  ⟨directory_beside_put content below file looks.directory, looks.down, looks.short⟩

theorem nothing_behind_file (file : system.isDirectoryAt location = false) {links : Nat}
    {rest : List String} {arrival : Arrival}
    (arrives : system.Arrives true links location rest arrival) : rest = [] := by
  cases rest with
  | nil => rfl
  | cons step more =>
      have arrived := arrives.followed
      rw [follow_closed file] at arrived
      cases arrived

theorem follow_to_put (content : List UInt8) (file : system.isDirectoryAt location = false)
    {here : Location} {step : String} (looks : system.LooksUp here step)
    (reached : here ++ [step] = location) (links : Nat) (rest : List String) :
    (system.put location (.file content)).follow true links here (step :: rest) =
      (system.put location (.file content)).follow true links location rest := by
  subst reached
  have below : here ++ [step] ≠ [] := by simp
  exact (looks_up_beside_put content below file looks).follow_entry
    (lookup_put_here below _) nofun rest

/-- A link on the way is not where the way ends: it would come there from outside, and what ends
there from outside has no link there. -/
theorem link_elsewhere (below : location ≠ []) {links : Nat} {here : Location}
    {step target : String} {rest : List String} {arrival : Arrival}
    (ends : arrival = .free location ∨ arrival = .entry location)
    (link : system.lookup? (here ++ [step]) = some (.link target))
    (onward : system.Arrives true links (if Written.rooted target then [] else here)
      (steps target ++ rest) arrival) : here ++ [step] ≠ location := by
  rintro rfl
  have outside : ¬here ++ [step] <+: here := fun inside => absurd inside.length_le (by simp)
  rcases ends with rfl | rfl
  · simp [(missing_of_free onward.followed).2] at link
  · refine no_link_of_arrived ?_ below onward.followed target link
    split
    · exact fun inside => below (List.prefix_nil.1 inside)
    · exact outside

/-- The path to a file leads there when the file is made or has got another content. -/
theorem follow_put (content : List UInt8) (below : location ≠ [])
    (file : system.isDirectoryAt location = false) {links : Nat} {here : Location}
    {steps : List String} {arrival : Arrival}
    (ends : arrival = .free location ∨ arrival = .entry location)
    (arrived : system.follow true links here steps = .ok arrival) :
    (system.put location (.file content)).follow true links here steps =
      .ok (.entry location) := by
  have still {here : Location} (directory : system.isDirectoryAt here = true) :=
    directory_beside_put content below file directory
  have looking {here : Location} {step : String} (looks : system.LooksUp here step) :=
    looks_up_beside_put content below file looks
  replace arrived := followed_iff.1 arrived
  induction arrived with
  | nothing =>
      rcases ends with ⟨⟨⟩⟩ | ⟨⟨⟩⟩
      exact follow_nothing ..
  | idle directory idle onward induction =>
      rw [follow_idle (still directory) idle]
      exact induction ends
  | up directory onward induction =>
      rw [follow_up (still directory)]
      exact induction ends
  | free looks missing =>
      rcases ends with ⟨⟨⟩⟩ | ⟨⟨⟩⟩
      rw [follow_to_put content file looks rfl]
      exact follow_nothing ..
  | last looks link stays => cases stays
  | link looks link followed onward induction =>
      have apart := link_elsewhere below ends link onward
      rw [(looking looks).follow_link ((lookup_put_apart below _ apart).trans link) followed]
      exact induction ends
  | @entry links here step rest entry arrival looks found plain onward induction =>
      by_cases reached : here ++ [step] = location
      · subst reached
        rw [follow_to_put content file looks rfl, nothing_behind_file file onward]
        exact follow_nothing ..
      · rw [(looking looks).follow_entry ((lookup_put_apart below _ reached).trans found) plain]
        exact induction ends

end Follow

section Write

variable {system : FileSystem} {path : Path} {location : Location}

theorem arrived_of_writable (given : system.writable path = .ok location) :
    path.text.toList.contains '\x00' = false ∧ location ≠ [] ∧
      system.isDirectoryAt location = false ∧ ∃ arrival, system.arrive true path = .ok arrival ∧
        (arrival = .free location ∨ arrival = .entry location) := by
  unfold writable at given
  split at given
  · cases given
  next plain =>
    refine ⟨by simpa using plain, ?_⟩
    split at given
    next arrived =>
      cases given
      have followed := (arrive_ok_iff.1 arrived).2
      have file : system.isDirectoryAt location = false := by
        simp [isDirectoryAt, (missing_of_free followed).2]
      exact ⟨(missing_of_free followed).1, file, _, arrived, Or.inl rfl⟩
    next arrived =>
      split at given
      · cases given
      next file =>
        cases given
        refine ⟨?_, by simpa using file, _, arrived, Or.inr rfl⟩
        rintro rfl
        exact file rfl
    · cases given

theorem arrive_free_name {name : String} (named : isName name = true)
    (short : name.utf8ByteSize ≤ longestName) (missing : system.lookup? [name] = none) :
    system.arrive true ⟨.root, [name]⟩ = .ok (.free [name]) := by
  have followed : system.follow true mostLinks [] [name] = .ok (.free [name]) :=
    (looks_up_name rfl named short).follow_missing missing []
  exact arrive_ok_iff.2 ⟨short_path_of_name short, followed⟩

theorem no_file_of_free (arrived : system.arrive true path = .ok (.free location)) :
    system.isFile path = .ok false := by
  rw [isFile, ask, entryAt, locate, arrived]
  rfl

theorem writable_name {name : String} (named : isName name = true)
    (short : name.utf8ByteSize ≤ longestName) (plain : name.toList.contains '\x00' = false)
    (missing : system.lookup? [name] = none) :
    system.writable ⟨.root, [name]⟩ = .ok [name] := by
  have level : (Path.text ⟨.root, [name]⟩).toList.contains '\x00' = false := by
    rw [text_of_name, String.toList_append, List.contains_append, plain]
    rfl
  rw [writable, level, arrive_free_name named short missing]
  rfl

variable (bytes : List UInt8)

theorem entry_of_written (given : system.writable path = .ok location) :
    (system.put location (.file bytes)).entryAt path = .ok (.file bytes) := by
  obtain ⟨-, below, file, arrival, arrived, ends⟩ := arrived_of_writable given
  refine entry_of_located (located_iff.2 ?_) (lookup_put_here below (.file bytes))
  obtain ⟨short, followed⟩ := arrive_ok_iff.1 arrived
  exact ⟨short, follow_put bytes below file ends followed⟩

theorem read_of_written (given : system.writable path = .ok location) :
    (system.put location (.file bytes)).readBytes path = .ok bytes := by
  have plain := (arrived_of_writable given).1
  simp only [readBytes, plain, entry_of_written bytes given, Bool.false_eq_true, if_false]

theorem exists_of_written (given : system.writable path = .ok location) :
    (system.put location (.file bytes)).exists? path = .ok true := by
  rw [exists?, ask, entry_of_written bytes given]

end Write

/-- The path ends at the location, whether something is there or not. -/
def EndsAt (system : FileSystem) (path : Path) (location : Location) : Prop :=
  system.arrive true path = .ok (.entry location) ∨ system.arrive true path = .ok (.free location)

def HoldsFile (system : FileSystem) (location : Location) : Prop :=
  ∀ entry, system.lookup? location = some entry → entry.isFile = true

/-- The second is what the first is, but for the reason why something is missing. -/
def SameButMissing {Found : Type} (first second : Except Refusal Found) : Prop :=
  second = first ∨ first = .error .noEntry ∧ second = .error .notDirectory

section Beside

variable {system : FileSystem} {location : Location} (content : List UInt8)

theorem HoldsFile.below (holds : system.HoldsFile location) : location ≠ [] := by
  rintro rfl
  cases holds .directory rfl

theorem HoldsFile.no_directory (holds : system.HoldsFile location) :
    system.isDirectoryAt location = false := by
  by_contra directory
  cases holds .directory (by simpa [isDirectoryAt] using directory)

theorem HoldsFile.no_link (holds : system.HoldsFile location) {place : Location} {target : String}
    (link : system.lookup? place = some (.link target)) : place ≠ location := by
  rintro rfl
  cases holds _ link

/-- A way that ends for want of something goes on as before, unless it is the file and steps behind
it now fail on that. -/
theorem missing_beside_put (below : location ≠ []) (file : system.isDirectoryAt location = false)
    {links : Nat} {here : Location} {step : String} {rest : List String}
    (looks : system.LooksUp here step) (missing : system.lookup? (here ++ [step]) = none)
    (elsewhere : system.follow true links here (step :: rest) ≠ .ok (.free location)) :
    SameButMissing (system.follow true links here (step :: rest))
      ((system.put location (.file content)).follow true links here (step :: rest)) := by
  rw [looks.follow_missing missing] at elsewhere ⊢
  by_cases reached : here ++ [step] = location
  · subst reached
    cases rest with
    | nil => exact absurd rfl elsewhere
    | cons next others =>
        rw [follow_to_put content file looks rfl,
          follow_closed (closed_beside_put content below file)]
        exact Or.inr ⟨rfl, rfl⟩
  · have looking := looks_up_beside_put content below file looks
    rw [looking.follow_missing ((lookup_put_apart below _ reached).trans missing)]
    exact Or.inl rfl

/-- A path that does not end at a file goes on as before when the file is written. If the file is
new, steps behind it fail on it and not for want of it. -/
theorem follow_beside_put (holds : system.HoldsFile location) {links : Nat} {here : Location}
    {steps : List String}
    (elsewhere : system.follow true links here steps ≠ .ok (.entry location) ∧
      system.follow true links here steps ≠ .ok (.free location)) :
    SameButMissing (system.follow true links here steps)
      ((system.put location (.file content)).follow true links here steps) := by
  have below := holds.below
  have file := holds.no_directory
  have still {here : Location} (directory : system.isDirectoryAt here = true) :=
    directory_beside_put content below file directory
  have looking {here : Location} {step : String} (looks : system.LooksUp here step) :=
    looks_up_beside_put content below file looks
  induction links, here, steps using follow_induction system true with
  | nothing =>
      rw [follow_nothing, follow_nothing]
      exact Or.inl rfl
  | closed links here step rest closed =>
      rw [follow_closed closed, follow_closed (closed_beside_put content below closed)]
      exact Or.inl rfl
  | idle links here step rest directory idle induction =>
      rw [follow_idle directory idle] at elsewhere ⊢
      rw [follow_idle (still directory) idle]
      exact induction elsewhere
  | up links here rest directory induction =>
      rw [follow_up directory] at elsewhere ⊢
      rw [follow_up (still directory)]
      exact induction elsewhere
  | long links here step rest directory down long =>
      rw [follow_long directory down long, follow_long (still directory) down long]
      exact Or.inl rfl
  | missing links here step rest looks missing =>
      exact missing_beside_put content below file looks missing elsewhere.2
  | last links here step target looks link stays => cases stays
  | spent here step rest target looks link onward =>
      have same := (lookup_put_apart below (.file content) (holds.no_link link)).trans link
      rw [looks.follow_spent link onward, (looking looks).follow_spent same onward]
      exact Or.inl rfl
  | link links here step rest target looks link onward induction =>
      have same := (lookup_put_apart below (.file content) (holds.no_link link)).trans link
      rw [looks.follow_link link onward] at elsewhere ⊢
      rw [(looking looks).follow_link same onward]
      exact induction elsewhere
  | entry links here step rest entry looks found plain induction =>
      rw [looks.follow_entry found plain] at elsewhere ⊢
      by_cases reached : here ++ [step] = location
      · subst reached
        rw [follow_to_put content file looks rfl]
        exact induction elsewhere
      · rw [(looking looks).follow_entry ((lookup_put_apart below _ reached).trans found) plain]
        exact induction elsewhere

variable {path : Path}

theorem arrive_beside_put (holds : system.HoldsFile location)
    (elsewhere : ¬system.EndsAt path location) : SameButMissing (system.arrive true path)
      ((system.put location (.file content)).arrive true path) := by
  unfold EndsAt arrive at *
  split at elsewhere
  next long =>
    rw [if_pos long, if_pos long]
    exact Or.inl rfl
  next short =>
    rw [if_neg short, if_neg short]
    exact follow_beside_put content holds (not_or.1 elsewhere)

theorem entry_beside_put (holds : system.HoldsFile location)
    (elsewhere : ¬system.EndsAt path location) : SameButMissing (system.entryAt path)
      ((system.put location (.file content)).entryAt path) := by
  rw [entryAt, locate, entryAt, locate]
  rcases arrive_beside_put content holds elsewhere with same | ⟨missing, behind⟩
  · rw [same]
    cases arrived : system.arrive true path with
    | error refusal => exact Or.inl rfl
    | ok arrival =>
        cases arrival with
        | free place => exact Or.inl rfl
        | entry place =>
            have apart : place ≠ location := by
              rintro rfl
              exact elsewhere (Or.inl arrived)
            refine Or.inl ?_
            simp only [bind, Except.bind, pure, Except.pure,
              lookup_put_apart holds.below _ apart]
  · rw [missing, behind]
    exact Or.inr ⟨rfl, rfl⟩

/-- What is asked of a path does not change when a file is written elsewhere. -/
theorem ask_beside_put (holds : system.HoldsFile location)
    (elsewhere : ¬system.EndsAt path location) (property : Entry → Bool) :
    (system.put location (.file content)).ask path property = system.ask path property := by
  rcases entry_beside_put content holds elsewhere with same | ⟨missing, behind⟩
  · rw [ask, same, ask]
  · rw [ask, behind, ask, missing]
    rfl

theorem read_beside_put (holds : system.HoldsFile location)
    (elsewhere : ¬system.EndsAt path location) {property : Entry → Bool}
    (there : system.ask path property ≠ .ok false) :
    (system.put location (.file content)).readBytes path = system.readBytes path := by
  rcases entry_beside_put content holds elsewhere with same | ⟨missing, behind⟩
  · rw [readBytes, same, readBytes]
  · rw [ask, missing] at there
    exact absurd rfl there

end Beside

end ImportImpact.FileSystem
