import ImportImpact.Proofs.FileSystem.PlainWalk
import ImportImpact.Proofs.FileSystem.SameBelow
import ImportImpact.Proofs.Outcome

/-!
One tree at two places. Steps that never lead above the place come to the same from both, and a walk
gives the same files. Only the limit on the length of a path can tell the places apart, because it
counts what stands above them too.
-/

namespace ImportImpact.FileSystem

def descend? (below : Location) (step : String) : Option Location :=
  if step = "" || step = "." then some below
  else if step = ".." then if below = [] then none else some below.dropLast
  else some (below ++ [step])

/-- Where steps lead below a place, unless they lead above it on their way. -/
def leadBelow? (below : Location) (steps : List String) : Option Location :=
  steps.foldlM descend? below

/-- The limit on the length of a path lets through the names below both places or below none. -/
def FitsAlike (here there : Location) (names : List String) : Prop :=
  (Path.text ⟨.root, here ++ names⟩).utf8ByteSize < longestPath ↔
    (Path.text ⟨.root, there ++ names⟩).utf8ByteSize < longestPath

/-- A directory without links below it and its copy at another place, where the limit on the length
of a path makes no difference between the entries of the one and those of the other. -/
structure Relocated (first second : FileSystem) (here there : Location) : Prop where
  located : first.locate ⟨.root, here⟩ = .ok here
  located_too : second.locate ⟨.root, there⟩ = .ok there
  directory : first.lookup? here = some .directory
  same : ∀ names, second.lookup? (there ++ names) = first.lookup? (here ++ names)
  no_links : ∀ names target, first.lookup? (here ++ names) ≠ some (.link target)
  fits : ∀ names, first.lookup? (here ++ names) ≠ none → FitsAlike here there names
  platform : second.platform = first.platform

theorem descend_idle {step : String} (idle : step = "" ∨ step = ".") (below : Location) :
    descend? below step = some below :=
  if_pos (by simpa using idle)

theorem descend_up_iff {below next : Location} :
    descend? below ".." = some next ↔ below ≠ [] ∧ next = below.dropLast := by
  rw [descend?, if_neg (by decide), if_pos rfl]
  split
  next top => simp [top]
  next filled => simp [filled, eq_comm]

theorem descend_down {step : String} (down : Downward step) (below : Location) :
    descend? below step = some (below ++ [step]) := by
  rw [descend?, if_neg (by simp [down.filled, down.moves]), if_neg down.down]

theorem lead_below_of_downward {names : List String} (down : ∀ name ∈ names, Downward name)
    (below : Location) : leadBelow? below names = some (below ++ names) := by
  induction names generalizing below with
  | nil => simp [leadBelow?]
  | cons name rest induction =>
      have later := induction (fun other member => down other (List.mem_cons_of_mem name member))
        (below ++ [name])
      rw [leadBelow?, List.foldlM_cons, descend_down (down name List.mem_cons_self)]
      exact later.trans (by rw [List.append_assoc, List.singleton_append])

/-- Two ways that end alike: at the same names below two places, or for the same refusal. -/
inductive EndsAlike (here there names : Location) :
    Except Refusal Arrival → Except Refusal Arrival → Prop
  | entry :
      EndsAlike here there names (.ok (.entry (here ++ names))) (.ok (.entry (there ++ names)))
  | free : EndsAlike here there names (.ok (.free (here ++ names))) (.ok (.free (there ++ names)))
  | refused (refusal : Refusal) : EndsAlike here there names (.error refusal) (.error refusal)

section Relocated

variable {first second : FileSystem} {here there : Location}

/-- From directories below the places one name further down, if the ways behind it end alike. -/
theorem Relocated.followed_down (moved : Relocated first second here there) {through : Bool}
    {left right : Nat} {below names : Location} {step : String} {rest : List String}
    (directory : first.isDirectoryAt (here ++ below) = true) (down : Downward step)
    (leads : leadBelow? (below ++ [step]) rest = some names)
    (later : EndsAlike here there names (first.follow through left (here ++ (below ++ [step])) rest)
      (second.follow through right (there ++ (below ++ [step])) rest)) :
    EndsAlike here there names (first.follow through left (here ++ below) (step :: rest))
      (second.follow through right (there ++ below) (step :: rest)) := by
  have directoryToo : second.isDirectoryAt (there ++ below) = true := by
    rwa [isDirectoryAt, moved.same]
  have found := moved.same (below ++ [step])
  rw [← List.append_assoc, ← List.append_assoc] at found later
  by_cases long : longestName < step.utf8ByteSize
  · rw [follow_long directory down long, follow_long directoryToo down long]
    exact .refused _
  have looks : first.LooksUp (here ++ below) step := ⟨directory, down, Nat.not_lt.1 long⟩
  have looksToo : second.LooksUp (there ++ below) step := ⟨directoryToo, down, looks.short⟩
  cases entered : first.lookup? (here ++ below ++ [step]) with
  | none =>
      rw [looks.follow_missing entered, looksToo.follow_missing (found.trans entered)]
      split
      next last =>
        obtain rfl := List.isEmpty_iff.1 last
        cases leads
        rw [List.append_assoc, List.append_assoc]
        exact .free
      · exact .refused _
  | some entry =>
      have plain : ∀ target, entry ≠ .link target := by
        rintro target rfl
        rw [List.append_assoc] at entered
        exact moved.no_links _ target entered
      rw [looks.follow_entry entered plain, looksToo.follow_entry (found.trans entered) plain]
      exact later

theorem Relocated.followed (moved : Relocated first second here there) (through : Bool)
    (left right : Nat) {below names : Location} {steps : List String}
    (leads : leadBelow? below steps = some names) :
    EndsAlike here there names (first.follow through left (here ++ below) steps)
      (second.follow through right (there ++ below) steps) := by
  -- Both ways take the same steps, and stand below their places by the same names.
  induction steps generalizing below with
  | nil =>
      cases leads
      rw [follow_nothing, follow_nothing]
      exact .entry
  | cons step rest induction =>
      obtain ⟨next, stepped, onward⟩ := Option.bind_eq_some_iff.1 leads
      have later := induction onward
      have asked : second.isDirectoryAt (there ++ below) = first.isDirectoryAt (here ++ below) := by
        rw [isDirectoryAt, isDirectoryAt, moved.same]
      cases directory : first.isDirectoryAt (here ++ below) with
      | false =>
          rw [follow_closed directory, follow_closed (asked.trans directory)]
          exact .refused _
      | true =>
          have directoryToo := asked.trans directory
          rcases step_cases step with idle | rfl | down
          · rw [descend_idle idle] at stepped
            cases stepped
            rw [follow_idle directory idle, follow_idle directoryToo idle]
            exact later
          · obtain ⟨filled, rfl⟩ := descend_up_iff.1 stepped
            rw [follow_up directory, follow_up directoryToo,
              List.dropLast_append_of_ne_nil filled, List.dropLast_append_of_ne_nil filled]
            exact later
          · rw [descend_down down] at stepped
            cases stepped
            exact moved.followed_down directory down onward later

/-- Paths below the places lead to the same, or nowhere for the same reason. -/
theorem Relocated.located_alike (moved : Relocated first second here there)
    {below names : Location} (leads : leadBelow? [] names = some below)
    (fits : FitsAlike here there names) :
    (first.locate ⟨.root, here ++ names⟩ = .ok (here ++ below) ∧
        second.locate ⟨.root, there ++ names⟩ = .ok (there ++ below)) ∨
      ∃ refusal, first.locate ⟨.root, here ++ names⟩ = .error refusal ∧
        second.locate ⟨.root, there ++ names⟩ = .error refusal := by
  obtain ⟨left, onward⟩ := follow_through moved.located names
  obtain ⟨right, onwardToo⟩ := follow_through moved.located_too names
  have ends := moved.followed true left right leads
  rw [List.append_nil, List.append_nil, ← onward, ← onwardToo] at ends
  have start (place : Location) (system : FileSystem) : system.start ⟨.root, place⟩ = [] := rfl
  by_cases short : (Path.text ⟨.root, here ++ names⟩).utf8ByteSize < longestPath
  · rw [locate_of_followed short, locate_of_followed (fits.1 short), start, start]
    revert ends
    generalize first.follow true mostLinks [] (here ++ names) = arrival
    generalize second.follow true mostLinks [] (there ++ names) = arrivalToo
    intro ends
    cases ends with
    | entry => exact Or.inl ⟨rfl, rfl⟩
    | free => exact Or.inr ⟨_, rfl, rfl⟩
    | refused refusal => exact Or.inr ⟨refusal, rfl, rfl⟩
  · have longToo := fun shortToo => short (fits.2 shortToo)
    exact Or.inr ⟨.nameTooLong, locate_too_long (Nat.not_lt.1 short),
      locate_too_long (Nat.not_lt.1 longToo)⟩

theorem Relocated.entry (moved : Relocated first second here there) {names : List String}
    (leads : (leadBelow? [] names).isSome) (fits : FitsAlike here there names) :
    second.entryAt ⟨.root, there ++ names⟩ = first.entryAt ⟨.root, here ++ names⟩ := by
  obtain ⟨below, leads⟩ := Option.isSome_iff_exists.1 leads
  rw [entryAt, entryAt]
  rcases moved.located_alike leads fits with ⟨found, foundToo⟩ | ⟨refusal, lost, lostToo⟩
  · rw [found, foundToo]
    simp only [bind, Except.bind, moved.same]
  · rw [lost, lostToo]
    rfl

theorem directory_alike {place placeToo : Path}
    (same : second.entryAt placeToo = first.entryAt place) :
    (∃ answer, first.isDirectory place = .ok answer ∧ second.isDirectory placeToo = .ok answer) ∨
      ∃ fault other, first.isDirectory place = .error fault ∧
        second.isDirectory placeToo = .error other := by
  rw [isDirectory, isDirectory, ask, ask, same]
  cases first.entryAt place with
  | ok entry => exact Or.inl ⟨_, rfl, rfl⟩
  | error refusal =>
      dsimp only
      split
      · exact Or.inl ⟨false, rfl, rfl⟩
      · exact Or.inr ⟨_, _, rfl, rfl⟩

def LeadsSomewhere (system : FileSystem) (here : Location) (names : List String) : Prop :=
  ∃ location, system.follow true mostLinks here names = .ok (.entry location) ∧
    system.lookup? location ≠ none

theorem EndsAlike.of_first {names location : Location} {ending : Except Refusal Arrival}
    (ends : EndsAlike here there names (.ok (.entry location)) ending) :
    location = here ++ names ∧ ending = .ok (.entry (there ++ names)) := by
  cases ends with
  | entry => exact ⟨rfl, rfl⟩

theorem EndsAlike.of_second {names location : Location} {ending : Except Refusal Arrival}
    (ends : EndsAlike here there names ending (.ok (.entry location))) :
    location = there ++ names ∧ ending = .ok (.entry (here ++ names)) := by
  cases ends with
  | entry => exact ⟨rfl, rfl⟩

/-- What is found below one of the places is there, however many links the way to the place has. -/
theorem Relocated.leads_somewhere (moved : Relocated first second here there)
    {names : List String} (leads : (leadBelow? [] names).isSome) {entry : Entry}
    (found : first.entryAt ⟨.root, here ++ names⟩ = .ok entry ∨
      second.entryAt ⟨.root, there ++ names⟩ = .ok entry) : first.LeadsSomewhere here names := by
  obtain ⟨below, leads⟩ := Option.isSome_iff_exists.1 leads
  have ends (left right : Nat) :
      EndsAlike here there below (first.follow true left here names)
        (second.follow true right there names) := by
    have from_top := moved.followed true left right leads
    rwa [List.append_nil, List.append_nil] at from_top
  rcases found with found | found
  · obtain ⟨location, located, present⟩ := located_of_entry found
    obtain ⟨left, onward⟩ := follow_through moved.located names
    have alike := ends left 0
    rw [← onward, show first.follow true mostLinks [] (here ++ names) = .ok (.entry location) from
      (located_iff.1 located).2] at alike
    obtain ⟨rfl, arrived⟩ := alike.of_first
    exact ⟨_, (arrived ▸ ends mostLinks 0).of_second.2, by rw [present]; simp⟩
  · obtain ⟨location, located, present⟩ := located_of_entry found
    obtain ⟨right, onward⟩ := follow_through moved.located_too names
    have alike := ends mostLinks right
    rw [← onward, show second.follow true mostLinks [] (there ++ names) = .ok (.entry location) from
      (located_iff.1 located).2] at alike
    obtain ⟨rfl, arrived⟩ := alike.of_second
    rw [moved.same] at present
    exact ⟨_, arrived, by rw [present]; simp⟩

/-- What a path leads to is the same below both places, unless the path is too long for one of
them. -/
theorem Relocated.entry_iff (moved : Relocated first second here there) {names : List String}
    (leads : (leadBelow? [] names).isSome)
    (fits : first.LeadsSomewhere here names → FitsAlike here there names) (entry : Entry) :
    second.entryAt ⟨.root, there ++ names⟩ = .ok entry ↔
      first.entryAt ⟨.root, here ++ names⟩ = .ok entry := by
  constructor
  · intro found
    rwa [← moved.entry leads (fits (moved.leads_somewhere leads (Or.inr found)))]
  · intro found
    rwa [moved.entry leads (fits (moved.leads_somewhere leads (Or.inl found)))]

theorem Relocated.fits_downward (moved : Relocated first second here there)
    {names : List String} (down : ∀ name ∈ names, Downward name) :
    first.LeadsSomewhere here names → FitsAlike here there names := by
  rintro ⟨location, arrived, present⟩
  have ends := moved.followed true mostLinks 0 (lead_below_of_downward down [])
  rw [List.append_nil, List.nil_append, arrived] at ends
  obtain ⟨rfl, -⟩ := ends.of_first
  exact moved.fits names present

theorem fits_of_located {system other : FileSystem} {place placeToo : Location}
    (located : system.locate ⟨.root, place⟩ = .ok place)
    (locatedToo : other.locate ⟨.root, placeToo⟩ = .ok placeToo) : FitsAlike place placeToo [] := by
  rw [FitsAlike, List.append_nil, List.append_nil]
  exact iff_of_true (located_iff.1 located).1 (located_iff.1 locatedToo).1

end Relocated

def Beside (system : FileSystem) (here there : Location) (path other : Path) : Prop :=
  ∃ names, (∀ name ∈ names, isName name = true) ∧ system.lookup? (here ++ names) ≠ none ∧
    path = ⟨.root, here ++ names⟩ ∧ other = ⟨.root, there ++ names⟩

section Walk

variable {first second : FileSystem} {here there : Location} {names folders ignored : List String}
  {rules : WalkRules}

theorem lt_of_append_lt {shared first second : List String}
    (less : shared ++ first < shared ++ second) : first < second := by
  induction shared with
  | nil => exact less
  | cons name rest induction =>
      rw [List.cons_append, List.cons_append, List.cons_lt_cons_iff] at less
      rcases less with before | ⟨-, later⟩
      · exact absurd before (lt_irrefl name)
      · exact induction later

theorem beside_of_ordered {found again : List Path} {given : List String → Prop}
    (held : ∀ names, given names →
      (∀ name ∈ names, isName name = true) ∧ first.lookup? (here ++ names) ≠ none)
    (met : ∀ path, path ∈ found ↔ ∃ names, path = ⟨.root, here ++ names⟩ ∧ given names)
    (metToo : ∀ path, path ∈ again ↔ ∃ names, path = ⟨.root, there ++ names⟩ ∧ given names)
    (ordered : found.Pairwise fun left right => left.names < right.names)
    (orderedToo : again.Pairwise fun left right => left.names < right.names) :
    List.Forall₂ (Beside first here there) found again := by
  obtain ⟨tails, rfl⟩ : ∃ tails : List (List String),
      found = tails.map fun names => ⟨.root, here ++ names⟩ := by
    refine ⟨found.map fun path => path.names.drop here.length, ?_⟩
    rw [List.map_map, List.map_congr_left (g := id), List.map_id]
    intro path member
    obtain ⟨names, rfl, -⟩ := (met path).1 member
    simp
  have known : ∀ names, names ∈ tails ↔ given names := by
    intro names
    have here_names := met ⟨.root, here ++ names⟩
    simpa [eq_comm] using here_names
  have same : again = tails.map fun names => ⟨.root, there ++ names⟩ := by
    refine eq_of_ordered orderedToo ?_ fun path => ?_
    · rw [List.pairwise_map] at ordered ⊢
      exact ordered.imp fun less => List.append_left_lt (lt_of_append_lt less)
    · rw [metToo, List.mem_map]
      simp only [known, eq_comm, and_comm]
  rw [same, List.forall₂_map_left_iff, List.forall₂_map_right_iff, List.forall₂_same]
  intro names member
  obtain ⟨named, there⟩ := held names ((known names).1 member)
  exact ⟨names, named, there, rfl, rfl⟩

theorem Relocated.below (moved : Relocated first second here there) (names more : List String) :
    second.lookup? (there ++ names ++ more) = first.lookup? (here ++ names ++ more) := by
  rw [List.append_assoc, List.append_assoc, moved.same]

theorem Relocated.listable_iff (moved : Relocated first second here there)
    (top : first.lookup? (here ++ names) = some .directory)
    (opened : first.Opened ignored (here ++ names) folders) :
    Listable ⟨.root, there ++ names⟩ folders ↔ Listable ⟨.root, here ++ names⟩ folders := by
  have directory := opened.is_directory top
  have fits : FitsAlike here there (names ++ folders) := by
    apply moved.fits
    rw [← List.append_assoc, of_decide_eq_true directory]
    simp
  rw [FitsAlike, ← List.append_assoc, ← List.append_assoc] at fits
  rw [Listable, Listable]
  exact and_congr_left' fits.symm

theorem Relocated.room_iff (moved : Relocated first second here there)
    (top : first.lookup? (here ++ names) = some .directory) :
    second.PlainRoom ignored ⟨.root, there ++ names⟩ (there ++ names) ↔
      first.PlainRoom ignored ⟨.root, here ++ names⟩ (here ++ names) := by
  unfold PlainRoom
  rw [moved.platform]
  constructor
  · intro room folders name opened listable
    have above := (opened_down_iff.1 opened).1
    exact room folders name (opened_congr (moved.below names) opened)
      ((moved.listable_iff top above).2 listable)
  · intro room folders name opened listable
    have openedToo := opened_congr (fun more => (moved.below names more).symm) opened
    exact room folders name openedToo
      ((moved.listable_iff top (opened_down_iff.1 openedToo).1).1 listable)

theorem Relocated.walks_to_iff (moved : Relocated first second here there)
    (top : first.lookup? (here ++ names) = some .directory) {name : String} :
    second.WalksTo rules ⟨.root, there ++ names⟩ (there ++ names) folders name ↔
      first.WalksTo rules ⟨.root, here ++ names⟩ (here ++ names) folders name := by
  have file : second.lookup? (there ++ names ++ folders ++ [name]) =
      first.lookup? (here ++ names ++ folders ++ [name]) := by
    rw [List.append_assoc _ folders, moved.below, List.append_assoc _ folders]
  constructor
  · rintro ⟨opened, listable, named, wanted, content, there⟩
    have openedToo := opened_congr (fun more => (moved.below names more).symm) opened
    exact ⟨openedToo, (moved.listable_iff top openedToo).1 listable, named, wanted, content,
      file ▸ there⟩
  · rintro ⟨opened, listable, named, wanted, content, there⟩
    exact ⟨opened_congr (moved.below names) opened, (moved.listable_iff top opened).2 listable,
      named, wanted, content, file.trans there⟩

theorem mem_walk_below_iff {system : FileSystem} {place : Location} {path : Path}
    (plain : ∀ more target, system.lookup? (place ++ names ++ more) = some (.link target) →
      rules.followLinks = false)
    (located : system.locate ⟨.root, place ++ names⟩ = .ok (place ++ names))
    (top : system.lookup? (place ++ names) = some .directory) :
    path ∈ system.filesBelow rules ⟨.root, place ++ names⟩ (place ++ names) ↔
      ∃ others, path = ⟨.root, place ++ others⟩ ∧ ∃ folders name,
        others = names ++ (folders ++ [name]) ∧
          system.WalksTo rules ⟨.root, place ++ names⟩ (place ++ names) folders name := by
  rw [mem_plain_files_iff plain located top (real_path_of_place located)]
  constructor
  · rintro ⟨folders, name, rfl, given⟩
    exact ⟨_, congrArg (Path.mk .root) (List.append_assoc _ _ _), folders, name, rfl, given⟩
  · rintro ⟨_, rfl, folders, name, rfl, given⟩
    exact ⟨folders, name, congrArg (Path.mk .root) (List.append_assoc _ _ _).symm, given⟩

theorem Relocated.plain_below (moved : Relocated first second here there) (names : List String)
    (more : List String) (target : String)
    (link : first.lookup? (here ++ names ++ more) = some (.link target)) :
    rules.followLinks = false := by
  rw [List.append_assoc] at link
  exact absurd link (moved.no_links _ target)

theorem Relocated.plain_below_too (moved : Relocated first second here there) (names : List String)
    (more : List String) (target : String)
    (link : second.lookup? (there ++ names ++ more) = some (.link target)) :
    rules.followLinks = false :=
  moved.plain_below names more target (moved.below names more ▸ link)

theorem Relocated.walked (moved : Relocated first second here there)
    (down : ∀ name ∈ names, isName name = true)
    (located : first.locate ⟨.root, here ++ names⟩ = .ok (here ++ names))
    (locatedToo : second.locate ⟨.root, there ++ names⟩ = .ok (there ++ names))
    (top : first.lookup? (here ++ names) = some .directory) (rules : WalkRules) :
    List.Forall₂ (Beside first here there)
      (first.filesBelow rules ⟨.root, here ++ names⟩ (here ++ names))
      (second.filesBelow rules ⟨.root, there ++ names⟩ (there ++ names)) := by
  have topToo : second.lookup? (there ++ names) = some .directory := moved.same names ▸ top
  apply beside_of_ordered _
    (fun path => mem_walk_below_iff (moved.plain_below names) located top)
  · intro path
    rw [mem_walk_below_iff (moved.plain_below_too names) locatedToo topToo]
    simp only [moved.walks_to_iff top]
  · exact files_ordered rules _
  · exact files_ordered rules _
  · rintro others ⟨folders, name, rfl, given⟩
    obtain ⟨content, file⟩ := given.there
    refine ⟨List.forall_mem_append.2 ⟨down, List.forall_mem_append.2
      ⟨given.opened.named, List.forall_mem_singleton.2 given.named⟩⟩, ?_⟩
    rw [← List.append_assoc, ← List.append_assoc, file]
    simp

theorem Relocated.walk_alike (moved : Relocated first second here there)
    (down : ∀ name ∈ names, isName name = true) (fits : FitsAlike here there names)
    (there_too : first.isDirectory ⟨.root, here ++ names⟩ = .ok true) (rules : WalkRules) :
    Outcome.Alike (List.Forall₂ (Beside first here there))
      (first.walk rules ⟨.root, here ++ names⟩) (second.walk rules ⟨.root, there ++ names⟩) := by
  classical
  obtain ⟨start, located, top⟩ := located_directory there_too
  have leads := lead_below_of_downward (fun name member => downward_of_name (down name member)) []
  rcases moved.located_alike leads fits with ⟨found, foundToo⟩ | ⟨refusal, lost, -⟩
  · rw [found] at located
    cases located
    rw [List.nil_append] at found foundToo top
    have topToo : second.lookup? (there ++ names) = some .directory := moved.same names ▸ top
    have room := plain_room_iff rules (moved.plain_below names) found top
      (real_path_of_place found)
    have roomToo := plain_room_iff rules (moved.plain_below_too names) foundToo topToo
      (real_path_of_place foundToo)
    rw [walk_of_located rules there_too found,
      walk_of_located rules (directory_of_located foundToo topToo) foundToo]
    by_cases enough : first.PlainRoom rules.ignored ⟨.root, here ++ names⟩ (here ++ names)
    · rw [if_pos (room.2 enough), if_pos (roomToo.2 ((moved.room_iff top).2 enough))]
      exact .succeeded (moved.walked down found foundToo top rules)
    · rw [if_neg (enough ∘ room.1), if_neg (enough ∘ (moved.room_iff top).1 ∘ roomToo.1)]
      exact .failed _ _
  · rw [lost] at located
    cases located

end Walk

end ImportImpact.FileSystem
