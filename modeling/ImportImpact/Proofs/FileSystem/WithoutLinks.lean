import ImportImpact.FileSystem.RealPath
import ImportImpact.Proofs.FileSystem.Lookup

/-!
A tree without links. What a path leads to can be told from its steps alone: each of them goes one
name down, stays, or goes back up. On the way only the entries that are passed are looked at.
-/

namespace ImportImpact.FileSystem

def NoLinks (system : FileSystem) : Prop :=
  ∀ location target, system.lookup? location ≠ some (.link target)

/-- The location that steps lead to, whatever is there. -/
def lead (here : Location) (steps : List String) : Location :=
  steps.foldl (fun here step =>
    if step = "" || step = "." then here
    else if step = ".." then here.dropLast
    else here ++ [step]) here

theorem lead_append (here : Location) (first rest : List String) :
    lead here (first ++ rest) = lead (lead here first) rest :=
  List.foldl_append

theorem lead_idle {step : String} (idle : step = "" ∨ step = ".") (here : Location)
    (rest : List String) : lead here (step :: rest) = lead here rest := by
  rw [lead, List.foldl_cons, if_pos (by simpa using idle), lead]

theorem lead_up (here : Location) (rest : List String) :
    lead here (".." :: rest) = lead here.dropLast rest := by
  rfl

theorem lead_down {step : String} (down : Downward step) (here : Location) (rest : List String) :
    lead here (step :: rest) = lead (here ++ [step]) rest := by
  rw [lead, List.foldl_cons, if_neg (by simp [down.filled, down.moves]), if_neg down.down, lead]

theorem lead_of_downward {names : List String} (down : ∀ name ∈ names, Downward name)
    (here : Location) : lead here names = here ++ names := by
  induction names generalizing here with
  | nil => simp [lead]
  | cons name rest induction =>
      have later := induction fun other member => down other (List.mem_cons_of_mem name member)
      rw [lead_down (down name List.mem_cons_self), later, List.append_assoc,
        List.singleton_append]

theorem lead_downward {here : Location} (down : ∀ name ∈ here, Downward name)
    (steps : List String) : ∀ name ∈ lead here steps, Downward name := by
  induction steps generalizing here with
  | nil => exact down
  | cons step rest induction =>
      rcases step_cases step with idle | rfl | goes
      · rw [lead_idle idle]
        exact induction down
      · rw [lead_up]
        exact induction fun name member => down name (List.dropLast_subset here member)
      · rw [lead_down goes]
        exact induction (List.forall_mem_append.2 ⟨down, List.forall_mem_singleton.2 goes⟩)

def Passes (kind : Location → Prop) (here : Location) (steps : List String) : Prop :=
  ∀ passed, passed <+: steps → kind (lead here passed)

namespace Passes

variable {kind : Location → Prop} {here : Location} {step : String} {rest steps : List String}

theorem start (passes : Passes kind here steps) : kind here := passes [] List.nil_prefix

theorem idle (passes : Passes kind here (step :: rest)) (idle : step = "" ∨ step = ".") :
    Passes kind here rest := fun passed shorter => by
  rw [← lead_idle idle]
  exact passes (step :: passed) ((List.prefix_cons_inj step).2 shorter)

theorem up (passes : Passes kind here (".." :: rest)) : Passes kind here.dropLast rest :=
  fun passed shorter => passes (".." :: passed) ((List.prefix_cons_inj "..").2 shorter)

theorem down (passes : Passes kind here (step :: rest)) (down : Downward step) :
    Passes kind (here ++ [step]) rest := fun passed shorter => by
  rw [← lead_down down]
  exact passes (step :: passed) ((List.prefix_cons_inj step).2 shorter)

theorem next (passes : Passes kind here (step :: rest)) (down : Downward step) :
    kind (here ++ [step]) :=
  (passes.down down).start

end Passes

def PassesNoLink (system : FileSystem) (here : Location) (steps : List String) : Prop :=
  ∀ passed, passed <+: steps → ∀ target, system.lookup? (lead here passed) ≠ some (.link target)

section Follow

variable {system : FileSystem}

theorem NoLinks.passed (plain : system.NoLinks) (here : Location) (steps : List String) :
    system.PassesNoLink here steps := fun _ _ target => plain _ target

theorem PassesNoLink.passes {here : Location} {steps : List String}
    (plain : system.PassesNoLink here steps) :
    Passes (fun place => ∀ target, system.lookup? place ≠ some (.link target)) here steps :=
  plain

theorem follow_lands {through : Bool} {links : Nat} {steps : List String}
    {here location : Location} (plain : system.PassesNoLink here steps)
    (arrived : system.follow through links here steps = .ok (.entry location)) :
    location = lead here steps := by
  replace plain := plain.passes
  generalize ended : Arrival.entry location = arrival at arrived
  replace arrived := followed_iff.1 arrived
  induction arrived with
  | nothing =>
      cases ended
      rfl
  | idle directory idle onward induction =>
      rw [lead_idle idle]
      exact induction (plain.idle idle) ended
  | up directory onward induction =>
      rw [lead_up]
      exact induction plain.up ended
  | free => cases ended
  | last looks link => exact absurd link (plain.next looks.down _)
  | link looks link => exact absurd link (plain.next looks.down _)
  | entry looks found noLink onward induction =>
      rw [lead_down looks.down]
      exact induction (plain.down looks.down) ended

/-- Two trees that agree on all that is passed lead the steps to the same end. -/
theorem follow_congr {other : FileSystem} {through : Bool} {links : Nat} {here : Location}
    {steps : List String} (plain : system.PassesNoLink here steps)
    (same : ∀ passed, passed <+: steps →
      system.lookup? (lead here passed) = other.lookup? (lead here passed)) :
    system.follow through links here steps = other.follow through links here steps := by
  replace plain := plain.passes
  replace same : Passes (fun place => system.lookup? place = other.lookup? place) here steps := same
  have directory_too {here : Location} {steps : List String} {answer : Bool}
      (same : Passes (fun place => system.lookup? place = other.lookup? place) here steps)
      (directory : system.isDirectoryAt here = answer) : other.isDirectoryAt here = answer := by
    rwa [isDirectoryAt, ← same.start]
  have looking {here : Location} {step : String} {rest : List String}
      (same : Passes (fun place => system.lookup? place = other.lookup? place) here (step :: rest))
      (looks : system.LooksUp here step) : other.LooksUp here step :=
    ⟨directory_too same looks.directory, looks.down, looks.short⟩
  induction links, here, steps using follow_induction system through with
  | nothing => rw [follow_nothing, follow_nothing]
  | closed links here step rest closed =>
      rw [follow_closed closed, follow_closed (directory_too same closed)]
  | idle links here step rest directory idle induction =>
      rw [follow_idle directory idle, follow_idle (directory_too same directory) idle]
      exact induction (plain.idle idle) (same.idle idle)
  | up links here rest directory induction =>
      rw [follow_up directory, follow_up (directory_too same directory)]
      exact induction plain.up same.up
  | long links here step rest directory down long =>
      rw [follow_long directory down long, follow_long (directory_too same directory) down long]
  | missing links here step rest looks missing =>
      rw [looks.follow_missing missing,
        (looking same looks).follow_missing ((same.next looks.down).symm.trans missing)]
  | last links here step target looks link =>
      exact absurd link (plain.next looks.down target)
  | spent here step rest target looks link =>
      exact absurd link (plain.next looks.down target)
  | link links here step rest target looks link =>
      exact absurd link (plain.next looks.down target)
  | entry links here step rest entry looks found noLink induction =>
      rw [looks.follow_entry found noLink,
        (looking same looks).follow_entry ((same.next looks.down).symm.trans found) noLink]
      exact induction (plain.down looks.down) (same.down looks.down)

theorem follow_downward (plain : system.NoLinks) {through : Bool} {links : Nat} {here : Location}
    {step : String} {rest : List String} (down : Downward step) :
    system.follow through links here (step :: rest) =
      if !system.isDirectoryAt here then .error .notDirectory
      else if step.utf8ByteSize > longestName then .error .nameTooLong
      else if system.lookup? (here ++ [step]) = none then
        if rest.isEmpty then .ok (.free (here ++ [step])) else .error .noEntry
      else system.follow through links (here ++ [step]) rest := by
  cases directory : system.isDirectoryAt here with
  | false => exact follow_closed directory step rest
  | true =>
      rw [if_neg (by decide)]
      by_cases long : longestName < step.utf8ByteSize
      · rw [if_pos long, follow_long directory down long]
      · have looks : system.LooksUp here step := ⟨directory, down, Nat.not_lt.1 long⟩
        rw [if_neg long]
        cases there : system.lookup? (here ++ [step]) with
        | none => rw [if_pos rfl, looks.follow_missing there]
        | some entry =>
            have noLink : ∀ target, entry ≠ .link target := by
              rintro target rfl
              exact plain _ _ there
            rw [if_neg (by simp), looks.follow_entry there noLink]

theorem follow_there (plain : system.NoLinks) {through : Bool} {links : Nat}
    {here location : Location} {steps : List String} (down : ∀ step ∈ steps, Downward step)
    (there : system.lookup? here ≠ none)
    (arrived : system.follow through links here steps = .ok (.entry location)) :
    system.lookup? location ≠ none := by
  generalize ended : Arrival.entry location = arrival at arrived
  replace arrived := followed_iff.1 arrived
  induction arrived with
  | nothing =>
      cases ended
      exact there
  | idle directory idle onward induction =>
      exact induction (fun name member => down name (List.mem_cons_of_mem _ member)) there ended
  | up => exact absurd rfl (down ".." List.mem_cons_self).down
  | free => cases ended
  | last looks link => exact absurd link (plain _ _)
  | link looks link => exact absurd link (plain _ _)
  | entry looks found noLink onward induction =>
      refine induction (fun name member => down name (List.mem_cons_of_mem _ member)) ?_ ended
      rw [found]
      nofun

theorem follow_ends (plain : system.NoLinks) (through : Bool) (links : Nat) (here : Location)
    (steps : List String) :
    system.follow through links here steps ≠ .error .tooManyLinks := by
  induction links, here, steps using follow_induction system through with
  | nothing =>
      rw [follow_nothing]
      nofun
  | closed links here step rest closed =>
      rw [follow_closed closed]
      nofun
  | idle links here step rest directory idle induction => rwa [follow_idle directory idle]
  | up links here rest directory induction => rwa [follow_up directory]
  | long links here step rest directory down long =>
      rw [follow_long directory down long]
      nofun
  | missing links here step rest looks missing =>
      rw [looks.follow_missing missing]
      split <;> nofun
  | last links here step target looks link => exact absurd link (plain _ _)
  | spent here step rest target looks link => exact absurd link (plain _ _)
  | link links here step rest target looks link => exact absurd link (plain _ _)
  | entry links here step rest entry looks found noLink induction =>
      rwa [looks.follow_entry found noLink]

end Follow

section Locate

variable {system : FileSystem} {path : Path} {location : Location}

theorem locate_lands (plain : system.PassesNoLink (system.start path) path.names)
    (located : system.locate path = .ok location) :
    location = lead (system.start path) path.names :=
  follow_lands plain (located_iff.1 located).2

end Locate

theorem real_path_of_passed {system : FileSystem} {path : Path}
    (plain : system.PassesNoLink (system.start path) path.names) :
    system.realPath path = ⟨.root, lead (system.start path) path.names⟩ := by
  have steps : ∀ (names : List String) (here : Location), system.PassesNoLink here names →
      system.realFrom [] [] here (names.map .step) = lead here names := by
    intro names
    induction names with
    | nil =>
        intro here _
        rw [List.map_nil, realFrom]
        rfl
    | cons name rest induction =>
        intro here plain
        replace plain := plain.passes
        rw [List.map_cons]
        rcases step_cases name with idle | rfl | down
        · rw [realFrom, if_pos (by simpa using idle), lead_idle idle]
          exact induction here (plain.idle idle)
        · rw [realFrom, if_neg (by decide), if_pos rfl, lead_up]
          exact induction here.dropLast plain.up
        · rw [real_from_plain (by simp [down.filled, down.moves]) down.down
            (link_at_none (plain.next down)), lead_down down]
          exact induction (here ++ [name]) (plain.down down)
  rw [realPath, steps _ _ plain]

theorem real_path_eq {system : FileSystem} (plain : system.NoLinks) (path : Path) :
    system.realPath path = ⟨.root, lead (system.start path) path.names⟩ :=
  real_path_of_passed (plain.passed _ _)

/-- No link lies above what a path from the root leads to, and no step there but goes down. -/
theorem place_of_followed {system : FileSystem} {links : Nat} {here location : Location}
    {steps : List String} (down : ∀ name ∈ here, Downward name)
    (plain : ∀ passed, passed <+: here → ∀ target, system.lookup? passed ≠ some (.link target))
    (arrived : system.follow true links here steps = .ok (.entry location)) :
    (∀ name ∈ location, Downward name) ∧
      ∀ passed, passed <+: location → ∀ target, system.lookup? passed ≠ some (.link target) := by
  generalize ended : Arrival.entry location = arrival at arrived
  replace arrived := followed_iff.1 arrived
  induction arrived with
  | nothing =>
      cases ended
      exact ⟨down, plain⟩
  | idle directory idle onward induction => exact induction down plain ended
  | up directory onward induction =>
      exact induction (fun name member => down name (List.dropLast_subset _ member))
        (fun passed shorter => plain passed (shorter.trans (List.dropLast_prefix _))) ended
  | free => cases ended
  | last looks there stays => cases stays
  | link looks there goes onward induction =>
      refine induction ?_ ?_ ended
      · split
        · simp
        · exact down
      · split
        · intro passed shorter target link
          rw [List.prefix_nil.1 shorter] at link
          cases link
        · exact plain
  | entry looks there noLink onward induction =>
      refine induction (List.forall_mem_append.2 ⟨down, List.forall_mem_singleton.2 looks.down⟩)
        (fun passed shorter target link => ?_) ended
      rcases List.prefix_concat_iff.1 shorter with rfl | before
      · exact noLink target (Option.some.inj (there.symm.trans link))
      · exact plain passed before target link

theorem real_path_of_place {system : FileSystem} {place : Location}
    (located : system.locate ⟨.root, place⟩ = .ok place) :
    system.realPath ⟨.root, place⟩ = ⟨.root, place⟩ := by
  obtain ⟨down, plain⟩ := place_of_followed (by simp [start]) (fun passed shorter target link => by
    rw [List.prefix_nil.1 shorter] at link
    cases link) (located_iff.1 located).2
  have passes : system.PassesNoLink [] place := by
    intro passed shorter
    rw [lead_of_downward (fun name member => down name (shorter.subset member)), List.nil_append]
    exact plain passed shorter
  have real : system.realPath ⟨.root, place⟩ = ⟨.root, lead [] place⟩ := real_path_of_passed passes
  rw [real, lead_of_downward down, List.nil_append]

theorem settle_eq {system : FileSystem} (plain : system.NoLinks) (path : Path) :
    system.settle path = .ok (system.realPath path) := by
  have ends : system.locate (system.realPath path) ≠ .error .tooManyLinks := by
    have followed := follow_ends plain true mostLinks (system.start (system.realPath path))
      (system.realPath path).names
    by_cases short : (system.realPath path).text.utf8ByteSize < longestPath
    · rw [locate_of_followed short]
      split
      · nofun
      · nofun
      next refusal refused =>
        rw [refused] at followed
        exact fun same => followed (congrArg Except.error (Except.error.inj same))
    · rw [locate_too_long (Nat.not_lt.1 short)]
      nofun
  unfold settle
  dsimp only
  split
  next loop => exact absurd loop ends
  · rfl

end ImportImpact.FileSystem
