import ImportImpact.FileSystem.Basic

/-!
One step of a path, and what the way behind it is. A step fails on what is no directory, stays where
it is, goes up, or looks up a name; and the name is too long, missing, a link or something else. The
equations say how the way goes on in each case, and the induction is over the ways that they tell.
The ways that arrive somewhere are told by a relation of their own.
-/

namespace ImportImpact.FileSystem

variable {system : FileSystem}

/-- The step goes one name down. -/
structure Downward (step : String) : Prop where
  filled : step ≠ ""
  moves : step ≠ "."
  down : step ≠ ".."

theorem step_cases (step : String) : (step = "" ∨ step = ".") ∨ step = ".." ∨ Downward step := by
  by_cases idle : step = "" ∨ step = "."
  · exact .inl idle
  · by_cases up : step = ".."
    · exact .inr (.inl up)
    · obtain ⟨filled, moves⟩ := not_or.1 idle
      exact .inr (.inr ⟨filled, moves, up⟩)

theorem downward_of_busy {step : String} (busy : ¬(step = "" || step = ".") = true)
    (down : ¬step = "..") : Downward step := by
  simp only [Bool.or_eq_true, decide_eq_true_eq, not_or] at busy
  exact ⟨busy.1, busy.2, down⟩

/-- The step comes from a directory to a name that can be looked up in it. -/
structure LooksUp (system : FileSystem) (here : Location) (step : String) : Prop where
  directory : system.isDirectoryAt here = true
  down : Downward step
  short : step.utf8ByteSize ≤ longestName

theorem looks_up_of_busy {here : Location} {step : String}
    (directory : ¬(!system.isDirectoryAt here) = true) (busy : ¬(step = "" || step = ".") = true)
    (down : ¬step = "..") (short : ¬step.utf8ByteSize > longestName) :
    system.LooksUp here step :=
  ⟨by simpa using directory, downward_of_busy busy down, Nat.not_lt.1 short⟩

/-- A link with these steps behind it is gone through. -/
def GoesThrough (through : Bool) (rest : List String) : Prop := through = false → rest ≠ []

theorem goes_through_all (rest : List String) : GoesThrough true rest := nofun

theorem goes_through_iff {through : Bool} {rest : List String} :
    GoesThrough through rest ↔ ¬(rest.isEmpty && !through) = true := by
  cases through <;> simp [GoesThrough]

section Equations

variable {through : Bool} {links : Nat} {here : Location} {step : String}

theorem follow_nothing (through : Bool) (links : Nat) (here : Location) :
    system.follow through links here [] = .ok (.entry here) := by
  rw [follow]

theorem follow_closed (file : system.isDirectoryAt here = false) (step : String)
    (rest : List String) :
    system.follow through links here (step :: rest) = .error .notDirectory := by
  rw [follow, file]
  rfl

theorem follow_idle (directory : system.isDirectoryAt here = true) (idle : step = "" ∨ step = ".")
    (rest : List String) :
    system.follow through links here (step :: rest) = system.follow through links here rest := by
  have stays : (step = "" || step = ".") = true := by simpa using idle
  rw [follow, directory, if_neg (by decide), if_pos stays]

theorem follow_up (directory : system.isDirectoryAt here = true) (rest : List String) :
    system.follow through links here (".." :: rest) =
      system.follow through links here.dropLast rest := by
  rw [follow, directory]
  rfl

theorem follow_long (directory : system.isDirectoryAt here = true) (down : Downward step)
    (long : longestName < step.utf8ByteSize) (rest : List String) :
    system.follow through links here (step :: rest) = .error .nameTooLong := by
  rw [follow, directory, if_neg (by decide), if_neg (by simp [down.filled, down.moves]),
    if_neg down.down, if_pos long]

namespace LooksUp

variable (looks : system.LooksUp here step)

include looks

/-- What becomes of a step that looks up a name is decided by the entry that it finds. -/
theorem follow (rest : List String) : system.follow through links here (step :: rest) =
    match system.lookup? (here ++ [step]) with
    | none => if rest.isEmpty then .ok (.free (here ++ [step])) else .error .noEntry
    | some (.link target) =>
        if rest.isEmpty && !through then .ok (.entry (here ++ [step]))
        else match links with
          | 0 => .error .tooManyLinks
          | links + 1 =>
              system.follow through links (if Written.rooted target then [] else here)
                (steps target ++ rest)
    | some _ => system.follow through links (here ++ [step]) rest := by
  obtain ⟨directory, down, short⟩ := looks
  rw [FileSystem.follow, directory, if_neg (by decide), if_neg (by simp [down.filled, down.moves]),
    if_neg down.down]
  exact if_neg (Nat.not_lt.2 short)

theorem follow_missing (missing : system.lookup? (here ++ [step]) = none) (rest : List String) :
    system.follow through links here (step :: rest) =
      if rest.isEmpty then .ok (.free (here ++ [step])) else .error .noEntry := by
  rw [looks.follow, missing]

theorem follow_last {target : String}
    (there : system.lookup? (here ++ [step]) = some (.link target)) :
    system.follow false links here [step] = .ok (.entry (here ++ [step])) := by
  rw [looks.follow, there]
  rfl

theorem follow_spent {target : String} {rest : List String}
    (there : system.lookup? (here ++ [step]) = some (.link target))
    (onward : GoesThrough through rest) :
    system.follow through 0 here (step :: rest) = .error .tooManyLinks := by
  rw [looks.follow, there]
  exact if_neg (goes_through_iff.1 onward)

theorem follow_link {target : String} {rest : List String}
    (there : system.lookup? (here ++ [step]) = some (.link target))
    (onward : GoesThrough through rest) :
    system.follow through (links + 1) here (step :: rest) =
      system.follow through links (if Written.rooted target then [] else here)
        (steps target ++ rest) := by
  rw [looks.follow, there]
  exact if_neg (goes_through_iff.1 onward)

theorem follow_entry {entry : Entry} (there : system.lookup? (here ++ [step]) = some entry)
    (plain : ∀ target, entry ≠ .link target) (rest : List String) :
    system.follow through links here (step :: rest) =
      system.follow through links (here ++ [step]) rest := by
  rw [looks.follow, there]
  cases entry with
  | link target => exact absurd rfl (plain target)
  | directory => rfl
  | file content => rfl

end LooksUp

end Equations

/-- What holds of the way behind a step, and passes from there to the way with this step, holds of
every way. A link gives its target's steps to the way behind it, and takes one of the links that are
left. -/
@[elab_as_elim]
theorem follow_induction (system : FileSystem) (through : Bool)
    {motive : (links : Nat) → (here : Location) → (steps : List String) → Prop}
    (nothing : ∀ links here, motive links here [])
    (closed : ∀ links here step rest, system.isDirectoryAt here = false →
      motive links here (step :: rest))
    (idle : ∀ links here step rest, system.isDirectoryAt here = true → step = "" ∨ step = "." →
      motive links here rest → motive links here (step :: rest))
    (up : ∀ links here rest, system.isDirectoryAt here = true → motive links here.dropLast rest →
      motive links here (".." :: rest))
    (long : ∀ links here step rest, system.isDirectoryAt here = true → Downward step →
      longestName < step.utf8ByteSize → motive links here (step :: rest))
    (missing : ∀ links here step rest, system.LooksUp here step →
      system.lookup? (here ++ [step]) = none → motive links here (step :: rest))
    (last : ∀ links here step target, system.LooksUp here step →
      system.lookup? (here ++ [step]) = some (.link target) → through = false →
      motive links here [step])
    (spent : ∀ here step rest target, system.LooksUp here step →
      system.lookup? (here ++ [step]) = some (.link target) → GoesThrough through rest →
      motive 0 here (step :: rest))
    (link : ∀ links here step rest target, system.LooksUp here step →
      system.lookup? (here ++ [step]) = some (.link target) → GoesThrough through rest →
      motive links (if Written.rooted target then [] else here) (steps target ++ rest) →
      motive (links + 1) here (step :: rest))
    (entry : ∀ links here step rest entry, system.LooksUp here step →
      system.lookup? (here ++ [step]) = some entry → (∀ target, entry ≠ .link target) →
      motive links (here ++ [step]) rest → motive links here (step :: rest))
    (links : Nat) (here : Location) (steps : List String) : motive links here steps := by
  fun_induction follow system through links here steps with
  | case1 links here => exact nothing links here
  | case2 links here step rest file => exact closed links here step rest (by simpa using file)
  | case3 links here step rest directory stays induction =>
      exact idle links here step rest (by simpa using directory) (by simpa using stays) induction
  | case4 links here rest directory busy induction =>
      exact up links here rest (by simpa using directory) induction
  | case5 links here step rest directory busy down tooLong =>
      exact long links here step rest (by simpa using directory)
        (downward_of_busy busy down) tooLong
  | case6 links here step rest directory busy down short none last =>
      exact missing links here step rest
        (looks_up_of_busy directory busy down short) none
  | case7 links here step rest directory busy down short none more =>
      exact missing links here step rest
        (looks_up_of_busy directory busy down short) none
  | case8 links here step rest directory busy down short target there stops =>
      simp only [Bool.and_eq_true, List.isEmpty_iff, Bool.not_eq_true'] at stops
      obtain ⟨rfl, stays⟩ := stops
      exact last links here step target
        (looks_up_of_busy directory busy down short) there stays
  | case9 here step rest directory busy down short target there onward =>
      exact spent here step rest target
        (looks_up_of_busy directory busy down short) there
        (goes_through_iff.2 onward)
  | case10 here step rest directory busy down short target there onward links induction =>
      exact link links here step rest target
        (looks_up_of_busy directory busy down short) there
        (goes_through_iff.2 onward) induction
  | case11 links here step rest directory busy down short found plain there induction =>
      exact entry links here step rest found
        (looks_up_of_busy directory busy down short) there
        plain induction

/-- The steps arrive somewhere, through no more than so many links. -/
inductive Arrives (system : FileSystem) (through : Bool) :
    Nat → Location → List String → Arrival → Prop
  | nothing (links : Nat) (here : Location) : Arrives system through links here [] (.entry here)
  | idle {links : Nat} {here : Location} {step : String} {rest : List String} {arrival : Arrival}
      (directory : system.isDirectoryAt here = true) (idle : step = "" ∨ step = ".")
      (onward : Arrives system through links here rest arrival) :
      Arrives system through links here (step :: rest) arrival
  | up {links : Nat} {here : Location} {rest : List String} {arrival : Arrival}
      (directory : system.isDirectoryAt here = true)
      (onward : Arrives system through links here.dropLast rest arrival) :
      Arrives system through links here (".." :: rest) arrival
  | free {links : Nat} {here : Location} {step : String} (looks : system.LooksUp here step)
      (missing : system.lookup? (here ++ [step]) = none) :
      Arrives system through links here [step] (.free (here ++ [step]))
  | last {links : Nat} {here : Location} {step target : String}
      (looks : system.LooksUp here step)
      (there : system.lookup? (here ++ [step]) = some (.link target)) (stays : through = false) :
      Arrives system through links here [step] (.entry (here ++ [step]))
  | link {links : Nat} {here : Location} {step target : String} {rest : List String}
      {arrival : Arrival} (looks : system.LooksUp here step)
      (there : system.lookup? (here ++ [step]) = some (.link target))
      (followed : GoesThrough through rest)
      (onward : Arrives system through links (if Written.rooted target then [] else here)
        (steps target ++ rest) arrival) :
      Arrives system through (links + 1) here (step :: rest) arrival
  | entry {links : Nat} {here : Location} {step : String} {rest : List String} {entry : Entry}
      {arrival : Arrival} (looks : system.LooksUp here step)
      (there : system.lookup? (here ++ [step]) = some entry)
      (plain : ∀ target, entry ≠ .link target)
      (onward : Arrives system through links (here ++ [step]) rest arrival) :
      Arrives system through links here (step :: rest) arrival

theorem arrives_of_followed {through : Bool} {links : Nat} {here : Location} {steps : List String}
    {arrival : Arrival} (arrived : system.follow through links here steps = .ok arrival) :
    system.Arrives through links here steps arrival := by
  induction links, here, steps using follow_induction system through with
  | nothing links here =>
      rw [follow_nothing] at arrived
      cases arrived
      exact .nothing links here
  | closed links here step rest closed =>
      rw [follow_closed closed] at arrived
      cases arrived
  | idle links here step rest directory idle induction =>
      rw [follow_idle directory idle] at arrived
      exact .idle directory idle (induction arrived)
  | up links here rest directory induction =>
      rw [follow_up directory] at arrived
      exact .up directory (induction arrived)
  | long links here step rest directory down long =>
      rw [follow_long directory down long] at arrived
      cases arrived
  | missing links here step rest looks missing =>
      rw [looks.follow_missing missing] at arrived
      split at arrived
      next last =>
        obtain rfl := List.isEmpty_iff.1 last
        cases arrived
        exact .free looks missing
      · cases arrived
  | last links here step target looks link stays =>
      subst stays
      rw [looks.follow_last link] at arrived
      cases arrived
      exact .last looks link rfl
  | spent here step rest target looks link onward =>
      rw [looks.follow_spent link onward] at arrived
      cases arrived
  | link links here step rest target looks link onward induction =>
      rw [looks.follow_link link onward] at arrived
      exact .link looks link onward (induction arrived)
  | entry links here step rest entry looks found plain induction =>
      rw [looks.follow_entry found plain] at arrived
      exact .entry looks found plain (induction arrived)

theorem Arrives.followed {through : Bool} {links : Nat} {here : Location} {steps : List String}
    {arrival : Arrival} (arrives : system.Arrives through links here steps arrival) :
    system.follow through links here steps = .ok arrival := by
  induction arrives with
  | nothing links here => exact follow_nothing through links here
  | idle directory idle onward induction => rwa [follow_idle directory idle]
  | up directory onward induction => rwa [follow_up directory]
  | free looks missing => exact looks.follow_missing missing []
  | last looks there stays =>
      subst stays
      exact looks.follow_last there
  | link looks there followed onward induction => rwa [looks.follow_link there followed]
  | entry looks there plain onward induction => rwa [looks.follow_entry there plain]

theorem followed_iff {through : Bool} {links : Nat} {here : Location} {steps : List String}
    {arrival : Arrival} : system.follow through links here steps = .ok arrival ↔
      system.Arrives through links here steps arrival :=
  ⟨arrives_of_followed, Arrives.followed⟩

end ImportImpact.FileSystem
