import ImportImpact.CommandLine.Run

/-!
How a step of a run ends: with a value or with an escape, each in a state in which something holds.
Steps one after the other end well if each of them ends as the next one needs it.
-/

namespace ImportImpact.Act

variable {Given Made : Type} {session : Session} {done : Made → Session → Prop}
  {escaped : Escape → Session → Prop}

/-- The step ends with a value or with an escape for which this holds. -/
def Ends (act : Act Made) (session : Session) (done : Made → Session → Prop)
    (escaped : Escape → Session → Prop) : Prop :=
  match act session with
  | .ok value later => done value later
  | .error escape later => escaped escape later

theorem Ends.imp {act : Act Made} {doneToo : Made → Session → Prop}
    {escapedToo : Escape → Session → Prop} (ends : act.Ends session done escaped)
    (ok : ∀ value later, done value later → doneToo value later)
    (failed : ∀ escape later, escaped escape later → escapedToo escape later) :
    act.Ends session doneToo escapedToo := by
  unfold Ends at *
  cases ran : act session with
  | ok value later =>
      rw [ran] at ends
      exact ok value later ends
  | error escape later =>
      rw [ran] at ends
      exact failed escape later ends

theorem Ends.bind {first : Act Given} {next : Given → Act Made}
    {between : Given → Session → Prop} (begun : first.Ends session between escaped)
    (onward : ∀ value later, between value later → (next value).Ends later done escaped) :
    (first >>= next).Ends session done escaped := by
  unfold Ends at *
  change match EStateM.bind first next session with
    | .ok value later => done value later
    | .error escape later => escaped escape later
  unfold EStateM.bind
  cases ran : first session with
  | ok value later =>
      rw [ran] at begun
      exact onward value later begun
  | error escape later =>
      rw [ran] at begun
      exact begun

/-- What was done before an escape stays done when the escape is handled. -/
theorem Ends.handled {act : Act Made} {handler : Escape → Act Made}
    {broken : Escape → Session → Prop} (begun : act.Ends session done broken)
    (onward : ∀ escape later, broken escape later → (handler escape).Ends later done escaped) :
    (tryCatch act handler : Act Made).Ends session done escaped := by
  unfold Ends at *
  change match EStateM.tryCatch act handler session with
    | .ok value later => done value later
    | .error escape later => escaped escape later
  unfold EStateM.tryCatch
  cases ran : act session with
  | ok value later =>
      rw [ran] at begun
      exact begun
  | error escape later =>
      rw [ran] at begun
      exact onward escape later begun

theorem run_congr {first other : Act Given} (same : first session = other session)
    (next : Given → Act Made) : (first >>= next) session = (other >>= next) session := by
  change EStateM.bind first next session = EStateM.bind other next session
  rw [EStateM.bind, EStateM.bind, same]

theorem ends_of_run {act other : Act Made} (same : act session = other session)
    (ends : other.Ends session done escaped) : act.Ends session done escaped := by
  rw [Ends, same]
  exact ends

theorem ends_host {next : Host → Act Made} (ends : (next session.host).Ends session done escaped) :
    (host >>= next).Ends session done escaped := ends

theorem ends_lift {outcome : Outcome Given} {next : Given → Act Made}
    (ok : ∀ value, outcome = .ok value → (next value).Ends session done escaped)
    (failed : ∀ fault, outcome = .error fault → escaped (.fault fault) session) :
    (lift outcome >>= next).Ends session done escaped := by
  cases outcome with
  | ok value => exact ok value rfl
  | error fault => exact failed fault rfl

theorem say_run (message : String) (next : Unit → Act Made) :
    (say message >>= next) session =
      match session.host.files.platform.shownText? message with
      | some text =>
          next () { session with console := session.console ++ Console.display text }
      | none => .error .markup session := by
  have asked : (say message >>= next) session = ((match
      session.host.files.platform.shownText? message with
      | some text =>
          modify fun session => { session with console := session.console ++ Console.display text }
      | none => throw .markup : Act Unit) >>= next) session := rfl
  rw [asked]
  cases session.host.files.platform.shownText? message <;> rfl

theorem ends_say {message : String} {next : Unit → Act Made}
    (shown : ∀ text, session.host.files.platform.shownText? message = some text →
      (next ()).Ends { session with console := session.console ++ Console.display text } done
        escaped)
    (unshown : session.host.files.platform.shownText? message = none → escaped .markup session) :
    (say message >>= next).Ends session done escaped := by
  rw [Ends, say_run]
  cases known : session.host.files.platform.shownText? message with
  | some text => exact shown text known
  | none => exact unshown known

theorem ends_set_host {host : Host} {next : Unit → Act Made}
    (ends : (next ()).Ends { session with host } done escaped) :
    (setHost host >>= next).Ends session done escaped := ends

theorem ends_set_files {files : FileSystem} {next : Unit → Act Made}
    (ends : (next ()).Ends { session with host := { session.host with files } } done escaped) :
    (setFiles files >>= next).Ends session done escaped := ends

theorem ends_print_table {table : Console.Table} {next : Unit → Act Made}
    (ends : (next ()).Ends { session with console := session.console ++ table.text } done escaped) :
    (printTable table >>= next).Ends session done escaped := ends

theorem ends_warnings {errors : List String} {next : PUnit → Act Made}
    (shown : ∀ console, (next ()).Ends { session with console } done escaped)
    (unshown : ∀ error ∈ errors,
      session.host.files.platform.shownText? s!"[yellow]Warning:[/yellow] {error}" = none →
        ∀ console, escaped .markup { session with console }) :
    ((forIn errors PUnit.unit fun error _ => do
      say s!"[yellow]Warning:[/yellow] {error}"
      pure (ForInStep.yield PUnit.unit)) >>= next).Ends session done escaped := by
  induction errors generalizing session with
  | nil => exact shown session.console
  | cons error rest induction =>
      rw [List.forIn_cons]
      simp only [bind_assoc, pure_bind]
      refine ends_say (fun text _ => ?_) fun none =>
        unshown error List.mem_cons_self none session.console
      exact induction shown fun other member =>
        unshown other (List.mem_cons_of_mem error member)

end ImportImpact.Act
