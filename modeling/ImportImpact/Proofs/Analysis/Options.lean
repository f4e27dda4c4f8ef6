import ImportImpact.Analysis.Options
import ImportImpact.Proofs.Outcome

/-!
Options given for one analysis, beside the settings. Each value is looked for under two names, and
only one that stands under neither is taken from the settings. But a document is completed only
where the settings have a valid depth themselves, even if it gives one of its own; options that come
as a record are kept, whatever the settings are.
-/

namespace ImportImpact

/-- The value that holds: what the entries give under the first name, else under the second, else
the one to fall back to. -/
inductive Effective (entries : List (Value × Value)) (first second : String) (fallback : Value) :
    Value → Prop
  | first {value : Value} (given : Value.lookup first entries = some value) :
      Effective entries first second fallback value
  | second {value : Value} (missing : Value.lookup first entries = none)
      (given : Value.lookup second entries = some value) :
      Effective entries first second fallback value
  | fallback (missing : Value.lookup first entries = none)
      (missingToo : Value.lookup second entries = none) :
      Effective entries first second fallback fallback

section Effective

variable {entries : List (Value × Value)} {first second : String} {fallback value : Value}

theorem effective_iff : Effective entries first second fallback value ↔
    (ChangedFile.either? first second entries).getD fallback = value := by
  constructor
  · intro effective
    cases effective with
    | first given => simp [ChangedFile.either?, given]
    | second missing given => simp [ChangedFile.either?, missing, given]
    | fallback missing missingToo => simp [ChangedFile.either?, missing, missingToo]
  · rintro rfl
    unfold ChangedFile.either?
    cases here : Value.lookup first entries with
    | some value => exact .first here
    | none =>
        cases there : Value.lookup second entries with
        | some value => exact .second here there
        | none => exact .fallback here there

theorem effective_of_nothing_iff : Effective [] first second fallback value ↔ fallback = value :=
  effective_iff

end Effective

namespace Options

theorem refused {Made : Type} (value : Value) (fault : Fault) (made : Made) :
    (do
      value.demandWritable
      throw fault : Outcome Made) ≠ .ok made := by
  intro done
  obtain ⟨_, -, done⟩ := Outcome.bind_ok_iff.1 done
  cases done

theorem make_ok_iff {includeReverse maxDepth : Value} {options : Options} :
    make includeReverse maxDepth = .ok options ↔
      includeReverse = options.includeReverse ∧ maxDepth = .int options.maxDepth := by
  obtain ⟨reverse, depth⟩ := options
  cases maxDepth with
  | int number =>
      simp only [make, Value.int.injEq]
      split
      next negative =>
        refine iff_of_false (refused _ _ _) ?_
        omega
      next valid =>
        simp only [Except.ok.injEq, mk.injEq]
        apply and_congr_right
        intro _
        omega
  | _ =>
      rw [make]
      · exact iff_of_false (refused _ _ _) (by simp)
      · nofun

end Options

namespace GivenOptions

variable {settings : Settings} {entries : List (Value × Value)} {options : Options}

theorem complete_of_nothing (settings : Settings) :
    complete settings (.document (.dict [])) = Options.ofSettings settings := by
  cases made : Options.ofSettings settings with
  | error fault => simp [complete, made, bind, Except.bind]
  | ok defaults => simp [complete, made, bind, Except.bind, Value.truthy, pure, Except.pure]

theorem complete_of_entries (filled : entries ≠ []) :
    complete settings (.document (.dict entries)) =
      Options.ofSettings settings >>= fun defaults => Options.make
        ((ChangedFile.either? "includeReverseDeps" "include_reverse_deps" entries).getD
          defaults.includeReverse)
        ((ChangedFile.either? "maxDepth" "max_depth" entries).getD (.int defaults.maxDepth)) := by
  have busy : (Value.dict entries).truthy = true := by simp [Value.truthy, filled]
  simp [complete, busy]

theorem complete_ok_iff : complete settings (.document (.dict entries)) = .ok options ↔
    ∃ defaults, Options.ofSettings settings = .ok defaults ∧
      Effective entries "includeReverseDeps" "include_reverse_deps" defaults.includeReverse
        options.includeReverse ∧
      Effective entries "maxDepth" "max_depth" (.int defaults.maxDepth)
        (.int options.maxDepth) := by
  by_cases nothing : entries = []
  · subst nothing
    rw [complete_of_nothing]
    constructor
    · intro made
      exact ⟨options, made, effective_of_nothing_iff.2 rfl, effective_of_nothing_iff.2 rfl⟩
    · rintro ⟨defaults, made, reverse, depth⟩
      rw [effective_of_nothing_iff] at reverse depth
      have same : Options.make defaults.includeReverse (.int defaults.maxDepth) = .ok options :=
        Options.make_ok_iff.2 ⟨reverse, depth⟩
      have again : Options.make defaults.includeReverse (.int defaults.maxDepth) = .ok defaults :=
        Options.make_ok_iff.2 ⟨rfl, rfl⟩
      rw [made, ← again, same]
  · rw [complete_of_entries nothing, Outcome.bind_ok_iff]
    simp only [Options.make_ok_iff, effective_iff]

end GivenOptions

/-- A record of options is kept. A document is completed exactly beside settings with a valid depth,
to what it gives under the first or the second name of each value, and to what the settings say
where it gives nothing. -/
theorem given_options_override (settings : Settings) :
    (∀ options, GivenOptions.complete settings (.record options) = .ok options) ∧
    ∀ entries options, GivenOptions.complete settings (.document (.dict entries)) = .ok options ↔
      ∃ depth : Nat, settings.value .maxDepth = .int depth ∧
        Effective entries "includeReverseDeps" "include_reverse_deps"
          (settings.value .includeReverse) options.includeReverse ∧
        Effective entries "maxDepth" "max_depth" (.int depth) (.int options.maxDepth) := by
  constructor
  · intro options
    rfl
  · intro entries options
    rw [GivenOptions.complete_ok_iff]
    constructor
    · rintro ⟨defaults, made, reverse, depth⟩
      obtain ⟨same, valid⟩ := Options.make_ok_iff.1 made
      exact ⟨defaults.maxDepth, valid, same ▸ reverse, depth⟩
    · rintro ⟨depth, valid, given⟩
      exact ⟨⟨settings.value .includeReverse, depth⟩, Options.make_ok_iff.2 ⟨rfl, valid⟩, given⟩

/-- The document gives a valid depth and says whether to look for importers, and is rejected for the
depth of the settings. -/
theorem given_depth_rejected_for_settings :
    Effective [(.str "includeReverseDeps", .bool true), (.str "maxDepth", .int 1)]
        "includeReverseDeps" "include_reverse_deps" (.bool true) (.bool true) ∧
      Effective [(.str "includeReverseDeps", .bool true), (.str "maxDepth", .int 1)]
        "maxDepth" "max_depth" (.int (-1)) (.int 1) ∧
      GivenOptions.complete (Settings.initial.set .maxDepth (.int (-1)))
          (.document (.dict [(.str "includeReverseDeps", .bool true), (.str "maxDepth", .int 1)])) =
        .error (.depthNegative (-1)) := by
  exact ⟨.first rfl, .first rfl, rfl⟩

end ImportImpact
