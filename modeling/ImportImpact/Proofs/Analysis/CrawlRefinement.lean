import ImportImpact.Proofs.Analysis.Edges
import ImportImpact.Proofs.Analysis.Rescan

/-!
The crawl refines the plain search. One pass over the scanned files gives what the index answers,
the queue holds what is left of the frontier followed by what has been found for the next one, and
so both searches link the same importers in the same order.
-/

namespace ImportImpact

open FirstOccurrence Neighbourhood Outcome

namespace Repository

variable {repository : Repository}

/-- A pass fails as the scan of the same files does, else it picks from what was scanned. -/
theorem importers_among_eq (repository : Repository) (changed : List String) (target : String)
    (files : List (Path × String)) :
    repository.importersAmong changed target files =
      (files.mapM repository.scan).map fun scanned =>
        ((scanned.filter fun entry => entry.2.contains target).map Prod.fst).filter
          fun importer => !changed.contains importer := by
  induction files with
  | nil => rfl
  | cons file rest induction =>
      obtain ⟨place, path⟩ := file
      rw [importersAmong, List.mapM_cons, induction, scan]
      cases repository.imports place path with
      | error fault => rfl
      | ok targets =>
          cases rest.mapM repository.scan with
          | error fault => rfl
          | ok scanned =>
              by_cases imports : target ∈ targets
              · by_cases same : path = target
                · simp [bind, Except.bind, pure, Except.pure, Except.map, same]
                · by_cases member : path ∈ changed
                  · simp [bind, Except.bind, pure, Except.pure, Except.map, imports, same, member,
                      Ne.symm same]
                  · simp [bind, Except.bind, pure, Except.pure, Except.map, imports, same, member,
                      Ne.symm same]
              · simp [bind, Except.bind, pure, Except.pure, Except.map, imports]

theorem importers_by_scan_eq (repository : Repository) (changed : List String) (target : String) :
    repository.importersByScan changed target =
      repository.scannedImports.map fun scanned =>
        ((scanned.filter fun entry => entry.2.contains target).map Prod.fst).filter
          fun importer => !changed.contains importer := by
  rw [importersByScan, scannedImports]
  cases repository.searchRoots with
  | error fault => rfl
  | ok roots =>
      dsimp only [bind, Except.bind]
      rw [importers_among_eq]
      cases (repository.named (repository.walked roots).files).mapM repository.scan with
      | error fault => rfl
      | ok scanned => cases (repository.walked roots).complete <;> rfl

theorem importers_by_scan_ok {scanned : List (String × List String)}
    (done : repository.scannedImports = .ok scanned) (changed : List String) (target : String) :
    repository.importersByScan changed target =
      .ok (unchangedImporters (.ofImports scanned) changed target) := by
  rw [importers_by_scan_eq, done, unchangedImporters, importers_of_scanned done]
  rfl

theorem importers_by_scan_error {fault : Fault}
    (failed : repository.scannedImports = .error fault) (changed : List String)
    (target : String) : repository.importersByScan changed target = .error fault := by
  rw [importers_by_scan_eq, failed]
  rfl

end Repository

namespace Rescan

variable {repository : Repository} {changed : List String} {limit : Nat}

theorem run_empty {state : Rescan} (empty : state.queue = []) :
    run repository changed limit state = .ok state := by
  unfold run
  split
  · rfl
  next shape => simp [empty] at shape

/-- One step: the first file comes out of the queue, and its importers are linked if it is not too
deep. -/
theorem run_step {state : Rescan} {target : String} {depth : Nat} {rest : List (String × Nat)}
    (waiting : state.queue = (target, depth) :: rest) :
    run repository changed limit state =
      if depth < limit then
        match repository.importersByScan changed target with
        | .error fault => .error fault
        | .ok importers => run repository changed limit
            (importers.foldl (link target depth) { state with queue := rest })
      else run repository changed limit { state with queue := rest } := by
  rw [run]
  split
  next empty => simp [waiting] at empty
  next shape =>
    rw [waiting] at shape
    cases shape
    congr 1
    split
    next fault failed => rw [failed]
    next importers passed => rw [passed]

theorem run_discard {state : Rescan} {target : String} {depth : Nat}
    {rest : List (String × Nat)} (waiting : state.queue = (target, depth) :: rest)
    (deep : ¬depth < limit) :
    run repository changed limit state =
      run repository changed limit { state with queue := rest } := by
  rw [run_step waiting, if_neg deep]

theorem run_pass {state : Rescan} {target : String} {depth : Nat} {rest : List (String × Nat)}
    {importers : List String} (waiting : state.queue = (target, depth) :: rest)
    (shallow : depth < limit)
    (passed : repository.importersByScan changed target = .ok importers) :
    run repository changed limit state =
      run repository changed limit
        (importers.foldl (link target depth) { state with queue := rest }) := by
  rw [run_step waiting, if_pos shallow, passed]

theorem run_fault {state : Rescan} {target : String} {depth : Nat} {rest : List (String × Nat)}
    {fault : Fault} (waiting : state.queue = (target, depth) :: rest) (shallow : depth < limit)
    (failed : repository.importersByScan changed target = .error fault) :
    run repository changed limit state = .error fault := by
  rw [run_step waiting, if_pos shallow, failed]

/-- What the search in rounds has found, as a state of the plain one: files that wait before the
new frontier, which is at this depth. -/
def ofFound (waiting : List (String × Nat)) (depth : Nat) (found : Neighbourhood) : Rescan :=
  ⟨waiting ++ found.frontier.map fun path => (path, depth), found.reached, found.edges⟩

theorem link_of_found {importer : String} (absent : importer ∉ changed)
    (waiting : List (String × Nat)) (depth : Nat) (target : String) (found : Neighbourhood) :
    (ofFound waiting (depth + 1) found).link target depth importer =
      ofFound waiting (depth + 1)
        (Neighbourhood.link changed (depth + 1) target found importer) := by
  by_cases known : importer ∈ found.affected
  · have there : importer ∈ found.reached.map Prod.fst := known
    simp [link, ofFound, Neighbourhood.link, absent, known, there]
  · have missing : importer ∉ found.reached.map Prod.fst := known
    rw [link, if_neg (by simpa [ofFound] using missing), Neighbourhood.link,
      if_neg (by simpa using absent)]
    simp [ofFound, known]

theorem link_all_of_found (importers : List String) (waiting : List (String × Nat))
    (depth : Nat) (target : String) (found : Neighbourhood) :
    (importers.filter fun importer => !changed.contains importer).foldl (link target depth)
        (ofFound waiting (depth + 1) found) =
      ofFound waiting (depth + 1)
        (importers.foldl (Neighbourhood.link changed (depth + 1) target) found) := by
  induction importers generalizing found with
  | nil => rfl
  | cons importer rest induction =>
      by_cases member : importer ∈ changed
      · rw [List.filter_cons_of_neg (by simpa using member), List.foldl_cons,
          link_of_changed member, induction]
      · rw [List.filter_cons_of_pos (by simpa using member), List.foldl_cons, List.foldl_cons,
          link_of_found member, induction]

variable {scanned : List (String × List String)}

theorem run_frontier (scan : repository.scannedImports = .ok scanned) {depth : Nat}
    (shallow : depth < limit) (targets : List String) (found : Neighbourhood) :
    run repository changed limit
        (ofFound (targets.map fun target => (target, depth)) (depth + 1) found) =
      run repository changed limit (ofFound [] (depth + 1)
        (targets.foldl (linkImporters (.ofImports scanned) changed (depth + 1)) found)) := by
  induction targets generalizing found with
  | nil => rfl
  | cons target rest induction =>
      have passed := Repository.importers_by_scan_ok scan changed target
      rw [run_pass rfl shallow passed, List.foldl_cons, ← induction, linkImporters,
        ← link_all_of_found]
      rfl

theorem run_beyond (targets : List String) (reached : List (String × Nat)) (edges : List Edge) :
    run repository changed limit ⟨targets.map fun target => (target, limit), reached, edges⟩ =
      .ok ⟨[], reached, edges⟩ := by
  induction targets with
  | nil => exact run_empty rfl
  | cons target rest induction =>
      rw [run_discard rfl (Nat.lt_irrefl limit)]
      exact induction

/-- The plain search goes through the rounds that are left and then empties the queue. -/
theorem run_rounds (scan : repository.scannedImports = .ok scanned) {depth rounds : Nat}
    (left : depth + rounds = limit) (found : Neighbourhood) :
    run repository changed limit (ofFound [] depth found) =
      let final := extend (.ofImports scanned) changed (depth + 1) rounds found
      .ok ⟨[], final.reached, final.edges⟩ := by
  induction rounds generalizing depth found with
  | zero =>
      rw [Nat.add_zero] at left
      subst left
      exact run_beyond found.frontier found.reached found.edges
  | succ rounds induction =>
      have shape : ofFound [] depth found =
          ofFound (found.frontier.map fun path => (path, depth)) (depth + 1)
            { found with frontier := [] } := by
        simp [ofFound]
      rw [shape, run_frontier scan (by omega), extend_succ]
      exact induction (by omega) (round (.ofImports scanned) changed (depth + 1) found)

theorem start_of_found (changed : List String) :
    start changed = ofFound [] 0 (Neighbourhood.start changed) := rfl

end Rescan

/-- The index changes nothing that can be seen: with it the crawl finds the same affected files,
the same edges and the same depths, in the same order, as the search that goes over all files
again for every file it takes from its queue; and it fails where that one does. The search tells
nothing of the depth, so this can be too long to be written. -/
theorem crawl_refines_rescan (repository : Repository) (changed : List String) {depth : Nat}
    (short : Value.hasShortText depth = true) :
    ((repository.crawl changed depth).map fun crawl =>
      (crawl.found.affected, crawl.found.edges, crawl.found.reached)) =
      (Rescan.search repository changed depth).map fun state =>
        (state.reached.map Prod.fst, state.edges, state.reached) := by
  rw [Rescan.search, Rescan.start_of_found]
  by_cases idle : seeds changed = [] ∨ depth = 0
  · rw [crawl_idle idle]
    rcases idle with none | rfl
    · rw [none, Rescan.run_empty rfl]
      rfl
    · have ended : Rescan.run repository (seeds changed) 0
          (Rescan.ofFound [] 0 (Neighbourhood.start (seeds changed))) = .ok ⟨[], [], []⟩ :=
        Rescan.run_beyond (seeds changed) [] []
      rw [ended]
      rfl
  · obtain ⟨some, deep⟩ := not_or.1 idle
    rw [crawl_short some deep short]
    cases scan : repository.scannedImports with
    | error fault =>
        obtain ⟨seed, rest, shape⟩ := List.exists_cons_of_ne_nil some
        have failed := Repository.importers_by_scan_error scan (seeds changed) seed
        rw [Rescan.run_fault (by rw [shape]; rfl) (Nat.pos_of_ne_zero deep) failed]
        rfl
    | ok scanned =>
        rw [Rescan.run_rounds scan (Nat.zero_add depth)]
        rfl

namespace PairOfSheets

/-- Without an index, too, the sheet that uses the changed one is found. -/
theorem pair_rescanned : Value.hasShortText (2 : Nat) = true ∧
    ((Rescan.search repository ["a.css"] 2).map fun state =>
      (state.reached.map Prod.fst, state.edges, state.reached)) =
        .ok (["b.css"], [⟨"b.css", "a.css"⟩], [("b.css", 1)]) := by
  have short : Value.hasShortText (2 : Nat) = true := by decide
  have alike := crawl_refines_rescan repository ["a.css"] short
  rw [crawl_short (by decide) (by decide) short, scanned] at alike
  exact ⟨short, alike.symm⟩

end PairOfSheets

namespace EmptyDirectory

theorem rescan_ends {depth : Nat} (deep : 0 < depth) :
    Rescan.search repository ["a.css"] depth = .ok ⟨[], [], []⟩ := by
  have passed := Repository.importers_by_scan_ok scanned (seeds ["a.css"]) "a.css"
  change Rescan.run repository (seeds ["a.css"]) depth ⟨[("a.css", 0)], [], []⟩ = _
  rw [Rescan.run_pass rfl deep passed]
  exact Rescan.run_empty rfl

/-- The plain search ends at any depth, and the crawl fails at one that is too long. -/
theorem only_rescan_ends_at_long_depth :
    Rescan.search repository ["a.css"] longDepth = .ok ⟨[], [], []⟩ ∧
      repository.crawl ["a.css"] longDepth = .error .numberTooLong :=
  ⟨rescan_ends (Nat.pow_pos (by decide)), crawl_long (by decide) long_depth_long scanned⟩

end EmptyDirectory

end ImportImpact
