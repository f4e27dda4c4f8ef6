import ImportImpact.Proofs.Analysis.Crawl
import ImportImpact.Proofs.Analysis.ScannedImports

/-!
A plain breadth-first search without an index. It keeps a queue of files with their depths; for
every file taken from the queue above the depth limit it goes again over all scanned files and
reads each of them. The crawl finds the same files, edges and depths in the same order, and fails
with the same fault.
-/

namespace ImportImpact

open Neighbourhood Outcome

namespace Repository

/-- Of these files, the unchanged ones other than the target that import it, in order. Every file
is read again. -/
def importersAmong (repository : Repository) (changed : List String) (target : String) :
    List (Path × String) → Outcome (List String)
  | [] => .ok []
  | (place, path) :: rest => do
      let targets ← repository.imports place path
      let others ← importersAmong repository changed target rest
      if targets.contains target && path ≠ target && !changed.contains path then
        pure (path :: others)
      else pure others

/-- One pass over all scanned files in walk order, while the walk goes on. -/
def importersByScan (repository : Repository) (changed : List String) (target : String) :
    Outcome (List String) := do
  let walked := repository.walked (← repository.searchRoots)
  let importers ← repository.importersAmong changed target (repository.named walked.files)
  let _ ← walked.complete
  pure importers

/-- The names of all files that can be scanned, of which there are none if there is nowhere to
search. -/
def sourceNames (repository : Repository) : List String :=
  match repository.searchRoots with
  | .ok roots => (repository.named (repository.walked roots).files).map Prod.snd
  | .error _ => []

theorem mem_importers_among {repository : Repository} {changed : List String} {target : String}
    {files : List (Path × String)} {importers : List String}
    (done : repository.importersAmong changed target files = .ok importers) :
    ∀ importer ∈ importers, importer ∈ files.map Prod.snd := by
  induction files generalizing importers with
  | nil =>
      cases done
      simp
  | cons file rest induction =>
      rw [importersAmong, bind_ok_iff] at done
      obtain ⟨targets, -, done⟩ := done
      obtain ⟨others, later, done⟩ := bind_ok_iff.1 done
      intro importer member
      rw [List.map_cons, List.mem_cons]
      split at done
      · cases done
        rcases List.mem_cons.1 member with here | after
        · exact Or.inl here
        · exact Or.inr (induction later importer after)
      · cases done
        exact Or.inr (induction later importer member)

theorem mem_source_names {repository : Repository} {changed : List String} {target : String}
    {importers : List String}
    (done : repository.importersByScan changed target = .ok importers) :
    ∀ importer ∈ importers, importer ∈ repository.sourceNames := by
  rw [importersByScan, bind_ok_iff] at done
  obtain ⟨roots, searched, done⟩ := done
  obtain ⟨found, passed, done⟩ := bind_ok_iff.1 done
  obtain ⟨-, -, done⟩ := bind_ok_iff.1 done
  rw [pure_ok_iff] at done
  subst done
  rw [sourceNames, searched]
  exact mem_importers_among passed

end Repository

/-- The state of the plain search: files to be looked at with their depths, and what has been
found. -/
structure Rescan where
  queue : List (String × Nat)
  reached : List (String × Nat)
  edges : List Edge

namespace Rescan

def start (changed : List String) : Rescan := ⟨changed.map fun path => (path, 0), [], []⟩

def link (target : String) (depth : Nat) (state : Rescan) (importer : String) : Rescan :=
  let edges := state.edges ++ [⟨importer, target⟩]
  if (state.reached.map Prod.fst).contains importer then { state with edges }
  else ⟨state.queue ++ [(importer, depth + 1)], state.reached ++ [(importer, depth + 1)], edges⟩

/-- How many files may still come out of the queue, when only these can join it. -/
def work (names : List String) (state : Rescan) : Nat :=
  (names.filter fun name => !(state.reached.map Prod.fst).contains name).length +
    state.queue.length

theorem filter_known_lt {names known : List String} {name : String} (member : name ∈ names)
    (fresh : name ∉ known) :
    (names.filter fun other => !(known ++ [name]).contains other).length <
      (names.filter fun other => !known.contains other).length := by
  have narrower : (names.filter fun other => !(known ++ [name]).contains other) =
      (names.filter fun other => !known.contains other).filter fun other => other != name := by
    rw [List.filter_filter]
    apply List.filter_congr
    intro other _
    by_cases here : other = name
    · simp [here]
    · simp [here]
  rw [narrower]
  apply List.length_filter_lt_length_iff_exists.2
  exact ⟨name, List.mem_filter.2 ⟨member, by simpa using fresh⟩, by simp⟩

theorem link_work_le {names : List String} {importer : String} (member : importer ∈ names)
    (target : String) (depth : Nat) (state : Rescan) :
    (state.link target depth importer).work names ≤ state.work names := by
  by_cases known : importer ∈ state.reached.map Prod.fst
  · simp [link, known, work]
  · have fewer := filter_known_lt member known
    have linked : state.link target depth importer =
        ⟨state.queue ++ [(importer, depth + 1)], state.reached ++ [(importer, depth + 1)],
          state.edges ++ [⟨importer, target⟩]⟩ := by
      rw [link, if_neg (by simpa using known)]
    rw [linked, work, work]
    simp only [List.map_append, List.map_cons, List.map_nil, List.length_append,
      List.length_cons, List.length_nil]
    omega

theorem link_all_work_le {names importers : List String}
    (members : ∀ importer ∈ importers, importer ∈ names) (target : String) (depth : Nat)
    (state : Rescan) :
    (importers.foldl (link target depth) state).work names ≤ state.work names := by
  induction importers generalizing state with
  | nil => exact Nat.le_refl _
  | cons importer rest induction =>
      have later := induction (fun other inside => members other (by simp [inside]))
        (state.link target depth importer)
      exact Nat.le_trans later (link_work_le (members importer (by simp)) target depth state)

/-- Takes the files from the queue one by one. The search ends, because a scanned file joins the
queue at most once. -/
def run (repository : Repository) (changed : List String) (limit : Nat) (state : Rescan) :
    Outcome Rescan :=
  match _waiting : state.queue with
  | [] => .ok state
  | (target, depth) :: rest =>
      if depth < limit then
        match _passed : repository.importersByScan changed target with
        | .error fault => .error fault
        | .ok importers =>
            run repository changed limit
              (importers.foldl (link target depth) { state with queue := rest })
      else run repository changed limit { state with queue := rest }
  termination_by state.work repository.sourceNames
  decreasing_by
    · have bound := link_all_work_le (Repository.mem_source_names _passed) target depth
        { state with queue := rest }
      simp only [work, _waiting, List.length_cons] at bound ⊢
      omega
    · simp [work, _waiting]

/-- The plain search from the normal forms of the changed paths. -/
def search (repository : Repository) (changed : List String) (limit : Nat) : Outcome Rescan :=
  run repository (seeds changed) limit (start (seeds changed))

end Rescan

end ImportImpact
