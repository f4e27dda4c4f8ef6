import ImportImpact.Graph.Assembly
import ImportImpact.Proofs.FirstOccurrence

/-!
What an assembly makes of two lists of edges and of the files a search reached, whatever the lists
hold and however they overlap. Repeated edges go or stay; a reached file is listed once, and not at
all if it has changed. The counts of edges found are taken before repetitions go, those of edges and
files told afterwards.
-/

namespace ImportImpact.Assembly

open FirstOccurrence

variable (forward : List Edge) (reverse : ReverseFindings) (changed : List String)

theorem edges_of_repeated :
    (make false forward reverse changed).edges = forward ++ reverse.edges := rfl

theorem edges_list_first : ListsFirst (forward ++ reverse.edges) (fun _ => True)
    (make true forward reverse changed).edges :=
  erase_dups_lists_first _

theorem affected_list_first (deduplicate : Bool) :
    ListsFirst reverse.affected (fun path => path ∉ changed)
      (make deduplicate forward reverse changed).affected := by
  have kept : ListsFirst reverse.affected (fun path => (!changed.contains path) = true)
      (make deduplicate forward reverse changed).affected :=
    filter_lists_first _ _
  simpa using kept

/-- No edge and no reached file is lost, added or moved. -/
theorem assembly_keeps_first_occurrences :
    (make true forward reverse changed).edges.Nodup ∧
      ListsFirst (forward ++ reverse.edges) (fun _ => True)
        (make true forward reverse changed).edges ∧
      (make false forward reverse changed).edges = forward ++ reverse.edges ∧
      ∀ deduplicate,
        let made := make deduplicate forward reverse changed
        made.affected.Nodup ∧ made.affected.Disjoint changed ∧
          ListsFirst reverse.affected (fun path => path ∉ changed) made.affected ∧
          made.counts.totalEdges = made.edges.length ∧
          made.counts.affectedFiles = made.affected.length ∧
          made.counts.forwardEdges = forward.length ∧
          made.counts.reverseEdges = reverse.edges.length := by
  have edges := edges_list_first forward reverse changed
  refine ⟨edges.distinct, edges, edges_of_repeated forward reverse changed, fun deduplicate => ?_⟩
  have affected := affected_list_first forward reverse changed deduplicate
  have apart : (make deduplicate forward reverse changed).affected.Disjoint changed :=
    fun path reached => ((affected.mem_iff path).1 reached).2
  exact ⟨affected.distinct, apart, affected, rfl, rfl, rfl, rfl⟩

/-- The search found an edge again, met one file twice and came to a changed one. -/
example :
    let made := make true [⟨"a", "b"⟩, ⟨"b", "a"⟩]
      ⟨["c", "a", "d", "c"], [⟨"c", "a"⟩, ⟨"a", "b"⟩], 4⟩ ["a", "b"]
    made.edges = [⟨"a", "b"⟩, ⟨"b", "a"⟩, ⟨"c", "a"⟩] ∧ made.affected = ["c", "d"] ∧
      made.counts = ⟨2, 2, 3, 2, 4⟩ := by
  decide

end ImportImpact.Assembly
