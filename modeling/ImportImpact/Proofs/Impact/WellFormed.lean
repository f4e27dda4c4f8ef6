import ImportImpact.Impact.PullRequest
import ImportImpact.Platform.Ordinary
import ImportImpact.Proofs.Analysis.Connected

/-!
The impact graph of a pull request is well formed. The analysis and the making of the graph each
read the change list for themselves, but they read the same paths from it, so the edges that were
found fit the nodes that are made.
-/

namespace ImportImpact

open Outcome

namespace ImpactGraph

/-- A graph in itself: files with different names, changed ones first, edges only between them,
affected files tied to changed ones within the depth limit, and true counts. -/
structure WellFormed (graph : ImpactGraph) (depth : Nat) : Prop where
  distinct : (graph.nodes.map ImpactNode.id).Nodup
  changed_first : graph.nodes = graph.changedNodes ++ graph.affectedNodesOf
  endpoints : ∀ edge ∈ graph.edges,
    edge.source ∈ graph.nodes.map ImpactNode.id ∧ edge.target ∈ graph.nodes.map ImpactNode.id
  leads : ∀ node ∈ graph.affectedNodesOf, ∃ changed ∈ graph.changedNodes, ∃ length ≤ depth,
    Leads graph.edges length node.id changed.id
  changed_count : graph.head.counts.changedFiles = graph.changedNodes.length
  affected_count : graph.head.counts.affectedFiles = graph.affectedNodesOf.length
  total_count : graph.head.counts.totalFiles = graph.nodes.length
  dependency_count : graph.head.counts.dependencies = graph.edges.length
  sum : graph.head.counts.changedFiles + graph.head.counts.affectedFiles =
    graph.head.counts.totalFiles

/-- Diffs that the making of a graph can look into. -/
def UsableDiffs (diffs : Value) : Prop := (∃ entries, diffs = .dict entries) ∨ diffs.truthy = false

theorem diff_for_usable {diffs : Value} (usable : UsableDiffs diffs) (file : ChangedFile) :
    ∃ diff, diffFor diffs file = .ok diff := by
  rcases usable with ⟨entries, rfl⟩ | empty
  · exact ⟨_, rfl⟩
  · unfold diffFor
    cases diffs with
    | dict entries => exact ⟨_, rfl⟩
    | _ =>
        simp only [empty]
        exact ⟨_, rfl⟩

theorem changed_node_shape {diffs : Value} {file : ChangedFile} {node : ImpactNode}
    (made : changedNode diffs file = .ok node) : ∃ diff, node = .changed file diff := by
  obtain ⟨diff, -, made⟩ := bind_ok_iff.1 made
  rw [pure_ok_iff] at made
  exact ⟨diff, made.symm⟩

theorem changed_node_ids {diffs : Value} {files : List ChangedFile} {nodes : List ImpactNode}
    (made : files.mapM (changedNode diffs) = .ok nodes) :
    nodes.map ImpactNode.id = files.map ChangedFile.path := by
  have beside := map_all_ok made
  clear made
  induction beside with
  | nil => rfl
  | cons here _ induction =>
      obtain ⟨diff, rfl⟩ := changed_node_shape here
      rw [List.map_cons, List.map_cons, induction]
      rfl

theorem changed_nodes_changed {diffs : Value} {files : List ChangedFile}
    {nodes : List ImpactNode} (made : files.mapM (changedNode diffs) = .ok nodes) :
    ∀ node ∈ nodes, node.isChanged = true := by
  intro node member
  obtain ⟨file, -, given⟩ := exists_input (map_all_ok made) member
  obtain ⟨diff, rfl⟩ := changed_node_shape given
  rfl

theorem affected_nodes_of_unchanged {changed : List ChangedFile} {affected : List String}
    (unchanged : ∀ path ∈ affected, path ∉ changed.map ChangedFile.path) :
    affectedNodes changed affected = affected.map .affected := by
  have kept : (affected.filter fun path =>
      !(changed.map ChangedFile.path).contains path) = affected := by
    rw [List.filter_eq_self]
    intro path member
    have absent := unchanged path member
    simpa using absent
  rw [affectedNodes, kept]

theorem nodes_apart {graph : ImpactGraph} {nodes : List ImpactNode} {affected : List String}
    (shape : graph.nodes = nodes ++ affected.map .affected)
    (changed : ∀ node ∈ nodes, node.isChanged = true) :
    graph.changedNodes = nodes ∧ graph.affectedNodesOf = affected.map .affected := by
  constructor
  · rw [changedNodes, shape, List.filter_append, List.filter_eq_self.2 changed,
      List.filter_eq_nil_iff.2 (by simp [ImpactNode.isChanged]), List.append_nil]
  · have none : (nodes.filter fun node => !node.isChanged) = [] :=
      List.filter_eq_nil_iff.2 (by simpa using changed)
    rw [affectedNodesOf, shape, List.filter_append, none, List.nil_append, List.filter_eq_self]
    simp [ImpactNode.isChanged]

/-- What is made of findings: nodes for the changed files and after them for the affected ones, the
edges as they were found, and their counts. -/
structure MadeOf (graph : ImpactGraph) (changed : List ChangedFile) (findings : Findings)
    (nodes : List ImpactNode) : Prop where
  nodes_eq : graph.nodes = nodes ++ findings.affected.map .affected
  edges_eq : graph.edges = findings.edges
  counts_eq : graph.head.counts = ⟨nodes.length, findings.affected.length, graph.nodes.length,
    findings.edges.length⟩
  ids_eq : nodes.map ImpactNode.id = changed.map ChangedFile.path
  all_changed : ∀ node ∈ nodes, node.isChanged = true

theorem made_of_build {source : Source} {findings : Findings} {changes : Option Changes}
    {pull : PullRequest} {changed : List ChangedFile} {graph : ImpactGraph}
    (normal : (changes.getD (.ofFiles pull.changedFiles)).normalized = .ok changed)
    (unchanged : ∀ path ∈ findings.affected, path ∉ changed.map ChangedFile.path)
    (same_edges : source.edges = findings.edges)
    (same_affected : source.affected = findings.affected)
    (built : build source changes pull = .ok graph) :
    ∃ nodes, graph.MadeOf changed findings nodes := by
  obtain ⟨read, again, built⟩ := bind_ok_iff.1 built
  rw [normal] at again
  cases again
  obtain ⟨nodes, made, built⟩ := bind_ok_iff.1 built
  rw [pure_ok_iff, same_affected, affected_nodes_of_unchanged unchanged, same_edges] at built
  subst built
  exact ⟨nodes, rfl, rfl, by simp, changed_node_ids made, changed_nodes_changed made⟩

namespace MadeOf

variable {graph : ImpactGraph} {changed : List ChangedFile} {findings : Findings}
  {nodes : List ImpactNode}

theorem changed_nodes (made : graph.MadeOf changed findings nodes) :
    graph.changedNodes = nodes :=
  (nodes_apart made.nodes_eq made.all_changed).1

theorem affected_nodes (made : graph.MadeOf changed findings nodes) :
    graph.affectedNodesOf = findings.affected.map .affected :=
  (nodes_apart made.nodes_eq made.all_changed).2

theorem node_ids (made : graph.MadeOf changed findings nodes) :
    graph.nodes.map ImpactNode.id = changed.map ChangedFile.path ++ findings.affected := by
  rw [made.nodes_eq, List.map_append, made.ids_eq, List.map_map]
  exact congrArg _ (List.map_id' _)

theorem well_formed (made : graph.MadeOf changed findings nodes) {depth : Nat}
    (distinct : (changed.map ChangedFile.path).Nodup)
    (connected : findings.Connected (changed.map ChangedFile.path) depth) :
    graph.WellFormed depth where
  distinct := by
    rw [made.node_ids]
    refine List.nodup_append.2 ⟨distinct, connected.distinct, ?_⟩
    intro path seed other member same
    exact connected.unchanged other member (same ▸ seed)
  changed_first := by rw [made.changed_nodes, made.affected_nodes, made.nodes_eq]
  endpoints := by
    intro edge member
    rw [made.edges_eq] at member
    rw [made.node_ids, List.mem_append, List.mem_append]
    exact connected.endpoints edge member
  leads := by
    intro node member
    rw [made.affected_nodes] at member
    obtain ⟨path, inside, rfl⟩ := List.mem_map.1 member
    obtain ⟨target, seed, length, bound, leads⟩ := connected.leads path inside
    rw [← made.ids_eq] at seed
    obtain ⟨goal, there, rfl⟩ := List.mem_map.1 seed
    rw [made.changed_nodes, made.edges_eq]
    exact ⟨goal, there, length, bound, leads⟩
  changed_count := by rw [made.counts_eq, made.changed_nodes]
  affected_count := by rw [made.counts_eq, made.affected_nodes, List.length_map]
  total_count := by rw [made.counts_eq]
  dependency_count := by rw [made.counts_eq, made.edges_eq]
  sum := by rw [made.counts_eq, made.nodes_eq, List.length_append, List.length_map]

end MadeOf

theorem well_formed_of_connected {source : Source} {findings : Findings}
    {changes : Option Changes} {pull : PullRequest} {changed : List ChangedFile} {depth : Nat}
    {graph : ImpactGraph}
    (normal : (changes.getD (.ofFiles pull.changedFiles)).normalized = .ok changed)
    (connected : findings.Connected (changed.map ChangedFile.path) depth)
    (same_edges : source.edges = findings.edges)
    (same_affected : source.affected = findings.affected)
    (built : build source changes pull = .ok graph) : graph.WellFormed depth := by
  obtain ⟨nodes, made⟩ :=
    made_of_build normal connected.unchanged same_edges same_affected built
  exact made.well_formed (Changes.normalized_canonical normal).distinct connected

theorem build_defined {source : Source} {changes : Option Changes} {pull : PullRequest}
    {changed : List ChangedFile}
    (normal : (changes.getD (.ofFiles pull.changedFiles)).normalized = .ok changed)
    (usable : UsableDiffs source.diffs) : ∃ graph, build source changes pull = .ok graph := by
  have nodes : ∀ file ∈ changed, ∃ node, changedNode source.diffs file = .ok node := by
    intro file _
    obtain ⟨diff, given⟩ := diff_for_usable usable file
    exact ⟨.changed file diff, by rw [changedNode, given]; rfl⟩
  obtain ⟨made, given⟩ := exists_outputs nodes
  rw [build, normal]
  change ∃ graph, (changed.mapM (changedNode source.diffs) >>= _) = .ok graph
  rw [given]
  exact ⟨_, rfl⟩

end ImpactGraph

/-- Every pull request that can be read gets its graph, unless the diffs cannot be looked into;
and the graph is well formed, also when its options were rejected or a stage was lost. -/
theorem impact_graph_well_formed (analyzer : Analyzer) (host : Host) {given : GivenPullRequest}
    {pull : PullRequest} (resolved : given.resolve = .ok pull) (root : Path)
    (options : GivenOptions) (diffs : Value) :
    (∀ graph, analyzer.analyzePullRequest host given root options diffs = .ok graph →
      graph.WellFormed (options.depthLimit (analyzer.prepare host).settings)) ∧
    (ImpactGraph.UsableDiffs diffs →
      ∃ graph, analyzer.analyzePullRequest host given root options diffs = .ok graph) := by
  have normal : ((none : Option Changes).getD (.ofFiles pull.changedFiles)).normalized = .ok _ :=
    Changes.files_normalized pull.changedFiles
  rw [Analyzer.analyzePullRequest, resolved]
  constructor
  · intro graph built
    have connected := findings_connected normal (analyzer.prepare host).host.files
      (analyzer.prepare host).settings root options
      ((analyzer.prepare host).settings.value .deduplicateEdges).truthy
      (analyzer.prepare host).errors
    exact ImpactGraph.well_formed_of_connected normal connected rfl rfl built
  · intro usable
    exact ImpactGraph.build_defined normal usable

/-- A document with one changed file, in a directory where nothing is. -/
theorem one_change_graph_well_formed :
    ∃ pull graph,
      GivenPullRequest.resolve (.document (.record
        [("changedFiles", .list [.record [("path", .str "src/a.ts")]])])) = .ok pull ∧
      (⟨some .initial, true⟩ : Analyzer).analyzePullRequest
        ⟨⟨[], [], .ordinary⟩, ⟨.root, []⟩, [], none, .initial, ⟨"", ""⟩, false, ""⟩
        (.document (.record [("changedFiles", .list [.record [("path", .str "src/a.ts")]])]))
        ⟨.root, []⟩ (.document .null) .null = .ok graph ∧
      graph.WellFormed 2 := by
  have resolved : GivenPullRequest.resolve (.document (.record
      [("changedFiles", .list [.record [("path", .str "src/a.ts")]])])) =
      .ok ⟨none, .str "", .null, .null, .null, [.ofPath "src/a.ts"]⟩ := rfl
  obtain ⟨formed, defined⟩ := impact_graph_well_formed ⟨some .initial, true⟩
    ⟨⟨[], [], .ordinary⟩, ⟨.root, []⟩, [], none, .initial, ⟨"", ""⟩, false, ""⟩ resolved ⟨.root, []⟩
    (.document .null) .null
  obtain ⟨graph, built⟩ := defined (Or.inr rfl)
  exact ⟨_, graph, resolved, built, formed graph built⟩

end ImportImpact
