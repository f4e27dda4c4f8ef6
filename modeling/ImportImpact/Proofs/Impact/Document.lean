import ImportImpact.Impact.Graph
import ImportImpact.Platform.Ordinary
import ImportImpact.Proofs.Json.RoundTrip

/-!
The document of a graph. It is all ASCII and reads back as the graph's value, whatever the graph
holds of what can stand in a document; only a whole number that is too long to be written, or more
lists inside one another than there is room for, keep the document from being made.
-/

namespace ImportImpact

open Value

def NodeDocument.given (node : NodeDocument) : List Value :=
  [node.id, node.label, node.kind, node.status, node.modified, node.url, node.diff]

/-- What stands in the graph can stand in a document. -/
structure GraphDocument.Documented (graph : GraphDocument) : Prop where
  head : (Value.record graph.head).Documented
  nodes : ∀ node ∈ graph.nodes, ∀ value ∈ node.given, value.Documented

def ImpactNode.given : ImpactNode → List Value
  | .changed file diff => [file.url, diff]
  | .affected _ => []

def ImpactGraph.given (graph : ImpactGraph) : List Value :=
  [graph.head.tool, graph.head.base, graph.head.head, graph.head.pullRequestTitle,
    graph.head.pullRequestUrl] ++ graph.nodes.flatMap ImpactNode.given

section Documented

theorem node_documented {node : NodeDocument} (given : ∀ value ∈ node.given, value.Documented) :
    node.toValue.Documented := by
  simp only [NodeDocument.given, List.forall_mem_cons, List.not_mem_nil, false_implies,
    implies_true, and_true] at given
  obtain ⟨id, label, kind, status, modified, url, diff⟩ := given
  unfold NodeDocument.toValue
  cases node.modified.truthy with
  | true => exact .record (by simp [id, label, kind, status, modified, url, diff]) (by simp)
  | false => exact .record (by simp [id, label, kind, status, modified]) (by simp)

theorem edge_documented (edge : Edge) : edge.toValue.Documented := by
  refine .record ?_ (by simp)
  simp [Documented.str]

theorem counts_documented (counts : ImpactCounts) : counts.toValue.Documented := by
  refine .record ?_ (by simp)
  simp [Documented.int]

theorem GraphDocument.Documented.value {graph : GraphDocument} (given : graph.Documented) :
    graph.toValue.Documented := by
  have nodes : (Value.list (graph.nodes.map NodeDocument.toValue)).Documented := by
    refine .list fun value member => ?_
    obtain ⟨node, inside, rfl⟩ := List.mem_map.1 member
    exact node_documented (given.nodes node inside)
  have edges : (Value.list (graph.edges.map Edge.toValue)).Documented := by
    refine .list fun value member => ?_
    obtain ⟨edge, -, rfl⟩ := List.mem_map.1 member
    exact edge_documented edge
  refine .record ?_ (by simp)
  simp [given.head, nodes, edges]

/-- A graph that is built adds nothing to what callers gave but texts and numbers. -/
theorem ImpactGraph.documented {graph : ImpactGraph}
    (given : ∀ value ∈ graph.given, value.Documented) : graph.document.Documented := by
  obtain ⟨inHead, inNodes⟩ := List.forall_mem_append.1 given
  constructor
  · obtain ⟨tool, base, target, title, url⟩ : graph.head.tool.Documented ∧
        graph.head.base.Documented ∧ graph.head.head.Documented ∧
          graph.head.pullRequestTitle.Documented ∧ graph.head.pullRequestUrl.Documented := by
      simpa using inHead
    have id : ((graph.head.pullRequestId.map Value.str).getD .null).Documented := by
      cases graph.head.pullRequestId with
      | none => exact .null
      | some id => exact .str id
    refine .record ?_ (by simp [ImpactGraph.document, ImpactHead.entries])
    simp [ImpactGraph.document, ImpactHead.entries, Documented.str, tool, base, target, title, url,
      id, counts_documented]
  · intro document member
    obtain ⟨node, inside, rfl⟩ := List.mem_map.1 member
    have here : ∀ value ∈ node.given, value.Documented := fun value among =>
      inNodes value (List.mem_flatMap.2 ⟨node, inside, among⟩)
    cases node with
    | changed file diff =>
        obtain ⟨url, shown⟩ : file.url.Documented ∧ diff.Documented := by
          simpa [ImpactNode.given] using here
        simp [NodeDocument.given, ImpactNode.document, ImpactNode.url, ImpactNode.diff,
          Documented.str, Documented.bool, url, shown]
    | affected path =>
        simp [NodeDocument.given, ImpactNode.document, ImpactNode.url, ImpactNode.diff,
          Documented.str, Documented.bool, Documented.null]

end Documented

theorem exists_room (levels : Nat) : ∃ room : Room, levels ≤ room.levels :=
  ⟨⟨max 100 levels, Nat.le_max_left _ _, ""⟩, Nat.le_max_right _ _⟩

/-- Reading a document of a graph gives back what it was written for, so two graphs with one
document are the same. Where there is room, a number that is too long to be written is the only
thing that keeps a graph from having a document. -/
theorem document_decodes (graph : GraphDocument) (given : graph.Documented) :
    (graph.toValue.isWritable = false → graph.render = .error .numberTooLong) ∧
      (graph.toValue.isWritable = true → ∃ text, graph.render = .ok text ∧
        (∀ character ∈ text.toList, character.toNat < 0x80) ∧
          (∀ room : Room, graph.toValue.nesting ≤ room.levels →
            graph.renderWithin room = .ok text ∧ Json.read room text = .ok graph.toValue) ∧
          ∀ other : GraphDocument, other.Documented →
            other.render = .ok text → other.toValue = graph.toValue) := by
  constructor
  · exact fun long => Json.render_error_iff.2 ⟨long, rfl⟩
  · intro writable
    have rendered := Json.render_ok_iff.2 ⟨writable, rfl⟩
    obtain ⟨ascii, reads⟩ := Json.read_rendered given.value rendered
    refine ⟨_, rendered, ascii, fun room fits => ⟨Json.render_within_iff.2 ⟨rendered, fits⟩,
      reads room fits⟩, fun other givenToo same => ?_⟩
    obtain ⟨room, enough⟩ := exists_room (max graph.toValue.nesting other.toValue.nesting)
    obtain ⟨here, there⟩ := Nat.max_le.1 enough
    have again := (Json.read_rendered givenToo.value same).2 room there
    exact Except.ok.inj (again.symm.trans (reads room here))

namespace Documents

def graph (tool title diff : Value) : ImpactGraph where
  head := ⟨tool, .str "main", .null, some "7", title, .null, "", ⟨1, 0, 1, 0⟩⟩
  nodes := [.changed ⟨"a.css", .edit, .null⟩ diff]
  edges := []

theorem given_documented {tool title diff : Value} (named : tool.Documented)
    (titled : title.Documented) (shown : diff.Documented) :
    ∀ value ∈ (graph tool title diff).given, value.Documented := by
  simp [ImpactGraph.given, ImpactNode.given, graph, named, titled, shown, Documented.null,
    Documented.str]

def escaped : ImpactGraph :=
  graph (.str "tool") (.str "\"\\\n\x7f😀") (.record [("", .list [.int (-10)])])

def room : Room := .ofLevels 100 (by decide)

theorem escaped_documented : escaped.document.Documented := by
  have nested : (Value.record [("", .list [.int (-10)])]).Documented :=
    .record (by simp [Documented.list, Documented.int]) (by decide)
  exact ImpactGraph.documented (given_documented (.str _) (.str _) nested)

theorem escaped_title_decodes : escaped.document.Documented ∧
    escaped.document.toValue.isWritable = true ∧
      ∃ text, escaped.document.renderWithin room = .ok text ∧
        Json.read room text = .ok escaped.document.toValue := by
  have writable : escaped.document.toValue.isWritable = true := by decide +kernel
  have shallow : escaped.document.toValue.nesting ≤ room.levels := by decide +kernel
  obtain ⟨text, -, -, reads, -⟩ :=
    (document_decodes escaped.document escaped_documented).2 writable
  exact ⟨escaped_documented, writable, text, reads room shallow⟩

/-- A tool name that is a number of one digit too many: there is no document at all. -/
theorem long_number_has_no_document :
    (graph (.int (10 ^ mostDigits)) .null .null).document.Documented ∧
      (graph (.int (10 ^ mostDigits)) .null .null).document.render = .error .numberTooLong := by
  refine ⟨ImpactGraph.documented (given_documented (.int _) .null .null),
    Json.render_error_iff.2 ⟨?_, rfl⟩⟩
  have long : hasShortText (10 ^ mostDigits) = false := long_text_iff.2 (by simp [Int.natAbs_pow])
  simp [GraphDocument.toValue, ImpactGraph.document, graph, ImpactHead.entries, record, isWritable,
    areEntriesWritable, long]

end Documents

end ImportImpact
