import ImportImpact.Graph.Edge
import ImportImpact.Json.Printer

/-!
Graphs as renderers get them, whatever stands in them: a head with entries of any kind, nodes and
edges. Address and diff of a node are shown only if it is modified.
-/

namespace ImportImpact

structure NodeDocument where
  id : Value
  label : Value
  kind : Value
  status : Value
  modified : Value
  url : Value
  diff : Value

def NodeDocument.toValue (node : NodeDocument) : Value :=
  .record ([("id", node.id), ("label", node.label), ("kind", node.kind), ("status", node.status),
    ("modified", node.modified)] ++
    if node.modified.truthy then [("url", node.url), ("diff", node.diff)] else [])

def Edge.toValue (edge : Edge) : Value :=
  .record [("from", .str edge.source), ("to", .str edge.target), ("relation", .str relation)]

structure GraphDocument where
  head : List (String × Value)
  nodes : List NodeDocument
  edges : List Edge

namespace GraphDocument

def toValue (graph : GraphDocument) : Value :=
  .record [("meta", .record graph.head), ("nodes", .list (graph.nodes.map NodeDocument.toValue)),
    ("edges", .list (graph.edges.map Edge.toValue))]

def render (graph : GraphDocument) : Outcome String := Json.render graph.toValue

def renderWithin (room : Room) (graph : GraphDocument) : Outcome String :=
  Json.renderWithin room graph.toValue

end GraphDocument

end ImportImpact
