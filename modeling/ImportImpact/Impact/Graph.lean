import ImportImpact.Change.PullRequest
import ImportImpact.Encoding.Utf8
import ImportImpact.FileSystem.Edit
import ImportImpact.Impact.Document

/-!
The impact graph of a change: the changed files and the files affected by them as nodes, the
imports between them as edges, and a head with what is known of the pull request. Changed files
come first. Only an edited file carries its diff.
-/

namespace ImportImpact

/-- A file in the graph. The diff is null where there is none to show. -/
inductive ImpactNode where
  | changed (file : ChangedFile) (diff : Value)
  | affected (path : String)

namespace ImpactNode

def id : ImpactNode → String
  | .changed file _ => file.path
  | .affected path => path

def label (node : ImpactNode) : String := Written.lastName node.id

def status : ImpactNode → String
  | .changed file _ => file.kind.name
  | .affected _ => "affected"

def isChanged : ImpactNode → Bool
  | .changed _ _ => true
  | .affected _ => false

def url : ImpactNode → Value
  | .changed file _ => file.url
  | .affected _ => .null

def diff : ImpactNode → Value
  | .changed _ diff => diff
  | .affected _ => .null

def document (node : ImpactNode) : NodeDocument where
  id := .str node.id
  label := .str node.label
  kind := .str "file"
  status := .str node.status
  modified := .bool node.isChanged
  url := node.url
  diff := node.diff

end ImpactNode

structure ImpactCounts where
  changedFiles : Nat
  affectedFiles : Nat
  totalFiles : Nat
  dependencies : Nat
  deriving DecidableEq

def ImpactCounts.toValue (counts : ImpactCounts) : Value :=
  .record [("modifiedFiles", .int counts.changedFiles),
    ("affectedFiles", .int counts.affectedFiles), ("totalFiles", .int counts.totalFiles),
    ("dependencies", .int counts.dependencies)]

structure ImpactHead where
  tool : Value
  base : Value
  head : Value
  pullRequestId : Option String
  pullRequestTitle : Value
  pullRequestUrl : Value
  generatedAt : String
  counts : ImpactCounts

def programVersion : String := "1.0.0"

def ImpactHead.entries (head : ImpactHead) : List (String × Value) :=
  [("tool", head.tool), ("version", .str programVersion), ("type", .str "pr-impact"),
    ("base", head.base), ("head", head.head),
    ("prId", (head.pullRequestId.map Value.str).getD .null),
    ("prTitle", head.pullRequestTitle), ("prUrl", head.pullRequestUrl),
    ("generatedAt", .str head.generatedAt), ("stats", head.counts.toValue)]

structure ImpactGraph where
  head : ImpactHead
  nodes : List ImpactNode
  edges : List Edge

namespace ImpactGraph

structure Source where
  tool : Value
  generatedAt : String
  edges : List Edge
  affected : List String
  /-- Diff texts by path. -/
  diffs : Value

/-- The diff of a file, if it is edited. The diffs must be a mapping, but nothing at all stands
for no diffs. -/
def diffFor (diffs : Value) (file : ChangedFile) : Outcome Value := do
  let diff ← match diffs with
    | .dict entries => pure ((Value.lookup file.path entries).getD .null)
    | other =>
        if other.truthy then Value.misused (.noMember other.kindName "get") else pure .null
  pure (if file.kind = .edit then diff else .null)

def changedNode (diffs : Value) (file : ChangedFile) : Outcome ImpactNode := do
  pure (.changed file (← diffFor diffs file))

/-- Affected files that are changed themselves get no second node. -/
def affectedNodes (changed : List ChangedFile) (affected : List String) : List ImpactNode :=
  (affected.filter fun path => !(changed.map ChangedFile.path).contains path).map .affected

/-- The graph of these changes; without a change list those of the pull request count. -/
def build (source : Source) (changes : Option Changes) (pull : PullRequest) :
    Outcome ImpactGraph := do
  let changed ← (changes.getD (.ofFiles pull.changedFiles)).normalized
  let changedNodes ← changed.mapM (changedNode source.diffs)
  let affectedNodes := affectedNodes changed source.affected
  let nodes := changedNodes ++ affectedNodes
  let counts : ImpactCounts :=
    ⟨changedNodes.length, affectedNodes.length, nodes.length, source.edges.length⟩
  pure
    { head :=
        { tool := source.tool
          base := pull.targetRef
          head := pull.sourceRef
          pullRequestId := pull.id
          pullRequestTitle := pull.title
          pullRequestUrl := pull.url
          generatedAt := source.generatedAt
          counts }
      nodes
      edges := source.edges }

def changedNodes (graph : ImpactGraph) : List ImpactNode :=
  graph.nodes.filter ImpactNode.isChanged

def affectedNodesOf (graph : ImpactGraph) : List ImpactNode :=
  graph.nodes.filter fun node => !node.isChanged

def node? (graph : ImpactGraph) (id : String) : Option ImpactNode :=
  graph.nodes.find? fun node => node.id = id

def document (graph : ImpactGraph) : GraphDocument :=
  ⟨graph.head.entries, graph.nodes.map ImpactNode.document, graph.edges⟩

def save (graph : ImpactGraph) (system : FileSystem) (path : Path) : Outcome FileSystem := do
  let grown ← system.ensureDirectories path.parent
  grown.write path (Utf8.ofString (← graph.document.renderWithin system.platform.jsonRoom))

end ImpactGraph

end ImportImpact
