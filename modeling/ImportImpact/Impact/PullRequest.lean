import ImportImpact.Analysis.Analyzer
import ImportImpact.Impact.Graph

/-!
From a pull request to its impact graph: the changed files are analysed, and the findings become
the graph. An analysis that found fault with its input or lost a stage still gives a graph.
-/

namespace ImportImpact

inductive GivenPullRequest where
  | record (pull : PullRequest)
  | document (value : Value)

def GivenPullRequest.resolve : GivenPullRequest → Outcome PullRequest
  | .record pull => .ok pull
  | .document (.dict entries) => PullRequest.ofEntries entries
  | .document other => Value.misused (.noMember other.kindName "changed_files")

namespace Analyzer

def Analyzed.graph (done : Analyzed) (pull : PullRequest) (diffs : Value) :
    Outcome ImpactGraph :=
  ImpactGraph.build
    { tool := done.settings.value .toolName
      generatedAt := done.host.clock.documentTime
      edges := done.findings.edges
      affected := done.findings.affected
      diffs } none pull

def analyzePullRequest (analyzer : Analyzer) (host : Host) (given : GivenPullRequest)
    (root : Path) (options : GivenOptions) (diffs : Value) : Outcome ImpactGraph := do
  let pull ← given.resolve
  (analyzer.analyze host (.ofFiles pull.changedFiles) root options).graph pull diffs

end Analyzer

end ImportImpact
