import TaintFlow.Issue.Basic
import TaintFlow.Kind.Detail

/-!
# The text of issues
-/

namespace TaintFlow.Issue

/-- The kinds of the sources and of the sinks are written in full. -/
def toText (i : Issue) : String :=
  "Issue(sources=" ++ Kind.setDetail i.sources.kinds.toList ++
    ", sinks=" ++ Kind.setDetail i.sinks.kinds.toList ++
    ", rule=" ++ (i.ruleCode.map fun code => toString code.toInt).getD "null" ++
    ", callee=" ++ i.callee.toText ++
    ", sink_index=" ++ toString i.sinkIndex.toNat ++
    ", position=" ++ (i.position.map Position.toText).getD "null" ++ ")"

end TaintFlow.Issue
