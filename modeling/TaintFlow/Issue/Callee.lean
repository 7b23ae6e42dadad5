import TaintFlow.Program.ExploitabilityOrigin

/-!
# Callees of issues

Where the sink of an issue is: on the return value of the method, on a call that could not be
resolved, on a call of a named method, or at the origin of an exploitability rule.
-/

namespace TaintFlow

inductive Callee where
  | returnValue
  | unresolved
  | named (name : String)
  | exploitability (origin : ExploitabilityOrigin)
  deriving DecidableEq

namespace Callee

def toText : Callee → String
  | .returnValue => "return"
  | .unresolved => "unresolved"
  | .named name => name
  | .exploitability origin => origin.toText

/-- An origin is an object, any other callee is its text. -/
def toJson : Callee → Json
  | .exploitability origin => origin.toJson
  | callee => .string callee.toText

end Callee

end TaintFlow
