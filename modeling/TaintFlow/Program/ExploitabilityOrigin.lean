import TaintFlow.Program.Method
import TaintFlow.Program.Position

/-!
# Exploitability origins

Where the sink of an exploitability rule took its source over as a transform: the method in which
the call stands, the name of the callee, and the position of the call.
-/

namespace TaintFlow

structure ExploitabilityOrigin where
  exploitabilityRoot : Method
  callee : String
  position : Position
  deriving DecidableEq

namespace ExploitabilityOrigin

instance : Ord ExploitabilityOrigin :=
  ⟨compareLex (compareOn exploitabilityRoot) (compareLex (compareOn callee) (compareOn position))⟩

instance : Std.TransOrd ExploitabilityOrigin := inferInstanceAs (Std.TransCmp (compareLex _ _))

instance : Std.LawfulEqOrd ExploitabilityOrigin where
  eq_of_compare {a b} h := by
    have h : compareLex _ _ a b = .eq := h
    simp only [compareLex_eq_eq, compareOn, Std.LawfulEqCmp.compare_eq_iff_eq] at h
    cases a
    cases b
    simp_all

def toText (o : ExploitabilityOrigin) : String :=
  "ExploitabilityOrigin(root=" ++ o.exploitabilityRoot.toText ++ ", callee=" ++ o.callee ++
    ", position=" ++ o.position.toText ++ ")"

def toJson (o : ExploitabilityOrigin) : Json :=
  .object [("callee", .string o.callee), ("exploitability_root", o.exploitabilityRoot.toJson),
    ("position", o.position.toJson)]

end ExploitabilityOrigin

end TaintFlow
