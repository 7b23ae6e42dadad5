import TaintFlow.Rule.Coverage
import TaintFlow.RuleSet.Basic

/-!
# Coverage of a rule set

The rules that can fire with the used kinds and transforms, each with its cover, and the codes of
those that cannot.
-/

namespace TaintFlow

/-- The covered rules and the codes of the others. -/
structure Coverage where
  covered : SortedMap Int64 Cover
  uncovered : SortedSet Int64

namespace Coverage

/-- The coverage of a list of rules. -/
def ofRules (sources sinks : KindSet) (transforms : TransformSet) (rules : List Rule) : Coverage :=
  rules.foldl (fun coverage r =>
    match r.cover? sources sinks transforms with
    | some cover => { coverage with covered := coverage.covered.insert r.code cover }
    | none => { coverage with uncovered := coverage.uncovered.insert r.code }) ⟨.empty, .empty⟩

/-- Is the rule with code `code` covered? -/
def covers (c : Coverage) (code : Int64) : Bool := (c.covered.get? code).isSome

def toJson (c : Coverage) : Json :=
  .object [("category_coverage", .object [
    ("rules_covered", .array (c.covered.entries.map fun e => e.2.toJson e.1)),
    ("rules_lacking_models", .array (c.uncovered.toList.map fun code => .integer code.toInt))])]

end Coverage

/-- The coverage of the rules of a set. -/
def RuleSet.coverage (rules : RuleSet) (sources sinks : KindSet) (transforms : TransformSet) :
    Coverage :=
  .ofRules sources sinks transforms rules.toList

end TaintFlow
