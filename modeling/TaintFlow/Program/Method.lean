import TaintFlow.Json.Reader

/-!
# Methods of the analyzed program

A method is known by its signature and by whether it is static.  It is ordered by signature first.
-/

namespace TaintFlow

/-- A resolved method. -/
structure Method where
  signature : String
  isStatic : Bool
  deriving DecidableEq

namespace Method

instance : Ord Method :=
  ⟨compareLex (compareOn signature) (compareOn isStatic)⟩

instance : Std.TransOrd Method := inferInstanceAs (Std.TransCmp (compareLex _ _))

instance : Std.LawfulEqOrd Method where
  eq_of_compare {a b} h := by
    have h : compareLex _ _ a b = .eq := h
    simp only [compareLex_eq_eq, compareOn, Std.LawfulEqCmp.compare_eq_iff_eq] at h
    cases a
    cases b
    simp_all

/-- A method prints as its signature. -/
def toText (m : Method) : String := m.signature

/-- A static method is an object with its name, any other method is its signature. -/
def toJson (m : Method) : Json :=
  if m.isStatic then .object [("name", .string m.signature), ("static", .bool true)]
  else .string m.signature

/-- Reads a method. -/
def ofJson (v : Json) : Checked Method := do
  match v with
  | .string signature => return ⟨signature, false⟩
  | _ =>
      v.onlyFields ["name", "static"]
      let signature ← v.textField "name"
      match v.get? "static" with
      | none => return ⟨signature, false⟩
      | some (.bool isStatic) => return ⟨signature, isStatic⟩
      | some other => .error (.validation other.compact (some "static") .boolean)

end Method

end TaintFlow
