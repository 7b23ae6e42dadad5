import TaintFlow.Location.Path
import TaintFlow.Program.Method

/-!
# Access paths

An access path is a storage location: a root refined by a path.  `a ≤ b` says that `b` covers `a`.
-/

namespace TaintFlow

/-- A storage location. -/
structure AccessPath where
  root : Root
  path : Path
  deriving DecidableEq

namespace AccessPath

instance : Ord AccessPath := ⟨compareLex (compareOn root) (compareOn path)⟩

instance : Std.TransOrd AccessPath := inferInstanceAs (Std.TransCmp (compareLex _ _))

instance : Std.LawfulEqOrd AccessPath where
  eq_of_compare {a b} h := by
    have h : compareLex _ _ a b = .eq := h
    simp only [compareLex_eq_eq, compareOn, Std.LawfulEqCmp.compare_eq_iff_eq] at h
    cases a
    cases b
    simp_all

/-- All that is reachable from a root. -/
def ofRoot (root : Root) : AccessPath := ⟨root, []⟩

/-- Does `b` cover `a`? -/
def leq (a b : AccessPath) : Bool := a.root = b.root && b.path.isPrefixOf a.path

/-- The smallest location that covers both.  The roots must be the same. -/
def join (a b : AccessPath) : Checked AccessPath :=
  if a.root = b.root then .ok ⟨a.root, a.path.commonPrefix b.path⟩
  else .error (.contract .joinOfRoots)

def append (a : AccessPath) (e : Element) : AccessPath := { a with path := a.path ++ [e] }

def extend (a : AccessPath) (p : Path) : AccessPath := { a with path := a.path ++ p }

def pop (a : AccessPath) : Checked AccessPath := return { a with path := ← a.path.pop }

def truncate (a : AccessPath) (size : Nat) : AccessPath := { a with path := a.path.truncate size }

end AccessPath

/-- The root as other analyzers number it in `m`: they count the receiver of a method that is not
static as the argument before the first. -/
def Root.canonicalFor (m : Method) (r : Root) : Root :=
  match r with
  | .argument position =>
      if m.isStatic then r
      else if position.val = 0 then .canonicalThis
      else .argument ⟨position.val - 1, Nat.lt_of_le_of_lt (Nat.sub_le ..) position.isLt⟩
  | _ => r

namespace AccessPath

/-- The port that other analyzers use for this location in `m`: the canonical root as the one field
of an anchor. -/
def canonicalFor (m : Method) (a : AccessPath) : AccessPath :=
  ⟨.anchor, [.field (a.root.canonicalFor m).toText]⟩

def toText (a : AccessPath) : String := a.root.toText ++ a.path.toText

/-- Reads an access path.  The first segment is its root. -/
def ofText (text : String) : Checked AccessPath := do
  match ← Segment.split text with
  | [] => .error (.validation text none .nonemptyAccessPath)
  | root :: segments => return ⟨← Root.ofText root.toText, ← Path.ofSegments segments⟩

def toJson (a : AccessPath) : Json := .string a.toText

def ofJson (v : Json) : Checked AccessPath := do ofText (← v.text)

end AccessPath

end TaintFlow
