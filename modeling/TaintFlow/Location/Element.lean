import TaintFlow.Event
import TaintFlow.Location.Root
import TaintFlow.Location.Segment

/-!
# Elements of paths

An element selects a part of a location: a field, an index, any index, or the index that is the
constant value of an argument at a call.
-/

namespace TaintFlow

/-- A selector. -/
inductive Element where
  | field (name : String)
  | index (name : String)
  | anyIndex
  /-- The index that is the value of the argument at `position`. -/
  | valueOf (position : ArgumentPosition)
  deriving DecidableEq

namespace Element

/-- The place of the constructor in the order. -/
def rank : Element → Nat
  | .field _ => 0
  | .index _ => 1
  | .anyIndex => 2
  | .valueOf _ => 3

/-- The name of a field or an index. -/
def name? : Element → Option String
  | .field name | .index name => some name
  | _ => none

/-- The position that a value-of element refers to. -/
def position? : Element → Option Nat
  | .valueOf position => some position.val
  | _ => none

instance : Ord Element :=
  ⟨compareLex (compareOn rank) (compareLex (compareOn name?) (compareOn position?))⟩

instance : Std.TransOrd Element := inferInstanceAs (Std.TransCmp (compareLex _ _))

instance : Std.LawfulEqOrd Element where
  eq_of_compare {a b} h := by
    have h : compareLex _ _ a b = .eq := h
    simp only [compareLex_eq_eq, compareOn, Std.LawfulEqCmp.compare_eq_iff_eq] at h
    cases a <;> cases b <;> simp_all [rank, name?, position?, Fin.ext_iff]

def toText : Element → String
  | .field name => "." ++ name
  | .index name => "[" ++ name ++ "]"
  | .anyIndex => "[*]"
  | .valueOf position => "[<" ++ (Root.argument position).toText ++ ">]"

/-- The element that indexes by the value of `root`, which must be an argument. -/
def ofValueOf (root : Root) : Checked Element :=
  match root with
  | .argument position => .ok (.valueOf position)
  | _ => .error (.contract (.valueOfRoot root.toText))

/-- The position that a value-of element refers to.  Other elements have none. -/
def position : Element → Checked ArgumentPosition
  | .valueOf position => .ok position
  | e => .error (.contract (.positionOfElement e.toText))

/-- The index that a call gives to the argument at `position`: its constant value if it is known,
any index if it is not.  A position that the call does not have is reported. -/
def indexOfConstant (constants : List (Option String)) (position : ArgumentPosition) :
    Logged Element :=
  match constants[position.val]? with
  | some (some value) => pure (.index value)
  | some none => pure .anyIndex
  | none => do
      Logged.report (.unknownArgument position.val)
      return .anyIndex

/-- Replaces a value-of element by the index that a call gives to its argument. -/
def resolve (constants : List (Option String)) (e : Element) : Attempt Element := do
  let position ← Attempt.ofChecked e.position
  Attempt.ofLogged (indexOfConstant constants position)

/-- The element that a segment of a path stands for. -/
def ofSegment (s : Segment) : Checked Element :=
  match s with
  | .field name => .ok (.field name)
  | .index inner =>
      if inner = "" then .error (.validation s.toText none .nonemptyIndex)
      else if inner = "*" then .ok .anyIndex
      else
        match Affix.between? "<" ">" inner with
        | none => .ok (.index inner)
        | some root =>
            match Root.ofText root with
            | .ok (.argument position) => .ok (.valueOf position)
            | _ => .error (.validation s.toText none (.valueOf inner))

/-- Reads an element.  A text without brackets around it is the name of a field. -/
def ofText (text : String) : Checked Element := ofSegment (.ofText text)

end Element

end TaintFlow
