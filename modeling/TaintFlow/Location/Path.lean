import TaintFlow.Location.Element

/-!
# Paths

A path is a sequence of elements.  The shorter a path, the more it covers: a path covers every path
that it is a prefix of, and the longest common prefix covers both.
-/

namespace TaintFlow

/-- The selectors that refine a root, outermost first. -/
abbrev Path := List Element

namespace Path

def toText (p : Path) : String := String.join (p.map Element.toText)

/-- The path without its last element, which there must be. -/
def pop (p : Path) : Checked Path :=
  if p = [] then .error (.contract .removalFromEmptyPath) else .ok p.dropLast

/-- At most the first `size` elements. -/
def truncate (p : Path) (size : Nat) : Path := p.take size

/-- The elements that two paths share from the beginning on. -/
def commonPrefix : Path → Path → Path
  | e :: p, f :: q => if e = f then e :: commonPrefix p q else []
  | _, _ => []

/-- Replaces every value-of element by the index that a call gives to its argument. -/
def resolve (constants : List (Option String)) (p : Path) : Logged Path :=
  p.mapM fun
    | .valueOf position => Element.indexOfConstant constants position
    | e => pure e

/-- Reads the elements of segments. -/
def ofSegments (segments : List Segment) : Checked Path := segments.mapM Element.ofSegment

/-- Reads a path. -/
def ofText (text : String) : Checked Path := do ofSegments (← Segment.split text)

def toJson (p : Path) : Json := .string p.toText

def ofJson (v : Json) : Checked Path := do ofText (← v.text)

end Path

end TaintFlow
