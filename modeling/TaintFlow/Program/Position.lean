import TaintFlow.Json.Record

/-!
# Positions in the analyzed sources
-/

namespace TaintFlow

/-- A line of a source file, perhaps narrowed to a range of columns. -/
structure Position where
  path : Option String
  line : Int32
  start : Option UInt32
  stop : Option UInt32
  deriving DecidableEq

namespace Position

instance : Ord Position :=
  ⟨compareLex (compareOn path)
    (compareLex (compareOn line) (compareLex (compareOn start) (compareOn stop)))⟩

instance : Std.TransOrd Position := inferInstanceAs (Std.TransCmp (compareLex _ _))

instance : Std.LawfulEqOrd Position where
  eq_of_compare {a b} h := by
    have h : compareLex _ _ a b = .eq := h
    simp only [compareLex_eq_eq, compareOn, Std.LawfulEqCmp.compare_eq_iff_eq] at h
    cases a
    cases b
    simp_all

/-- A whole line. -/
def ofLine (path : Option String) (line : Int32) : Position := ⟨path, line, none, none⟩

/-- The position narrowed to a range of columns. -/
def withRange (p : Position) (start stop : UInt32) : Position :=
  { p with start := some start, stop := some stop }

def toText (p : Position) : String := p.path.getD "unknown" ++ ":" ++ toString p.line.toInt

/-- The fields that have a value. -/
def toJson (p : Position) : Json :=
  .object
    (Json.optionalMember "end" (p.stop.map fun n => .integer n.toNat) ++
      [("line", .integer p.line.toInt)] ++
      Json.optionalMember "path" (p.path.map .string) ++
      Json.optionalMember "start" (p.start.map fun n => .integer n.toNat))

/-- The record form of a position.  Only the line has to be given. -/
def record : Json.Record Position where
  name := "Position"
  fields := [
    ⟨"path", false, fun v p => return { p with path := ← v.asOption Json.asString }⟩,
    ⟨"line", true, fun v p => return { p with line := ← v.asInt32 }⟩,
    ⟨"start", false, fun v p => return { p with start := ← v.asOption Json.asUInt32 }⟩,
    ⟨"end", false, fun v p => return { p with stop := ← v.asOption Json.asUInt32 }⟩]

/-- Reads a position. -/
def ofJson (v : Json) : Checked Position := v.readRecord record (ofLine none 0)

end Position

end TaintFlow
