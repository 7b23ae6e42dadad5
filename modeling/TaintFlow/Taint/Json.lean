import TaintFlow.Taint.Basic
import TaintFlow.Frame.Json
import TaintFlow.Kind.Text

/-!
# The export of taint

Each frame is written in its own JSON form, with the list of its kinds beside it.  Origins are
written where there are any, on every frame or only on those that end a trace.
-/

namespace TaintFlow

/-- On which frames origins are exported. -/
inductive OriginExport where
  | always
  | onlyOnLeaves
  deriving DecidableEq

/-- Are the origins of a frame exported? -/
def OriginExport.covers (mode : OriginExport) (frame : Frame) : Bool :=
  match mode with
  | .always => true
  | .onlyOnLeaves => frame.isLeaf

namespace Taint

/-- A kind with its origins. -/
def kindToJson (withOrigins : Bool) (kind : Kind) (origins : SortedSet String) : Json :=
  .object ([("kind", .string kind.toText)] ++
    if withOrigins && !origins.isEmpty then
      [("origins", .array (origins.toList.map .string))]
    else [])

/-- A frame with its kinds. -/
def frameToJson (mode : OriginExport) (frame : Frame) (kinds : KindOrigins) : Json :=
  let kindList := Json.array (kinds.entries.map fun e => kindToJson (mode.covers frame) e.1 e.2)
  match frame.toJson with
  | .object members => .object (members ++ [("kinds", kindList)])
  | other => other

def toJson (mode : OriginExport) (t : Taint) : Json :=
  .array (t.frames.entries.map fun e => frameToJson mode e.1 e.2)

end Taint

end TaintFlow
