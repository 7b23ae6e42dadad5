import TaintFlow.Frame.Basic

/-!
# The JSON form of frames

A frame is an object with the one member `call_info`, which holds the parts that the frame has.
Further members are read over.
-/

namespace TaintFlow.Frame

/-- The parts of a frame. -/
def toJson (f : Frame) : Json :=
  .object [("call_info", .object
    ([("call_kind", .string f.kind.toText)] ++
      Json.optionalMember "port" (f.port.map AccessPath.toJson) ++
      Json.optionalMember "position" (f.position.map Position.toJson) ++
      Json.optionalMember "resolves_to" (f.callee.map Method.toJson)))]

/-- Reads a member that may be left out. -/
def optionalPart {α : Type} (read : Json → Checked α) (v : Json) (field : String) :
    Checked (Option α) :=
  match v.get? field with
  | none => .ok none
  | some part => return some (← read part)

/-- Reads a frame. -/
def ofJson (v : Json) : Checked Frame := do
  let parts := Json.object (← v.objectField "call_info")
  let kind ← FrameKind.ofText (← parts.textField "call_kind")
  let callee ← optionalPart Method.ofJson parts "resolves_to"
  let position ← optionalPart Position.ofJson parts "position"
  let port ← optionalPart AccessPath.ofJson parts "port"
  if callee.isSome && (port.isNone || !kind.isCallSite) then
    .error (.validation parts.compact (some "resolves_to") .calleeOnCallSite)
  make callee kind port position

end TaintFlow.Frame
