import TaintFlow.Frame.Kind
import TaintFlow.Location.AccessPath
import TaintFlow.Program.Position

/-!
# Frames of traces

A frame is one hop of a trace: the callee that is reached, the kind of the frame, the port of the
callee through which the taint flows, and the position of the call.  A callee is only ever attached
to a call site, and always together with a port.

Frames are ordered by kind, port, position and callee, in this order.
-/

namespace TaintFlow

/-- One hop of a trace. -/
structure Frame where
  callee : Option Method
  kind : FrameKind
  port : Option AccessPath
  position : Option Position
  /-- Only a call site with a port has a callee. -/
  callee_at_port : callee.isSome = true → port.isSome = true ∧ kind.isCallSite = true
  deriving DecidableEq

namespace Frame

instance : Ord Frame :=
  ⟨compareLex (compareOn fun f => f.kind.encode)
    (compareLex (compareOn port) (compareLex (compareOn position) (compareOn callee)))⟩

instance : Std.TransOrd Frame := inferInstanceAs (Std.TransCmp (compareLex _ _))

instance : Std.LawfulEqOrd Frame where
  eq_of_compare {a b} h := by
    have h : compareLex _ _ a b = .eq := h
    simp only [compareLex_eq_eq, compareOn, Std.LawfulEqCmp.compare_eq_iff_eq] at h
    have kinds := FrameKind.encode_injective h.1
    cases a
    cases b
    simp_all

/-- A frame without a callee. -/
def withoutCallee (kind : FrameKind) (port : Option AccessPath) (position : Option Position) :
    Frame :=
  ⟨none, kind, port, position, by simp⟩

/-- A frame with the given parts, where a callee needs a port and a call site. -/
def make (callee : Option Method) (kind : FrameKind) (port : Option AccessPath)
    (position : Option Position) : Checked Frame :=
  match callee with
  | none => .ok (withoutCallee kind port position)
  | some m =>
      if hport : port.isSome = true then
        if hkind : kind.isCallSite = true then
          .ok ⟨some m, kind, port, position, fun _ => ⟨hport, hkind⟩⟩
        else .error (.contract (.calleeOffCallSite m.toText kind.toText))
      else .error (.contract (.calleeWithoutPort m.toText))

/-- A declaration to which nothing is attached. -/
def default : Frame := withoutCallee (.stage .declaration false) none none

/-- Is nothing attached to this declaration? -/
def isDefault (f : Frame) : Bool :=
  f.callee.isNone && f.kind.isDeclaration && f.port.isNone && f.position.isNone

/-- Is this the end of a trace? -/
def isLeaf (f : Frame) : Bool := f.kind.isOrigin

/-- Is the port a connection to another code base that no callee has been given to? -/
def isOnAnchor (f : Frame) : Bool :=
  match f.port with
  | some port => port.root = .anchor && port.path.isEmpty
  | none => false

/-- The frame one call further from the end of the trace.  A port behind a bare anchor is written as
other analyzers write it, and a declaration does not hand on its callee. -/
def propagate (f : Frame) (callee : Option Method) (port : Option AccessPath)
    (position : Option Position) : Checked Frame := do
  if f.kind = .propagation then
    .error (.contract .propagatedPropagation)
  let port ←
    if f.isOnAnchor then
      match callee, port with
      | some callee, some port => .ok (some (port.canonicalFor callee))
      | _, _ => .error (.contract .anchorLeafWithoutCallee)
    else .ok port
  make (if f.kind.isDeclaration then none else callee) f.kind.propagate port position

def toText (f : Frame) : String :=
  if f.isDefault then "CallInfo()"
  else
    let shown (text : Option String) := text.getD "null"
    "CallInfo(callee=`" ++ shown (f.callee.map Method.toText) ++ "`, call_kind=" ++
      f.kind.toText ++ ", callee_port=" ++ shown (f.port.map AccessPath.toText) ++
      ", call_position=" ++ shown (f.position.map Position.toText) ++ ")"

end Frame

end TaintFlow
