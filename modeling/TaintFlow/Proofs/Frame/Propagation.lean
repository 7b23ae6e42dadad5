import TaintFlow.Frame.Basic
import TaintFlow.Proofs.Checked

/-!
# One step of a trace

A hop is what a caller gives for the next frame of a trace: a callee, a port and a position.  The
next frame takes the position as it is, and the port unless the frame before it is on a bare anchor,
since the port then has to be written as other analyzers write it.  It takes the callee unless the
frame before it is a declaration.

`Frame.Follows` says this of two frames without saying how the second one is made, and
`Frame.propagate_eq_ok_iff` that propagation makes exactly the frames that follow.
-/

namespace TaintFlow

/-- What is given for the next frame of a trace. -/
structure Hop where
  callee : Option Method
  port : Option AccessPath
  position : Option Position

namespace Frame

variable {f g : Frame} {hop : Hop}

/-! ## Frames from their parts -/

/-- The parts of a frame are accepted, and no others give that frame. -/
theorem make_eq_ok_iff {callee : Option Method} {kind : FrameKind} {port : Option AccessPath}
    {position : Option Position} :
    make callee kind port position = .ok f ↔
      f.callee = callee ∧ f.kind = kind ∧ f.port = port ∧ f.position = position := by
  constructor
  · intro made
    cases callee with
    | none =>
        cases made
        exact ⟨rfl, rfl, rfl, rfl⟩
    | some m =>
        rw [make] at made
        split at made
        next =>
          split at made
          next =>
            cases made
            exact ⟨rfl, rfl, rfl, rfl⟩
          next => cases made
        next => cases made
  · rintro ⟨rfl, rfl, rfl, rfl⟩
    obtain ⟨callee, kind, port, position, callee_at_port⟩ := f
    cases callee with
    | none => rfl
    | some m =>
        obtain ⟨hport, hkind⟩ := callee_at_port rfl
        rw [make, dif_pos hport, dif_pos hkind]

theorem isOnAnchor_iff : f.isOnAnchor = true ↔ f.port = some (.ofRoot .anchor) := by
  rw [isOnAnchor]
  cases f.port with
  | none => simp
  | some port =>
      obtain ⟨root, path⟩ := port
      simp [AccessPath.ofRoot]

/-! ## The next frame -/

/-- The frame `g` comes after `f` for what `hop` gives. -/
structure Follows (f : Frame) (hop : Hop) (g : Frame) : Prop where
  kind : g.kind = f.kind.propagate
  position : g.position = hop.position
  callee : g.callee = if f.kind.isDeclaration then none else hop.callee
  port : f.port ≠ some (.ofRoot .anchor) → g.port = hop.port
  portOnAnchor : f.port = some (.ofRoot .anchor) →
    ∃ m port, hop.callee = some m ∧ hop.port = some port ∧ g.port = some (port.canonicalFor m)

/-- The port of the next frame. -/
def portFor (f : Frame) (hop : Hop) : Checked (Option AccessPath) :=
  if f.isOnAnchor then
    match hop.callee, hop.port with
    | some callee, some port => .ok (some (port.canonicalFor callee))
    | _, _ => .error (.contract .anchorLeafWithoutCallee)
  else .ok hop.port

theorem propagate_eq (f : Frame) (hop : Hop) :
    f.propagate hop.callee hop.port hop.position =
      if f.kind = .propagation then .error (.contract .propagatedPropagation)
      else f.portFor hop >>= fun port =>
        make (if f.kind.isDeclaration then none else hop.callee) f.kind.propagate port
          hop.position := by
  rw [propagate]
  split
  next => rfl
  next =>
    dsimp only
    rw [portFor]
    split
    next => cases hop.callee <;> cases hop.port <;> rfl
    next => rfl

theorem portFor_eq_ok_iff {port : Option AccessPath} :
    f.portFor hop = .ok port ↔
      (f.port ≠ some (.ofRoot .anchor) → port = hop.port) ∧
      (f.port = some (.ofRoot .anchor) → ∃ m given, hop.callee = some m ∧ hop.port = some given ∧
        port = some (given.canonicalFor m)) := by
  rw [portFor]
  split
  next onAnchor =>
    rw [isOnAnchor_iff] at onAnchor
    cases hop.callee <;> cases hop.port <;> simp [onAnchor, eq_comm]
  next off =>
    rw [isOnAnchor_iff] at off
    simp [off, eq_comm]

theorem propagate_eq_ok_iff :
    f.propagate hop.callee hop.port hop.position = .ok g ↔
      f.kind ≠ .propagation ∧ f.Follows hop g := by
  rw [propagate_eq]
  split
  next bare => simp [bare]
  next moves =>
    rw [Checked.bind_eq_ok_iff]
    constructor
    · rintro ⟨port, hport, made⟩
      obtain ⟨callee, kind, rfl, position⟩ := make_eq_ok_iff.1 made
      obtain ⟨off, onAnchor⟩ := portFor_eq_ok_iff.1 hport
      exact ⟨moves, kind, position, callee, off, onAnchor⟩
    · rintro ⟨_, follows⟩
      refine ⟨g.port, portFor_eq_ok_iff.2 ⟨follows.port, follows.portOnAnchor⟩, ?_⟩
      exact make_eq_ok_iff.2 ⟨follows.callee, follows.kind, rfl, follows.position⟩

end Frame

end TaintFlow
