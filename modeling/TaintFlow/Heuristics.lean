import TaintFlow.Event
import TaintFlow.Json.Record
import TaintFlow.Location.AccessPath

/-!
# Heuristics

The bounds that keep the analysis small: the height of widened trees, the sizes of ports by the role
that they play, and the depth to which propagations are collapsed.  The collapse depth never stays
above the sizes of the paths of propagations.
-/

namespace TaintFlow

/-- The bounds of an analysis. -/
structure Heuristics where
  wideningHeight : UInt64 := 4
  generationPortSize : UInt64 := 4
  parameterSourcePortSize : UInt64 := 4
  sinkPortSize : UInt64 := 4
  callEffectSourcePortSize : UInt64 := 4
  callEffectSinkPortSize : UInt64 := 4
  propagationInputPathSize : UInt64 := 4
  propagationOutputPathSize : UInt64 := 4
  collapseDepth : UInt64 := 4
  deriving DecidableEq

/-- What a port is used for. -/
inductive PortRole where
  | generation
  | parameterSource
  | sink
  | callEffectSource
  | callEffectSink
  | propagationInput
  | propagationOutput
  deriving DecidableEq

namespace Heuristics

/-- The bounds that hold unless others are given. -/
def default : Heuristics := {}

/-- The record form.  Every bound may be left out. -/
def record : Json.Record Heuristics where
  name := "Heuristics"
  fields := [
    ⟨"source_sink_tree_widening_height", false,
      fun v h => return { h with wideningHeight := ← v.asUInt64 }⟩,
    ⟨"generation_max_port_size", false,
      fun v h => return { h with generationPortSize := ← v.asUInt64 }⟩,
    ⟨"parameter_source_max_port_size", false,
      fun v h => return { h with parameterSourcePortSize := ← v.asUInt64 }⟩,
    ⟨"sink_max_port_size", false,
      fun v h => return { h with sinkPortSize := ← v.asUInt64 }⟩,
    ⟨"call_effect_source_max_port_size", false,
      fun v h => return { h with callEffectSourcePortSize := ← v.asUInt64 }⟩,
    ⟨"call_effect_sink_max_port_size", false,
      fun v h => return { h with callEffectSinkPortSize := ← v.asUInt64 }⟩,
    ⟨"propagation_max_input_path_size", false,
      fun v h => return { h with propagationInputPathSize := ← v.asUInt64 }⟩,
    ⟨"propagation_max_output_path_size", false,
      fun v h => return { h with propagationOutputPathSize := ← v.asUInt64 }⟩,
    ⟨"propagation_max_collapse_depth", false,
      fun v h => return { h with collapseDepth := ← v.asUInt64 }⟩]

/-- The smaller of the two sizes of the paths of propagations. -/
def propagationPathSize (h : Heuristics) : UInt64 :=
  min h.propagationInputPathSize h.propagationOutputPathSize

/-- Lowers the collapse depth to the sizes of the paths of propagations. -/
def withCollapseDepthLowered (h : Heuristics) : Logged Heuristics :=
  if h.collapseDepth > h.propagationPathSize then do
    Logged.report (.collapseDepthLowered h.collapseDepth.toNat h.propagationInputPathSize.toNat
      h.propagationOutputPathSize.toNat)
    return { h with collapseDepth := h.propagationPathSize }
  else pure h

/-- The bounds that should not be below the widening height, with their names. -/
def boundsAboveWidening (h : Heuristics) : List (String × UInt64) :=
  [("generation_max_port_size", h.generationPortSize),
    ("sink_max_port_size", h.sinkPortSize),
    ("parameter_source_max_port_size", h.parameterSourcePortSize),
    ("call_effect_source_max_port_size", h.callEffectSourcePortSize),
    ("call_effect_sink_max_port_size", h.callEffectSinkPortSize),
    ("propagation_max_input_path_size", h.propagationInputPathSize)]

/-- Makes the bounds consistent: lowers the collapse depth where needed, and reports the bounds
below the widening height. -/
def enforceConsistency (h : Heuristics) : Logged Heuristics := do
  let h ← h.withCollapseDepthLowered
  h.boundsAboveWidening.forM fun (name, size) =>
    if h.wideningHeight > size then
      Logged.report (.wideningAbove h.wideningHeight.toNat name size.toNat)
    else pure ()
  return h

/-- Reads heuristics and makes them consistent. -/
def ofJson (v : Json) : Attempt Heuristics := do
  let h ← Attempt.ofChecked (v.readRecord record default)
  Attempt.ofLogged h.enforceConsistency

def toJson (h : Heuristics) : Json :=
  let size (n : UInt64) : Json := .integer n.toNat
  .object [
    ("call_effect_sink_max_port_size", size h.callEffectSinkPortSize),
    ("call_effect_source_max_port_size", size h.callEffectSourcePortSize),
    ("generation_max_port_size", size h.generationPortSize),
    ("parameter_source_max_port_size", size h.parameterSourcePortSize),
    ("propagation_max_collapse_depth", size h.collapseDepth),
    ("propagation_max_input_path_size", size h.propagationInputPathSize),
    ("propagation_max_output_path_size", size h.propagationOutputPathSize),
    ("sink_max_port_size", size h.sinkPortSize),
    ("source_sink_tree_widening_height", size h.wideningHeight)]

/-- The bound on the path of a port. -/
def maxPortSize (h : Heuristics) : PortRole → UInt64
  | .generation => h.generationPortSize
  | .parameterSource => h.parameterSourcePortSize
  | .sink => h.sinkPortSize
  | .callEffectSource => h.callEffectSourcePortSize
  | .callEffectSink => h.callEffectSinkPortSize
  | .propagationInput => h.propagationInputPathSize
  | .propagationOutput => h.propagationOutputPathSize

/-- Cuts the path of a port down to the bound of its role. -/
def truncatePort (h : Heuristics) (port : AccessPath) (role : PortRole) : AccessPath :=
  port.truncate (h.maxPortSize role).toNat

end Heuristics

end TaintFlow
