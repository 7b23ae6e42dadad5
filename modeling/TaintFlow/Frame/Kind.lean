import TaintFlow.Failure

/-!
# Kinds of frames

A frame of a trace stands at a stage: it declares the taint, it is where the taint enters or leaves,
or it is a call site on the way.  A propagation is the fourth kind.  A stage may carry the mark of a
propagation with a trace, a bare propagation may not.

The encoding has the stage in two bits and the mark above them.
-/

namespace TaintFlow

/-- How far a frame is from the end of its trace. -/
inductive Stage where
  | declaration
  | origin
  | callSite
  deriving DecidableEq

namespace Stage

/-- The stage of the next frame. -/
def next : Stage → Stage
  | .declaration => .origin
  | _ => .callSite

def encode : Stage → UInt32
  | .declaration => 0
  | .origin => 1
  | .callSite => 2

def toText : Stage → String
  | .declaration => "Declaration"
  | .origin => "Origin"
  | .callSite => "CallSite"

end Stage

/-- The kind of a frame. -/
inductive FrameKind where
  | propagation
  /-- A stage, perhaps of a propagation with a trace. -/
  | stage (stage : Stage) (traced : Bool)
  deriving DecidableEq

namespace FrameKind

/-- Every kind of frame. -/
def all : List FrameKind :=
  [.stage .declaration false, .stage .origin false, .stage .callSite false, .propagation,
    .stage .declaration true, .stage .origin true, .stage .callSite true]

theorem mem_all (k : FrameKind) : k ∈ all := by
  cases k with
  | propagation => decide
  | stage s traced => cases s <;> cases traced <;> decide

def encode : FrameKind → UInt32
  | .propagation => 3
  | .stage s traced => s.encode + if traced then 4 else 0

theorem encode_injective {k l : FrameKind} (h : k.encode = l.encode) : k = l := by
  have distinct : ∀ k ∈ all, ∀ l ∈ all, k.encode = l.encode → k = l := by decide
  exact distinct k (mem_all k) l (mem_all l) h

/-- The kind with a given encoding. -/
def decode (encoding : UInt32) : Checked FrameKind :=
  match all.find? (·.encode = encoding) with
  | some kind => .ok kind
  | none => .error (.contract (.frameKindEncoding encoding.toNat))

def isDeclaration : FrameKind → Bool
  | .stage .declaration _ => true
  | _ => false

def isOrigin : FrameKind → Bool
  | .stage .origin _ => true
  | _ => false

def isCallSite : FrameKind → Bool
  | .stage .callSite _ => true
  | _ => false

/-- Does the kind carry the mark of a propagation with a trace? -/
def isTraced : FrameKind → Bool
  | .stage _ traced => traced
  | .propagation => false

/-- Does the kind belong to a propagation, with a trace or without? -/
def isPropagation (k : FrameKind) : Bool := k = .propagation || k.isTraced

/-- The kind of the next frame.  A bare propagation has no next stage. -/
def propagate : FrameKind → FrameKind
  | .propagation => .propagation
  | .stage s traced => .stage s.next traced

/-- The names of the bits of the encoding. -/
def flags : FrameKind → List String
  | .propagation => ["ORIGIN", "CALL_SITE", "PROPAGATION"]
  | .stage s traced =>
      (match s with
        | .declaration => []
        | .origin => ["ORIGIN"]
        | .callSite => ["CALL_SITE"]) ++
        (if traced then ["PROPAGATION_WITH_TRACE"] else [])

/-- Marks a stage as one of a propagation with a trace. -/
def withTrace : FrameKind → Checked FrameKind
  | .stage s false => .ok (.stage s true)
  | k => .error (.contract (.traceOn k.flags))

def toText : FrameKind → String
  | .propagation => "Propagation"
  | .stage s traced => (if traced then "PropagationWithTrace:" else "") ++ s.toText

/-- Reads a kind. -/
def ofText (text : String) : Checked FrameKind :=
  match all.find? (·.toText = text) with
  | some kind => .ok kind
  | none => .error (.validation text none .frameKind)

end FrameKind

end TaintFlow
