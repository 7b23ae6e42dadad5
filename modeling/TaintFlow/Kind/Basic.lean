import TaintFlow.Failure

/-!
# Kinds and transforms

A kind labels taint: it is what a source produces or a sink consumes.  A kind has a base and the
transforms that were applied along its flow, local ones before global ones; a plain kind has none.
A transform is declared by a user, or it is the source of an exploitability rule, recorded on the
sink that it reached.
-/

namespace TaintFlow

/-- Half of a sink of a multi-source rule, which the sources of `label` reach. -/
structure PartialSink where
  name : String
  label : String
  deriving DecidableEq

/-- A kind without transforms. -/
inductive BaseKind where
  | named (name : String)
  | partialSink (sink : PartialSink)
  /-- A partial sink of which the other half is fulfilled in the rule with code `rule`. -/
  | triggeredSink (sink : PartialSink) (rule : Int64)
  deriving DecidableEq

/-- A step that is applied to taint on its way.  A source is recorded with its base and its own
local and global transforms. -/
inductive Transform where
  | named (name : String)
  | source (base : BaseKind) (localTransforms globalTransforms : List Transform)

/-- A label of taint. -/
structure Kind where
  base : BaseKind
  localTransforms : List Transform
  globalTransforms : List Transform

namespace BaseKind

def isNamed : BaseKind → Bool
  | .named _ => true
  | _ => false

def isPartial : BaseKind → Bool
  | .partialSink _ => true
  | _ => false

def isTriggered : BaseKind → Bool
  | .triggeredSink .. => true
  | _ => false

/-- The label of a partial or triggered sink. -/
def label? : BaseKind → Option String
  | .partialSink sink | .triggeredSink sink _ => some sink.label
  | .named _ => none

def toText : BaseKind → String
  | .named name => name
  | .partialSink sink => "Partial:" ++ sink.name ++ ":" ++ sink.label
  | .triggeredSink sink rule =>
      "TriggeredPartial:" ++ sink.name ++ ":" ++ sink.label ++ ":" ++ toString rule.toInt

end BaseKind

namespace Transform

/-- The source of an exploitability rule as a transform. -/
def ofKind (k : Kind) : Transform := .source k.base k.localTransforms k.globalTransforms

/-- The kind that was recorded as a transform. -/
def source? : Transform → Option Kind
  | .named _ => none
  | .source base localTransforms globalTransforms =>
      some ⟨base, localTransforms, globalTransforms⟩

def isSource (t : Transform) : Bool := t.source?.isSome

end Transform

namespace Kind

/-- A kind without transforms. -/
def ofBase (base : BaseKind) : Kind := ⟨base, [], []⟩

def named (name : String) : Kind := ofBase (.named name)

def ofPartial (sink : PartialSink) : Kind := ofBase (.partialSink sink)

/-- The base of `k` with other transforms. -/
def withTransforms (k : Kind) (localTransforms globalTransforms : List Transform) : Kind :=
  ⟨k.base, localTransforms, globalTransforms⟩

/-- The kind without its transforms. -/
def plain (k : Kind) : Kind := ofBase k.base

/-- The local transforms and then the global ones. -/
def transforms (k : Kind) : List Transform := k.localTransforms ++ k.globalTransforms

/-- Does the kind carry a transform? -/
def isTransformed (k : Kind) : Bool :=
  !(k.localTransforms.isEmpty && k.globalTransforms.isEmpty)

def isNamed (k : Kind) : Bool := !k.isTransformed && k.base.isNamed

def isPartial (k : Kind) : Bool := !k.isTransformed && k.base.isPartial

def isTriggered (k : Kind) : Bool := !k.isTransformed && k.base.isTriggered

/-- Is a source recorded among the transforms? -/
def hasSource (k : Kind) : Bool := k.transforms.any Transform.isSource

/-- The label of a partial or triggered sink without transforms. -/
def label? (k : Kind) : Option String := if k.isTransformed then none else k.base.label?

/-- The partial sink that a kind is. -/
def partialSink? (k : Kind) : Option PartialSink :=
  if k.isTransformed then none
  else
    match k.base with
    | .partialSink sink => some sink
    | _ => none

theorem isTransformed_eq_false_iff {k : Kind} :
    k.isTransformed = false ↔ k.localTransforms = [] ∧ k.globalTransforms = [] := by
  simp [isTransformed]

theorem transforms_eq_nil_iff {k : Kind} : k.transforms = [] ↔ k.isTransformed = false := by
  rw [isTransformed_eq_false_iff, transforms, List.append_eq_nil_iff]

theorem plain_eq_self_iff {k : Kind} : k.plain = k ↔ k.isTransformed = false := by
  rw [isTransformed_eq_false_iff]
  constructor
  · intro h
    rw [← h]
    exact ⟨rfl, rfl⟩
  · rintro ⟨hl, hg⟩
    obtain ⟨base, l, g⟩ := k
    cases hl
    cases hg
    rfl

end Kind

end TaintFlow
