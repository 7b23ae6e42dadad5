import TaintFlow.Kind.Order
import TaintFlow.Kind.Text
import TaintFlow.Order.SortedMap
import TaintFlow.Order.SortedSet

/-!
# Rules

A rule says which flows of taint are reported.  Its pattern has one of three shapes.  A source-sink
pattern is fulfilled when one of its sources reaches one of its sinks through its transforms.  A
multi-source pattern has two labels, and needs a source of either label at a partial sink of that
label.  An exploitability pattern needs a source at a sink, and then an effect source at that sink
with the source recorded on it.

No set of kinds in a pattern is empty.  The `make` functions refuse a pattern that has one.
-/

namespace TaintFlow

/-- A set of kinds. -/
abbrev KindSet := SortedSet Kind

/-- One of `sources` reaches one of `sinks` through `transforms`. -/
structure SourceSinkPattern where
  sources : KindSet
  sinks : KindSet
  /-- The transforms on the way.  Empty if the rule asks for none. -/
  transforms : List Transform
  has_sources : sources.isEmpty = false
  has_sinks : sinks.isEmpty = false
  deriving DecidableEq

/-- Sources of two labels reach the partial sinks of their labels. -/
structure MultiSourcePattern where
  sources : SortedMap String KindSet
  partialSinks : SortedSet PartialSink
  two_labels : sources.size = 2
  has_sources : ∀ kinds ∈ sources.values, kinds.isEmpty = false
  has_sinks : partialSinks.isEmpty = false
  deriving DecidableEq

/-- One of `sources` reaches one of `sinks`, which one of `effectSources` reaches then. -/
structure ExploitabilityPattern where
  effectSources : KindSet
  sources : KindSet
  sinks : KindSet
  has_effectSources : effectSources.isEmpty = false
  has_sources : sources.isEmpty = false
  has_sinks : sinks.isEmpty = false
  deriving DecidableEq

/-- What a rule looks for. -/
inductive Pattern where
  | sourceSink (pattern : SourceSinkPattern)
  | multiSource (pattern : MultiSourcePattern)
  | exploitability (pattern : ExploitabilityPattern)
  deriving DecidableEq

/-- A rule.  Its code identifies it. -/
structure Rule where
  name : String
  code : Int64
  description : String
  pattern : Pattern
  deriving DecidableEq

/-- The pattern of the rule with code `code`, unless it has no sources or no sinks. -/
def SourceSinkPattern.make (code : Int64) (sources sinks : KindSet) (transforms : List Transform) :
    Checked SourceSinkPattern :=
  if hsources : sources.isEmpty = true then
    .error (.contract (.ruleWithoutSources code.toInt))
  else if hsinks : sinks.isEmpty = true then
    .error (.contract (.ruleWithoutSinks code.toInt))
  else .ok ⟨sources, sinks, transforms, by simpa using hsources, by simpa using hsinks⟩

namespace MultiSourcePattern

/-- The partial sinks among kinds. -/
def partialSinksOf (sinks : KindSet) : SortedSet PartialSink :=
  .ofList (sinks.toList.filterMap Kind.partialSink?)

theorem isEmpty_partialSinksOf {sinks : KindSet} (some : sinks.isEmpty = false)
    (allPartial : ∀ k ∈ sinks.toList, k.isPartial = true) :
    (partialSinksOf sinks).isEmpty = false := by
  rw [Bool.eq_false_iff, ne_eq, SortedSet.isEmpty_iff] at some ⊢
  intro none
  refine some fun k hk => ?_
  have hpartial := allPartial k hk
  obtain ⟨sink, hsink⟩ : ∃ sink, k.partialSink? = Option.some sink := by
    simp only [Kind.isPartial, Bool.and_eq_true, Bool.not_eq_true'] at hpartial
    obtain ⟨plain, hbase⟩ := hpartial
    cases hb : k.base <;> simp [BaseKind.isPartial, hb] at hbase
    simp [Kind.partialSink?, plain, hb]
  exact none sink (by simpa [partialSinksOf] using ⟨k, hk, hsink⟩)

/-- The pattern of the rule with code `code`, unless it has not exactly two labels, a label without
sources, no sinks, or a sink that is not partial. -/
def make (code : Int64) (sources : SortedMap String KindSet) (sinks : KindSet) :
    Checked MultiSourcePattern :=
  if hlabels : sources.size = 2 then
    if hsources : ∀ kinds ∈ sources.values, kinds.isEmpty = false then
      if hsinks : sinks.isEmpty = true then .error (.contract .ruleWithoutPartialSinks)
      else if hpartial : ∀ k ∈ sinks.toList, k.isPartial = true then
        .ok ⟨sources, partialSinksOf sinks, hlabels, hsources,
          isEmpty_partialSinksOf (by simpa using hsinks) hpartial⟩
      else .error (.contract .completeSinkAsPartial)
    else .error (.contract .labelWithoutSources)
  else .error (.contract (.ruleLabels code.toInt))

/-- The partial sinks of a label. -/
def partialSinksFor (p : MultiSourcePattern) (label : String) : SortedSet PartialSink :=
  p.partialSinks.filter fun sink => sink.label = label

/-- The sources of either label. -/
def allSources (p : MultiSourcePattern) : KindSet :=
  .ofList (p.sources.values.flatMap SortedSet.toList)

end MultiSourcePattern

/-- The pattern of the rule with code `code`, unless it has no effect sources, no sources or no
sinks. -/
def ExploitabilityPattern.make (code : Int64) (effectSources sources sinks : KindSet) :
    Checked ExploitabilityPattern :=
  if heffect : effectSources.isEmpty = true then
    .error (.contract (.ruleWithoutEffectSources code.toInt))
  else if hsources : sources.isEmpty = true then
    .error (.contract (.ruleWithoutSources code.toInt))
  else if hsinks : sinks.isEmpty = true then
    .error (.contract (.ruleWithoutSinks code.toInt))
  else
    .ok ⟨effectSources, sources, sinks, by simpa using heffect, by simpa using hsources,
      by simpa using hsinks⟩

/-- Partial sinks as kinds. -/
def SortedSet.asKinds (sinks : SortedSet PartialSink) : KindSet :=
  .ofList (sinks.toList.map Kind.ofPartial)

namespace Rule

/-- The sources of a rule, effect sources included. -/
def sourceKinds (r : Rule) : KindSet :=
  match r.pattern with
  | .sourceSink p => p.sources
  | .multiSource p => p.allSources
  | .exploitability p => p.sources.union p.effectSources

/-- The sinks of a rule. -/
def sinkKinds (r : Rule) : KindSet :=
  match r.pattern with
  | .sourceSink p => p.sinks
  | .multiSource p => p.partialSinks.asKinds
  | .exploitability p => p.sinks

/-- The transforms that a rule asks for. -/
def transforms (r : Rule) : List Transform :=
  match r.pattern with
  | .sourceSink p => p.transforms
  | _ => []

/-- Does a rule name a kind?  Transforms are looked through, except in multi-source rules. -/
def uses (r : Rule) (k : Kind) : Bool :=
  match r.pattern with
  | .sourceSink p => p.sources.contains k.plain || p.sinks.contains k.plain
  | .multiSource p =>
      p.sources.values.any (·.contains k) || p.partialSinks.asKinds.contains k
  | .exploitability p =>
      p.effectSources.contains k.plain || p.sources.contains k.plain || p.sinks.contains k.plain

def toText (r : Rule) : String :=
  "Rule(name=" ++ r.name ++ ", code=" ++ toString r.code.toInt ++ ")"

end Rule

end TaintFlow
