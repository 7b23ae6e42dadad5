import TaintFlow.Rule.Basic

/-!
# Which rules can fire

Given the sources, sinks and transforms that models use, a rule is covered when they hold something
of each set that the rule needs.  The cover names what they hold.
-/

namespace TaintFlow

/-- A set of transforms. -/
abbrev TransformSet := SortedSet Transform

/-- The used kinds and transforms of a rule. -/
structure Cover where
  sources : KindSet
  sinks : KindSet
  transforms : TransformSet
  deriving DecidableEq

/-- The common elements of two sets, of which there must be one. -/
def SortedSet.common? {α : Type} [Ord α] (s t : SortedSet α) : Option (SortedSet α) :=
  let both := s.inter t
  if both.isEmpty then none else some both

namespace SourceSinkPattern

/-- The transforms of a pattern that are used.  A pattern without transforms needs none. -/
def usedTransforms? (p : SourceSinkPattern) (transforms : TransformSet) : Option TransformSet :=
  if p.transforms.isEmpty then some .empty
  else (SortedSet.ofList p.transforms).common? transforms

def cover? (p : SourceSinkPattern) (sources sinks : KindSet) (transforms : TransformSet) :
    Option Cover := do
  let usedSources ← p.sources.common? sources
  let usedSinks ← p.sinks.common? sinks
  let usedTransforms ← p.usedTransforms? transforms
  return ⟨usedSources, usedSinks, usedTransforms⟩

end SourceSinkPattern

namespace MultiSourcePattern

/-- The used kinds of every label, where each label needs one. -/
def usedByLabel? (byLabel : List KindSet) (used : KindSet) : Option KindSet :=
  byLabel.foldlM (fun found kinds => return found.union (← kinds.common? used)) .empty

/-- The labels of the partial sinks. -/
def sinkLabels (p : MultiSourcePattern) : SortedSet String :=
  .ofList (p.partialSinks.toList.map PartialSink.label)

def cover? (p : MultiSourcePattern) (sources sinks : KindSet) : Option Cover := do
  let usedSources ← usedByLabel? p.sources.values sources
  let usedSinks ←
    usedByLabel? (p.sinkLabels.toList.map fun label => (p.partialSinksFor label).asKinds) sinks
  return ⟨usedSources, usedSinks, .empty⟩

end MultiSourcePattern

def ExploitabilityPattern.cover? (p : ExploitabilityPattern) (sources sinks : KindSet) :
    Option Cover := do
  let usedEffectSources ← p.effectSources.common? sources
  let usedSources ← p.sources.common? sources
  let usedSinks ← p.sinks.common? sinks
  return ⟨usedSources.union usedEffectSources, usedSinks, .empty⟩

/-- What of a rule is used, if all that it needs is. -/
def Rule.cover? (r : Rule) (sources sinks : KindSet) (transforms : TransformSet) : Option Cover :=
  match r.pattern with
  | .sourceSink p => p.cover? sources sinks transforms
  | .multiSource p => p.cover? sources sinks
  | .exploitability p => p.cover? sources sinks

/-- The cover of the rule with code `code`. -/
def Cover.toJson (code : Int64) (c : Cover) : Json :=
  let texts (kinds : KindSet) : Json := .array (kinds.toList.map fun k => .string k.toText)
  .object [
    ("cases", .object ([("sinks", texts c.sinks), ("sources", texts c.sources)] ++
      if c.transforms.isEmpty then []
      else [("transforms", Transform.listToJson c.transforms.toList)])),
    ("code", .integer code.toInt)]

end TaintFlow
