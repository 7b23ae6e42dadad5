import TaintFlow.Event
import TaintFlow.Rule.Json
import TaintFlow.RuleSet.Index

/-!
# Sets of rules

A rule set holds at most one rule of each code and finds the rules that a flow concerns.  Four
indexes answer four questions: which rules a flow fulfils, which multi-source rules it fulfils by
half, which exploitability rules it fulfils up to their effect source, and which of them an effect
source completes.
-/

namespace TaintFlow

namespace Rule

/-- The flows that fulfil a rule.  A multi-source rule is fulfilled at the triggered form of its
sinks. -/
def fulfillingFlows (r : Rule) : List Flow :=
  match r.pattern with
  | .sourceSink p =>
      p.sources.toList.flatMap fun source =>
        p.sinks.toList.map fun sink => ⟨source, sink.withTransforms p.transforms []⟩
  | .multiSource p =>
      p.sources.entries.flatMap fun e =>
        e.2.toList.flatMap fun source =>
          (p.partialSinksFor e.1).toList.map fun sink =>
            ⟨source, .ofBase (.triggeredSink sink r.code)⟩
  | .exploitability _ => []

/-- The flows that fulfil one half of a multi-source rule. -/
def halfFulfillingFlows (r : Rule) : List Flow :=
  match r.pattern with
  | .multiSource p =>
      p.sources.entries.flatMap fun e =>
        e.2.toList.flatMap fun source =>
          (p.partialSinksFor e.1).toList.map fun sink => ⟨source, .ofPartial sink⟩
  | _ => []

/-- The flows after which an exploitability rule only lacks its effect source. -/
def exploitableFlows (r : Rule) : List Flow :=
  match r.pattern with
  | .exploitability p =>
      p.sources.toList.flatMap fun source => p.sinks.toList.map fun sink => ⟨source, sink⟩
  | _ => []

/-- The flows from an effect source that complete an exploitability rule.  The sink carries the
source that reached it. -/
def completingFlows (r : Rule) : List Flow :=
  match r.pattern with
  | .exploitability p =>
      p.sources.toList.flatMap fun source =>
        p.sinks.toList.flatMap fun sink =>
          p.effectSources.toList.map fun effectSource =>
            ⟨effectSource, sink.withTransforms [.ofKind source] []⟩
  | _ => []

end Rule

/-- Rules by code, with their indexes. -/
structure RuleSet where
  byCode : SortedMap Int64 Rule
  fulfilled : RuleIndex
  halfFulfilled : RuleIndex
  exploitable : RuleIndex
  completed : RuleIndex

namespace RuleSet

/-- No rules. -/
def empty : RuleSet := ⟨.empty, .empty, .empty, .empty, .empty⟩

/-- Adds a rule whose code is free. -/
def insert (rules : RuleSet) (r : Rule) : RuleSet where
  byCode := rules.byCode.insert r.code r
  fulfilled := rules.fulfilled.addAll r.fulfillingFlows r
  halfFulfilled := rules.halfFulfilled.addAll r.halfFulfillingFlows r
  exploitable := rules.exploitable.addAll r.exploitableFlows r
  completed := rules.completed.addAll r.completingFlows r

/-- Adds a rule.  If its code is taken it is reported and dropped. -/
def add (rules : RuleSet) (r : Rule) : Logged RuleSet :=
  match rules.byCode.get? r.code with
  | some kept => do
      Logged.report (.duplicateRule r.code.toInt r.toJson.compact kept.toJson.compact)
      return rules
  | none => pure (rules.insert r)

/-- The rules of a list, added in order. -/
def ofList (l : List Rule) : Logged RuleSet := l.foldlM add empty

/-- Reads the rules of an array, where `null` stands for the empty array. -/
def ofJson (v : Json) : Attempt RuleSet := do
  let items ← Attempt.ofChecked v.itemsOrNull
  items.foldlM (fun rules item => do
    let r ← Attempt.ofChecked (Rule.ofJson item)
    Attempt.ofLogged (rules.add r)) empty

/-- The rule with a code. -/
def get? (rules : RuleSet) (code : Int64) : Option Rule := rules.byCode.get? code

/-- The rules in increasing order of code. -/
def toList (rules : RuleSet) : List Rule := rules.byCode.values

def size (rules : RuleSet) : Nat := rules.byCode.size

def isEmpty (rules : RuleSet) : Bool := rules.byCode.isEmpty

/-- The rules that `source` fulfils by reaching `sink`. -/
def rules (rules : RuleSet) (source sink : Kind) : Logged (List Rule) := do
  Logged.report (.searchingRules source.toText sink.toText)
  let whole := Flow.wholeSink ⟨source, sink⟩
  let found := rules.fulfilled.lookup ⟨source.plain, whole⟩
  if !found.isEmpty then
    Logged.report (.foundRules source.plain.toText whole.toText)
  return found

/-- The multi-source rules of which `source` fulfils one half by reaching `sink`. -/
def partialRules (rules : RuleSet) (source sink : Kind) : List Rule :=
  rules.halfFulfilled.lookup ⟨source, sink⟩

/-- The exploitability rules that only lack their effect source once `source` reaches `sink`. -/
def partiallyFulfilledRules (rules : RuleSet) (source sink : Kind) : Logged (List Rule) := do
  Logged.report (.searchingPartiallyFulfilled source.toText sink.toText)
  return rules.exploitable.lookup ⟨source.plain, Flow.wholeSink ⟨source, sink⟩⟩

/-- The exploitability rules that `effectSource` completes by reaching `sink`.  The effect source
must be a named kind, and the sink must carry the source that reached it. -/
def completedRules (rules : RuleSet) (effectSource sink : Kind) : Attempt (List Rule) := do
  Attempt.report (.searchingFulfilled effectSource.toText sink.toText)
  if !effectSource.isNamed then
    throw (.contract (.unnamedEffectSource effectSource.toText))
  let whole := Flow.wholeSink ⟨effectSource, sink⟩
  if !whole.hasSource then
    throw (.contract (.sinkWithoutSource whole.toText))
  return rules.completed.lookup ⟨effectSource, whole⟩

/-- Is a kind named by no rule?  Triggered sinks are made by the analysis and never unused. -/
def isUnused (rules : RuleSet) (k : Kind) : Bool :=
  !k.isTriggered && rules.toList.all fun r => !r.uses k

/-- The kinds of a list that no rule uses.  Each of them is reported, repetitions included. -/
def unusedKinds (rules : RuleSet) (kinds : List Kind) : Logged KindSet :=
  kinds.foldlM (fun unused k =>
    if rules.isUnused k then do
      Logged.report (.unusedKind k.toText)
      return unused.insert k
    else pure unused) .empty

end RuleSet

end TaintFlow
