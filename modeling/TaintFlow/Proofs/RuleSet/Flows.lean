import Mathlib.Data.List.Nodup
import TaintFlow.Proofs.Rule.PlainKinds
import TaintFlow.Proofs.RuleSet.Kept

/-!
# The flows of a rule

A rule set lists a rule under flows that it computes from the pattern of the rule.  Here it is said
without flows when a rule answers for a source and a sink: `Rule.FiresOn`, `Rule.HalfFiresOn`,
`Rule.ExploitableOn` and `Rule.CompletedOn`.

For each of the four questions one statement says that the flow which the rule set looks up is one
of the rule exactly when the rule answers, and `Rule.HasPlainKinds.nodup_flows` says that no flow of
a rule is repeated.  The kinds of the rule have to be plain for that.
-/

namespace TaintFlow

/-! ## When a rule answers -/

/-- The sources of a label. -/
def MultiSourcePattern.sourcesFor (p : MultiSourcePattern) (label : String) : KindSet :=
  (p.sources.get? label).getD .empty

namespace Rule

/-- `source` fulfils the rule by reaching `sink`.  The transforms of a source-sink rule are those of
the source, from the last to the first, and then those of the sink. -/
def FiresOn (r : Rule) (source sink : Kind) : Prop :=
  match r.pattern with
  | .sourceSink p =>
      source.plain ∈ p.sources ∧ sink.plain ∈ p.sinks ∧
        source.transforms.reverse ++ sink.transforms = p.transforms
  | .multiSource p =>
      source.transforms = [] ∧ sink.transforms = [] ∧
        ∃ k ∈ p.partialSinks, sink = .ofBase (.triggeredSink k r.code) ∧
          source ∈ p.sourcesFor k.label
  | .exploitability _ => False

/-- `source` fulfils one half of a multi-source rule by reaching the partial sink `sink`. -/
def HalfFiresOn (r : Rule) (source : Kind) (sink : PartialSink) : Prop :=
  match r.pattern with
  | .multiSource p => source ∈ p.sourcesFor sink.label ∧ sink ∈ p.partialSinks
  | _ => False

/-- An exploitability rule has `source` and `sink`. -/
def ExploitableOn (r : Rule) (source sink : Kind) : Prop :=
  match r.pattern with
  | .exploitability p => source ∈ p.sources ∧ sink ∈ p.sinks
  | _ => False

/-- `effectSource` completes an exploitability rule by reaching a sink on which exactly one source
of the rule is recorded, and nothing else. -/
def CompletedOn (r : Rule) (effectSource sink : Kind) : Prop :=
  match r.pattern with
  | .exploitability p =>
      effectSource ∈ p.effectSources ∧ sink.plain ∈ p.sinks ∧
        ∃ source ∈ p.sources, sink.transforms = [.ofKind source]
  | _ => False

instance (r : Rule) (source sink : Kind) : Decidable (r.FiresOn source sink) := by
  unfold FiresOn
  split <;> infer_instance

instance (r : Rule) (source : Kind) (sink : PartialSink) :
    Decidable (r.HalfFiresOn source sink) := by
  unfold HalfFiresOn
  split <;> infer_instance

instance (r : Rule) (source sink : Kind) : Decidable (r.ExploitableOn source sink) := by
  unfold ExploitableOn
  split <;> infer_instance

instance (r : Rule) (source sink : Kind) : Decidable (r.CompletedOn source sink) := by
  unfold CompletedOn
  split <;> infer_instance

end Rule

/-! ## Flows that are looked up -/

/-- A flow to a plain sink is looked up for its own source and sink alone, and only when neither
carries a transform. -/
theorem Flow.eq_whole_iff {x k source sink : Kind} (plain : k.isTransformed = false) :
    (⟨x, k⟩ : Flow) = ⟨source.plain, Flow.wholeSink ⟨source, sink⟩⟩ ↔
      source.transforms = [] ∧ sink.transforms = [] ∧ x = source ∧ k = sink := by
  constructor
  · intro h
    obtain ⟨hx, hk⟩ := Flow.mk.inj h
    have hlocal := (Kind.isTransformed_eq_false_iff.1 plain).1
    rw [hk] at hlocal
    obtain ⟨hreverse, hsink⟩ := List.append_eq_nil_iff.1 hlocal
    have hsource : source.transforms = [] := List.reverse_eq_nil_iff.1 hreverse
    refine ⟨hsource, hsink, ?_, ?_⟩
    · rw [hx]
      exact Kind.plain_eq_self_iff.2 (Kind.transforms_eq_nil_iff.1 hsource)
    · rw [hk, Flow.wholeSink, hsource, hsink]
      exact Kind.plain_eq_self_iff.2 (Kind.transforms_eq_nil_iff.1 hsink)
  · rintro ⟨hsource, hsink, rfl, rfl⟩
    rw [Flow.wholeSink, hsource, hsink,
      Kind.plain_eq_self_iff.2 (Kind.transforms_eq_nil_iff.1 hsource)]
    exact congrArg _ (Kind.plain_eq_self_iff.2 plain).symm

theorem Transform.ofKind_injective {k k' : Kind} (h : ofKind k = ofKind k') : k = k' :=
  Option.some.inj (congrArg source? h)

/-! ## The pairs of a multi-source pattern -/

namespace MultiSourcePattern

variable {p : MultiSourcePattern}

theorem mem_sourcesFor_iff {label : String} {k : Kind} :
    k ∈ p.sourcesFor label ↔ ∃ kinds, (label, kinds) ∈ p.sources.entries ∧ k ∈ kinds := by
  simp only [← SortedMap.get?_eq_some_iff, sourcesFor]
  cases p.sources.get? label <;> simp

theorem mem_partialSinksFor_iff {label : String} {k : PartialSink} :
    k ∈ p.partialSinksFor label ↔ k ∈ p.partialSinks ∧ k.label = label := by
  simp [partialSinksFor]

/-- The sources of the labels are those of the rule. -/
theorem mem_allSources_of_mem_sourcesFor {label : String} {k : Kind} (h : k ∈ p.sourcesFor label) :
    k ∈ p.allSources := by
  obtain ⟨kinds, he, hk⟩ := mem_sourcesFor_iff.1 h
  rw [allSources, SortedSet.mem_ofList, List.mem_flatMap]
  exact ⟨kinds, List.mem_map.2 ⟨_, he, rfl⟩, hk⟩

/-- Each source with each partial sink of its label. -/
def pairs (p : MultiSourcePattern) : List (Kind × PartialSink) :=
  p.sources.entries.flatMap fun e => e.2.toList ×ˢ (p.partialSinksFor e.1).toList

theorem mem_pairs_iff {x : Kind × PartialSink} :
    x ∈ p.pairs ↔ x.1 ∈ p.sourcesFor x.2.label ∧ x.2 ∈ p.partialSinks := by
  obtain ⟨source, sink⟩ := x
  rw [pairs, List.mem_flatMap, mem_sourcesFor_iff]
  constructor
  · intro paired
    obtain ⟨⟨label, kinds⟩, he, hx⟩ := paired
    obtain ⟨hsource, hsink⟩ := List.pair_mem_product.1 hx
    obtain ⟨hmem, hlabel⟩ := mem_partialSinksFor_iff.1 hsink
    exact ⟨⟨kinds, hlabel ▸ he, hsource⟩, hmem⟩
  · intro listed
    obtain ⟨⟨kinds, he, hsource⟩, hsink⟩ := listed
    refine ⟨(sink.label, kinds), he, List.pair_mem_product.2 ⟨hsource, ?_⟩⟩
    exact mem_partialSinksFor_iff.2 ⟨hsink, rfl⟩

/-- A pair is not repeated, since a partial sink belongs to one label only. -/
theorem nodup_pairs (p : MultiSourcePattern) : p.pairs.Nodup := by
  rw [pairs, List.nodup_flatMap]
  constructor
  · intro e _
    exact e.2.nodup_toList.product (p.partialSinksFor e.1).nodup_toList
  · refine (List.pairwise_map.1 p.sources.nodup_keys).imp fun {e e'} different => ?_
    rintro ⟨source, sink⟩ h h'
    have hlabel := (mem_partialSinksFor_iff.1 (List.pair_mem_product.1 h).2).2
    have hlabel' := (mem_partialSinksFor_iff.1 (List.pair_mem_product.1 h').2).2
    exact different (hlabel.symm.trans hlabel')

end MultiSourcePattern

/-! ## Flows as images of pairs -/

namespace Rule

variable {r : Rule}

theorem HasPlainKinds.sourcesFor_multiSource (plain : r.HasPlainKinds) {p : MultiSourcePattern}
    (h : r.pattern = .multiSource p) (label : String) :
    ∀ k ∈ p.sourcesFor label, k.isTransformed = false := by
  intro k hk
  have hall := MultiSourcePattern.mem_allSources_of_mem_sourcesFor hk
  exact plain.sources k (by simpa [sourceKinds, h] using hall)

theorem fulfillingFlows_sourceSink {p : SourceSinkPattern} (h : r.pattern = .sourceSink p) :
    r.fulfillingFlows = (p.sources.toList ×ˢ p.sinks.toList).map fun x =>
      ⟨x.1, x.2.withTransforms p.transforms []⟩ := by
  simp [fulfillingFlows, h, SProd.sprod, List.product, List.map_flatMap, Function.comp_def]

theorem fulfillingFlows_multiSource {p : MultiSourcePattern} (h : r.pattern = .multiSource p) :
    r.fulfillingFlows = p.pairs.map fun x => ⟨x.1, .ofBase (.triggeredSink x.2 r.code)⟩ := by
  simp [fulfillingFlows, h, MultiSourcePattern.pairs, SProd.sprod, List.product, List.map_flatMap,
    Function.comp_def]

theorem halfFulfillingFlows_multiSource {p : MultiSourcePattern} (h : r.pattern = .multiSource p) :
    r.halfFulfillingFlows = p.pairs.map fun x => ⟨x.1, .ofPartial x.2⟩ := by
  simp [halfFulfillingFlows, h, MultiSourcePattern.pairs, SProd.sprod, List.product,
    List.map_flatMap, Function.comp_def]

theorem exploitableFlows_exploitability {p : ExploitabilityPattern}
    (h : r.pattern = .exploitability p) :
    r.exploitableFlows = (p.sources.toList ×ˢ p.sinks.toList).map fun x => ⟨x.1, x.2⟩ := by
  simp [exploitableFlows, h, SProd.sprod, List.product, List.map_flatMap, Function.comp_def]

theorem completingFlows_exploitability {p : ExploitabilityPattern}
    (h : r.pattern = .exploitability p) :
    r.completingFlows =
      ((p.sources.toList ×ˢ p.sinks.toList) ×ˢ p.effectSources.toList).map fun x =>
        ⟨x.2, x.1.2.withTransforms [.ofKind x.1.1] []⟩ := by
  simp [completingFlows, h, SProd.sprod, List.product, List.map_flatMap, List.flatMap_assoc,
    List.flatMap_map, Function.comp_def]

/-! ## Which flows are looked up -/

/-- The flow that is looked up for `source` and `sink` is one that fulfils a rule. -/
theorem mem_fulfillingFlows_iff (plain : r.HasPlainKinds) {source sink : Kind} :
    ⟨source.plain, Flow.wholeSink ⟨source, sink⟩⟩ ∈ r.fulfillingFlows ↔ r.FiresOn source sink := by
  cases h : r.pattern with
  | sourceSink p =>
      have sinks := plain.sinks_sourceSink h
      rw [fulfillingFlows_sourceSink h, List.mem_map]
      simp only [FiresOn, h]
      constructor
      · intro listed
        obtain ⟨⟨x, y⟩, hxy, hflow⟩ := listed
        injection hflow with hsource hsink
        obtain ⟨hx, hy⟩ := List.pair_mem_product.1 hxy
        obtain ⟨hbase, htransforms⟩ := (Kind.withTransforms_eq_iff (sinks y hy)).1 hsink.symm
        exact ⟨hsource ▸ hx, hbase ▸ hy, htransforms⟩
      · intro fires
        obtain ⟨hsource, hsink, htransforms⟩ := fires
        refine ⟨(source.plain, sink.plain), List.pair_mem_product.2 ⟨hsource, hsink⟩, ?_⟩
        rw [Flow.wholeSink, htransforms]
        rfl
  | multiSource p =>
      rw [fulfillingFlows_multiSource h, List.mem_map]
      simp only [FiresOn, h]
      constructor
      · intro listed
        obtain ⟨⟨x, k⟩, hxk, hflow⟩ := listed
        obtain ⟨hnone, hnone', rfl, rfl⟩ := (Flow.eq_whole_iff rfl).1 hflow
        obtain ⟨hx, hk⟩ := MultiSourcePattern.mem_pairs_iff.1 hxk
        exact ⟨hnone, hnone', k, hk, rfl, hx⟩
      · intro fires
        obtain ⟨hnone, hnone', k, hk, rfl, hsource⟩ := fires
        refine ⟨(source, k), MultiSourcePattern.mem_pairs_iff.2 ⟨hsource, hk⟩, ?_⟩
        exact (Flow.eq_whole_iff rfl).2 ⟨hnone, hnone', rfl, rfl⟩
  | exploitability p =>
      simp [fulfillingFlows, FiresOn, h]

theorem mem_halfFulfillingFlows_iff {source : Kind} {sink : PartialSink} :
    ⟨source, .ofPartial sink⟩ ∈ r.halfFulfillingFlows ↔ r.HalfFiresOn source sink := by
  cases h : r.pattern with
  | multiSource p =>
      rw [halfFulfillingFlows_multiSource h, List.mem_map]
      simp only [HalfFiresOn, h]
      constructor
      · intro listed
        obtain ⟨⟨x, k⟩, hxk, hflow⟩ := listed
        injection hflow with hsource hsink
        injection hsink with hbase
        injection hbase with hk
        subst hsource
        subst hk
        exact MultiSourcePattern.mem_pairs_iff.1 hxk
      · intro hpair
        exact ⟨(source, sink), MultiSourcePattern.mem_pairs_iff.2 hpair, rfl⟩
  | sourceSink p => simp [halfFulfillingFlows, HalfFiresOn, h]
  | exploitability p => simp [halfFulfillingFlows, HalfFiresOn, h]

theorem mem_exploitableFlows_iff (plain : r.HasPlainKinds) {source sink : Kind} :
    ⟨source.plain, Flow.wholeSink ⟨source, sink⟩⟩ ∈ r.exploitableFlows ↔
      r.ExploitableOn source sink := by
  cases h : r.pattern with
  | exploitability p =>
      have sources := plain.sources_exploitability h
      have sinks := plain.sinks_exploitability h
      rw [exploitableFlows_exploitability h, List.mem_map]
      simp only [ExploitableOn, h]
      constructor
      · intro listed
        obtain ⟨⟨x, y⟩, hxy, hflow⟩ := listed
        obtain ⟨hx, hy⟩ := List.pair_mem_product.1 hxy
        obtain ⟨_, _, rfl, rfl⟩ := (Flow.eq_whole_iff (sinks y hy)).1 hflow
        exact ⟨hx, hy⟩
      · intro answers
        obtain ⟨hsource, hsink⟩ := answers
        refine ⟨(source, sink), List.pair_mem_product.2 ⟨hsource, hsink⟩, ?_⟩
        refine (Flow.eq_whole_iff (sinks sink hsink)).2 ⟨?_, ?_, rfl, rfl⟩
        · exact Kind.transforms_eq_nil_iff.2 (sources source hsource)
        · exact Kind.transforms_eq_nil_iff.2 (sinks sink hsink)
  | sourceSink p => simp [exploitableFlows, ExploitableOn, h]
  | multiSource p => simp [exploitableFlows, ExploitableOn, h]

/-- The flow that is looked up for an effect source without transforms and `sink` is one that
completes a rule. -/
theorem mem_completingFlows_iff (plain : r.HasPlainKinds) {effectSource sink : Kind}
    (hsource : effectSource.transforms = []) :
    ⟨effectSource, Flow.wholeSink ⟨effectSource, sink⟩⟩ ∈ r.completingFlows ↔
      r.CompletedOn effectSource sink := by
  cases h : r.pattern with
  | exploitability p =>
      have sinks := plain.sinks_exploitability h
      have whole : Flow.wholeSink ⟨effectSource, sink⟩ =
          sink.withTransforms sink.transforms [] := by
        rw [Flow.wholeSink, hsource]
        rfl
      rw [completingFlows_exploitability h, List.mem_map, whole]
      simp only [CompletedOn, h]
      constructor
      · intro listed
        obtain ⟨⟨⟨x, y⟩, e⟩, hxye, hflow⟩ := listed
        obtain ⟨hxy, he⟩ := List.pair_mem_product.1 hxye
        obtain ⟨hx, hy⟩ := List.pair_mem_product.1 hxy
        obtain ⟨rfl, hsink⟩ := Flow.mk.inj hflow
        obtain ⟨rfl, htransforms⟩ := (Kind.withTransforms_eq_iff (sinks y hy)).1 hsink.symm
        exact ⟨he, hy, x, hx, htransforms⟩
      · intro completes
        obtain ⟨he, hy, x, hx, htransforms⟩ := completes
        refine ⟨((x, sink.plain), effectSource), ?_, ?_⟩
        · exact List.pair_mem_product.2 ⟨List.pair_mem_product.2 ⟨hx, hy⟩, he⟩
        · rw [htransforms]
          rfl
  | sourceSink p => simp [completingFlows, CompletedOn, h]
  | multiSource p => simp [completingFlows, CompletedOn, h]

/-! ## No flow is repeated -/

theorem nodup_fulfillingFlows (plain : r.HasPlainKinds) : r.fulfillingFlows.Nodup := by
  cases h : r.pattern with
  | sourceSink p =>
      have sinks := plain.sinks_sourceSink h
      rw [fulfillingFlows_sourceSink h]
      refine (p.sources.nodup_toList.product p.sinks.nodup_toList).map_on ?_
      rintro ⟨x, y⟩ hxy ⟨x', y'⟩ hxy' same
      have hy := sinks y (List.pair_mem_product.1 hxy).2
      have hy' := sinks y' (List.pair_mem_product.1 hxy').2
      obtain ⟨rfl, hsink⟩ := Flow.mk.inj same
      obtain ⟨rfl, _⟩ := (Kind.withTransforms_eq_iff hy').1 hsink
      rw [Kind.plain_eq_self_iff.2 hy]
  | multiSource p =>
      rw [fulfillingFlows_multiSource h]
      refine p.nodup_pairs.map ?_
      rintro ⟨x, k⟩ ⟨x', k'⟩ same
      simpa [Kind.ofBase] using same
  | exploitability p =>
      simp [fulfillingFlows, h]

theorem nodup_halfFulfillingFlows : r.halfFulfillingFlows.Nodup := by
  cases h : r.pattern with
  | multiSource p =>
      rw [halfFulfillingFlows_multiSource h]
      refine p.nodup_pairs.map ?_
      rintro ⟨x, k⟩ ⟨x', k'⟩ same
      simpa [Kind.ofPartial, Kind.ofBase] using same
  | sourceSink p => simp [halfFulfillingFlows, h]
  | exploitability p => simp [halfFulfillingFlows, h]

theorem nodup_exploitableFlows : r.exploitableFlows.Nodup := by
  cases h : r.pattern with
  | exploitability p =>
      rw [exploitableFlows_exploitability h]
      refine (p.sources.nodup_toList.product p.sinks.nodup_toList).map ?_
      rintro ⟨x, y⟩ ⟨x', y'⟩ same
      simpa using same
  | sourceSink p => simp [exploitableFlows, h]
  | multiSource p => simp [exploitableFlows, h]

theorem nodup_completingFlows (plain : r.HasPlainKinds) : r.completingFlows.Nodup := by
  cases h : r.pattern with
  | exploitability p =>
      have sinks := plain.sinks_exploitability h
      have pairs := p.sources.nodup_toList.product p.sinks.nodup_toList
      rw [completingFlows_exploitability h]
      refine (pairs.product p.effectSources.nodup_toList).map_on ?_
      rintro ⟨⟨x, y⟩, e⟩ hxye ⟨⟨x', y'⟩, e'⟩ hxye' same
      have hy := sinks y (List.pair_mem_product.1 (List.pair_mem_product.1 hxye).1).2
      have hy' := sinks y' (List.pair_mem_product.1 (List.pair_mem_product.1 hxye').1).2
      obtain ⟨rfl, hsink⟩ := Flow.mk.inj same
      obtain ⟨rfl, hsource⟩ := (Kind.withTransforms_eq_iff hy').1 hsink
      obtain rfl : x = x' := Transform.ofKind_injective (List.cons.inj hsource).1
      rw [Kind.plain_eq_self_iff.2 hy]
  | sourceSink p => simp [completingFlows, h]
  | multiSource p => simp [completingFlows, h]

theorem HasPlainKinds.nodup_flows (plain : r.HasPlainKinds) (q : Question) : (q.flows r).Nodup := by
  cases q with
  | fulfilled => exact nodup_fulfillingFlows plain
  | halfFulfilled => exact nodup_halfFulfillingFlows
  | exploitable => exact nodup_exploitableFlows
  | completed => exact nodup_completingFlows plain

end Rule

end TaintFlow
