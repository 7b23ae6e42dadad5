import TaintFlow.Proofs.RuleSet.Flows

/-!
# What a rule set finds

The four look-ups of a rule set that was built from a list of rules of plain kinds.  Each finds the
kept rules that answer, in the order in which they were added and each of them once.

* `rules_exact`: the rules that a source fulfils at a sink.
* `exploitability_steps`: the two steps of an exploitability rule, and that the second one, at the
  sink which the first one leaves, finds the rules of the first one that have the effect source.
* `triggered_iff_halfFulfilled`: the two halves of a multi-source rule, and that a triggered sink
  fulfils only the rule whose code it has.
-/

namespace TaintFlow

namespace RuleSet

/-! ## From the indexes to the rules -/

/-- An index without repeated flows lists the rules that were given for the flow. -/
theorem Holds.lookup_of_nodup {set : RuleSet} {rules : List Rule} (h : set.Holds rules)
    {q : Question} (nodup : ∀ r ∈ rules, (q.flows r).Nodup) (f : Flow) :
    (q.index set).lookup f = rules.filter fun r => f ∈ q.flows r := by
  rw [h.lookup]
  clear h
  induction rules with
  | nil => rfl
  | cons r rest ih =>
      have ih := ih fun other hother => nodup other (List.mem_cons_of_mem _ hother)
      rw [List.flatMap_cons, ih]
      by_cases hf : f ∈ q.flows r
      · have once := nodup r (List.mem_cons_self ..)
        rw [List.count_eq_one_of_mem once hf, List.filter_cons_of_pos (by simpa using hf)]
        rfl
      · rw [List.count_eq_zero_of_not_mem hf, List.filter_cons_of_neg (by simpa using hf)]
        rfl

/-- The rules under a flow are the kept ones that answer for it. -/
theorem Built.lookup_eq {l : List Rule} {set : RuleSet} (built : Built l set)
    (plain : ∀ r ∈ l, r.HasPlainKinds) {q : Question} {f : Flow} {answers : Rule → Prop}
    [DecidablePred answers] (h : ∀ r, r.HasPlainKinds → (f ∈ q.flows r ↔ answers r)) :
    (q.index set).lookup f = (Rule.kept l).filter fun r => answers r := by
  have keptPlain : ∀ r ∈ Rule.kept l, r.HasPlainKinds := fun r hr =>
    plain r (Rule.mem_of_mem_kept hr)
  rw [built.holds.lookup_of_nodup (fun r hr => (keptPlain r hr).nodup_flows q)]
  refine List.filter_congr fun r hr => ?_
  exact decide_eq_decide.2 (h r (keptPlain r hr))

/-! ## The look-ups -/

theorem value_rules (set : RuleSet) (source sink : Kind) :
    (set.rules source sink).value =
      set.fulfilled.lookup ⟨source.plain, Flow.wholeSink ⟨source, sink⟩⟩ := by
  rw [rules]
  simp only [Logged.value_bind]
  split <;> rfl

theorem Built.rules_eq {l : List Rule} {set : RuleSet} (built : Built l set)
    (plain : ∀ r ∈ l, r.HasPlainKinds) (source sink : Kind) :
    (set.rules source sink).value = (Rule.kept l).filter fun r => r.FiresOn source sink := by
  rw [value_rules]
  exact built.lookup_eq (q := .fulfilled) plain fun r hr => Rule.mem_fulfillingFlows_iff hr

theorem Built.mem_rules_iff {l : List Rule} {set : RuleSet} (built : Built l set)
    (plain : ∀ r ∈ l, r.HasPlainKinds) {r : Rule} {source sink : Kind} :
    r ∈ (set.rules source sink).value ↔ r ∈ Rule.kept l ∧ r.FiresOn source sink := by
  rw [built.rules_eq plain, List.mem_filter, decide_eq_true_iff]

theorem Built.partialRules_eq {l : List Rule} {set : RuleSet} (built : Built l set)
    (plain : ∀ r ∈ l, r.HasPlainKinds) (source : Kind) (sink : PartialSink) :
    set.partialRules source (.ofPartial sink) =
      (Rule.kept l).filter fun r => r.HalfFiresOn source sink :=
  built.lookup_eq (q := .halfFulfilled) plain fun _ _ => Rule.mem_halfFulfillingFlows_iff

theorem Built.mem_partialRules_iff {l : List Rule} {set : RuleSet} (built : Built l set)
    (plain : ∀ r ∈ l, r.HasPlainKinds) {r : Rule} {source : Kind} {sink : PartialSink} :
    r ∈ set.partialRules source (.ofPartial sink) ↔
      r ∈ Rule.kept l ∧ r.HalfFiresOn source sink := by
  rw [built.partialRules_eq plain, List.mem_filter, decide_eq_true_iff]

theorem Built.partiallyFulfilledRules_eq {l : List Rule} {set : RuleSet} (built : Built l set)
    (plain : ∀ r ∈ l, r.HasPlainKinds) (source sink : Kind) :
    (set.partiallyFulfilledRules source sink).value =
      (Rule.kept l).filter fun r => r.ExploitableOn source sink :=
  built.lookup_eq (q := .exploitable) plain fun _ hr => Rule.mem_exploitableFlows_iff hr

theorem hasSource_wholeSink {source sink : Kind} (hsource : source.transforms = []) :
    (Flow.wholeSink ⟨source, sink⟩).hasSource = sink.hasSource := by
  have whole : (Flow.wholeSink ⟨source, sink⟩).transforms = sink.transforms := by
    rw [Flow.wholeSink, hsource]
    exact List.append_nil _
  rw [Kind.hasSource, whole, Kind.hasSource]

theorem transforms_eq_nil_of_isNamed {k : Kind} (h : k.isNamed = true) : k.transforms = [] :=
  Kind.transforms_eq_nil_iff.2 (Kind.isTransformed_of_isNamed h)

/-- The contract of the second step of an exploitability rule. -/
theorem value_completedRules (set : RuleSet) (effectSource sink : Kind) :
    (set.completedRules effectSource sink).value =
      if effectSource.isNamed = false then
        .error (.contract (.unnamedEffectSource effectSource.toText))
      else if sink.hasSource = false then
        .error (.contract (.sinkWithoutSource (Flow.wholeSink ⟨effectSource, sink⟩).toText))
      else .ok (set.completed.lookup ⟨effectSource, Flow.wholeSink ⟨effectSource, sink⟩⟩) := by
  rw [completedRules, Attempt.value_bind, Attempt.value_report, Checked.bind_ok]
  cases named : effectSource.isNamed with
  | false => rfl
  | true =>
      have hsource := transforms_eq_nil_of_isNamed named
      rw [← hasSource_wholeSink hsource]
      cases recorded : (Flow.wholeSink ⟨effectSource, sink⟩).hasSource with
      | false =>
          dsimp only
          rw [recorded]
          rfl
      | true =>
          dsimp only
          rw [recorded]
          rfl

theorem Built.completedRules_eq {l : List Rule} {set : RuleSet} (built : Built l set)
    (plain : ∀ r ∈ l, r.HasPlainKinds) {effectSource sink : Kind}
    (named : effectSource.isNamed = true) (recorded : sink.hasSource = true) :
    (set.completedRules effectSource sink).value =
      .ok ((Rule.kept l).filter fun r => r.CompletedOn effectSource sink) := by
  rw [value_completedRules, named, recorded, if_neg Bool.noConfusion, if_neg Bool.noConfusion]
  refine congrArg _ (built.lookup_eq (q := .completed) plain fun r hr => ?_)
  exact Rule.mem_completingFlows_iff hr (transforms_eq_nil_of_isNamed named)

/-! ## Sample rules

A rule of each shape, and a rule that is dropped because its code is taken. -/

def sampleTransforms : Rule where
  name := "Transforms"
  code := 1
  description := ""
  pattern := .sourceSink
    ⟨.ofList [.named "A"], .ofList [.named "X"], [.named "T", .named "U"], by decide, by decide⟩

def sampleLabels : Rule where
  name := "Labels"
  code := 2
  description := ""
  pattern := .multiSource
    ⟨.ofList [("a", .ofList [.named "A"]), ("b", .ofList [.named "A", .named "B"])],
      .ofList [⟨"P", "a"⟩, ⟨"P", "b"⟩], by decide, by decide, by decide⟩

def sampleEffect : Rule where
  name := "Effect"
  code := 3
  description := ""
  pattern := .exploitability
    ⟨.ofList [.named "E"], .ofList [.named "A"], .ofList [.named "X"], by decide, by decide,
      by decide⟩

def samples : List Rule :=
  [sampleTransforms, sampleLabels, { sampleLabels with code := 1 }, sampleEffect]

theorem samples_plain : ∀ r ∈ samples, r.HasPlainKinds := by decide

/-! ## Rules that a source fulfils -/

/-- The look-up of a source at a sink finds the kept rules that fire on them.  No two of the rules
found have the same code.  Instead of asking that a rule has plain kinds it is enough to know that
it was read. -/
theorem rules_exact {l : List Rule} {set : RuleSet} (built : Built l set)
    (plain : ∀ r ∈ l, r.HasPlainKinds ∨ ∃ v, Rule.ofJson v = .ok r) (source sink : Kind) :
    (set.rules source sink).value = ((Rule.kept l).filter fun r => r.FiresOn source sink) ∧
      (set.rules source sink).value.Pairwise fun r other => r.code ≠ other.code := by
  have plain : ∀ r ∈ l, r.HasPlainKinds := by
    intro r hr
    rcases plain r hr with h | ⟨v, h⟩
    · exact h
    · exact Rule.hasPlainKinds_of_ofJson h
  have found := built.rules_eq plain source sink
  refine ⟨found, ?_⟩
  rw [found]
  exact (Rule.kept_pairwise l).filter _

/-- A rule with two transforms, the first one applied to the source and the second one to the
sink. -/
theorem rules_exact_samples :
    Built samples (ofList samples).value ∧
      (∀ r ∈ samples, r.HasPlainKinds ∨ ∃ v, Rule.ofJson v = .ok r) ∧
      ((ofList samples).value.rules ((Kind.named "A").withTransforms [.named "T"] [])
        ((Kind.named "X").withTransforms [] [.named "U"])).value = [sampleTransforms] := by
  have plain : ∀ r ∈ samples, r.HasPlainKinds ∨ ∃ v, Rule.ofJson v = .ok r := fun r hr =>
    Or.inl (samples_plain r hr)
  refine ⟨.ofList samples, plain, ?_⟩
  rw [(rules_exact (.ofList samples) plain _ _).1]
  decide

/-! ## The two steps of an exploitability rule -/

theorem hasSource_eq_false_iff {k : Kind} :
    k.hasSource = false ↔ ∀ t ∈ k.transforms, t.isSource = false := by
  simp [Kind.hasSource]

theorem hasSource_iff {k : Kind} : k.hasSource = true ↔ ∃ t ∈ k.transforms, t.isSource = true := by
  simp [Kind.hasSource]

/-- The second step at the sink that carries the source of the first step. -/
theorem completedOn_recorded_iff {r : Rule} {effectSource source sink : Kind}
    (plain : sink.isTransformed = false) :
    r.CompletedOn effectSource (sink.withTransforms [.ofKind source] []) ↔
      r.ExploitableOn source sink ∧
        ∃ p, r.pattern = .exploitability p ∧ effectSource ∈ p.effectSources := by
  have hself : (sink.withTransforms [.ofKind source] []).plain = sink :=
    Kind.plain_eq_self_iff.2 plain
  cases h : r.pattern with
  | exploitability p =>
      simp only [Rule.CompletedOn, Rule.ExploitableOn, h, hself]
      constructor
      · intro completes
        obtain ⟨heffect, hsink, x, hx, hrecorded⟩ := completes
        have hrecorded : [Transform.ofKind source] = [Transform.ofKind x] := hrecorded
        obtain rfl : source = x := Transform.ofKind_injective (List.cons.inj hrecorded).1
        exact ⟨⟨hx, hsink⟩, p, rfl, heffect⟩
      · intro answers
        obtain ⟨⟨hsource, hsink⟩, p', hp', heffect⟩ := answers
        cases hp'
        exact ⟨heffect, hsink, source, hsource, rfl⟩
  | sourceSink p => simp [Rule.CompletedOn, Rule.ExploitableOn, h]
  | multiSource p => simp [Rule.CompletedOn, Rule.ExploitableOn, h]

theorem plain_of_exploitableOn {r : Rule} (plain : r.HasPlainKinds) {source sink : Kind}
    (h : r.ExploitableOn source sink) :
    source.isTransformed = false ∧ sink.isTransformed = false := by
  cases hp : r.pattern with
  | exploitability p =>
      simp only [Rule.ExploitableOn, hp] at h
      exact ⟨plain.sources_exploitability hp source h.1, plain.sinks_exploitability hp sink h.2⟩
  | sourceSink p => simp [Rule.ExploitableOn, hp] at h
  | multiSource p => simp [Rule.ExploitableOn, hp] at h

/-- The two steps of an exploitability rule.  Both find kept rules, of which no two have the same
code.  The first one finds the rules that have the source and the sink, and none if one of these
carries a transform.  The second one is refused exactly when the
effect source is not named or no source is recorded on the sink.  Else it finds the rules of which
one source is recorded, alone, on one of their sinks, so at the sink that the first step leaves it
finds those of the first step that have the effect source. -/
theorem exploitability_steps {l : List Rule} {set : RuleSet} (built : Built l set)
    (plain : ∀ r ∈ l, r.HasPlainKinds) :
    ((Rule.kept l).Pairwise fun r other => r.code ≠ other.code) ∧
    (∀ source sink,
      (set.partiallyFulfilledRules source sink).value =
          ((Rule.kept l).filter fun r => r.ExploitableOn source sink) ∧
        (source.isTransformed = true ∨ sink.isTransformed = true →
          (set.partiallyFulfilledRules source sink).value = [])) ∧
    (∀ effectSource sink,
      ((∃ broken, (set.completedRules effectSource sink).value = .error (.contract broken)) ↔
          effectSource.isNamed = false ∨ ∀ t ∈ sink.transforms, t.isSource = false) ∧
        (effectSource.isNamed = true → (∃ t ∈ sink.transforms, t.isSource = true) →
          (set.completedRules effectSource sink).value =
            .ok ((Rule.kept l).filter fun r => r.CompletedOn effectSource sink))) ∧
    (∀ effectSource source sink, effectSource.isNamed = true → sink.isTransformed = false →
      ∃ found,
        (set.completedRules effectSource (sink.withTransforms [.ofKind source] [])).value =
            .ok found ∧
          ∀ r, r ∈ found ↔
            r ∈ (set.partiallyFulfilledRules source sink).value ∧
              ∃ p, r.pattern = .exploitability p ∧ effectSource ∈ p.effectSources) := by
  refine ⟨Rule.kept_pairwise l, ?first, ?second, ?both⟩
  case first =>
    intro source sink
    have found := built.partiallyFulfilledRules_eq plain source sink
    refine ⟨found, fun transformed => ?_⟩
    rw [found, List.filter_eq_nil_iff]
    intro r hr answers
    obtain ⟨hsource, hsink⟩ :=
      plain_of_exploitableOn (plain r (Rule.mem_of_mem_kept hr)) (of_decide_eq_true answers)
    rw [hsource, hsink] at transformed
    simp at transformed
  case second =>
    intro effectSource sink
    constructor
    · rw [value_completedRules, ← hasSource_eq_false_iff]
      cases effectSource.isNamed <;> cases sink.hasSource <;> simp
    · intro named recorded
      exact built.completedRules_eq plain named (hasSource_iff.2 recorded)
  case both =>
    intro effectSource source sink named hsink
    refine ⟨_, built.completedRules_eq plain named rfl, fun r => ?_⟩
    rw [built.partiallyFulfilledRules_eq plain, List.mem_filter, List.mem_filter,
      decide_eq_true_iff, decide_eq_true_iff, completedOn_recorded_iff hsink, and_assoc]

theorem exploitability_steps_samples :
    Built samples (ofList samples).value ∧ (∀ r ∈ samples, r.HasPlainKinds) ∧
      ((ofList samples).value.partiallyFulfilledRules (.named "A") (.named "X")).value =
        [sampleEffect] ∧
      ((ofList samples).value.completedRules (.named "E")
        ((Kind.named "X").withTransforms [.ofKind (.named "A")] [])).value = .ok [sampleEffect] ∧
      (∃ broken, ((ofList samples).value.completedRules (.named "E") (.named "X")).value =
        .error (.contract broken)) := by
  obtain ⟨_, first, second, _⟩ := exploitability_steps (.ofList samples) samples_plain
  refine ⟨.ofList samples, samples_plain, ?_, ?_, ?_⟩
  · rw [(first _ _).1]
    decide
  · rw [(second _ _).2 (by decide) (by decide)]
    exact congrArg _ (by decide)
  · exact (second _ _).1.2 (by decide)

/-! ## The two halves of a multi-source rule -/

/-- A triggered sink fires a multi-source rule when it has the code of the rule, and the source and
the partial sink fulfil one half of the rule. -/
theorem firesOn_triggered_iff {r : Rule} (plain : r.HasPlainKinds) {p : MultiSourcePattern}
    (h : r.pattern = .multiSource p) {source : Kind} {sink : PartialSink} {code : Int64} :
    r.FiresOn source (.ofBase (.triggeredSink sink code)) ↔
      r.code = code ∧ r.HalfFiresOn source sink := by
  simp only [Rule.FiresOn, Rule.HalfFiresOn, h]
  constructor
  · intro fires
    obtain ⟨_, _, k, hk, same, hsource⟩ := fires
    injection same with hbase
    injection hbase with hsink hcode
    subst hsink
    exact ⟨hcode.symm, hsource, hk⟩
  · intro half
    obtain ⟨rfl, hsource, hsink⟩ := half
    refine ⟨?_, rfl, sink, hsink, rfl, hsource⟩
    exact Kind.transforms_eq_nil_iff.2 (plain.sourcesFor_multiSource h _ source hsource)

/-- The half-fulfilling look-up of a multi-source rule finds the rules that have the source under
the label of the partial sink, and the sink, each of them once.  The triggered form of the sink for
a code fires those of them, among the multi-source rules, that have the code. -/
theorem triggered_iff_halfFulfilled {l : List Rule} {set : RuleSet} (built : Built l set)
    (plain : ∀ r ∈ l, r.HasPlainKinds) (source : Kind) (sink : PartialSink) (code : Int64) :
    set.partialRules source (.ofPartial sink) =
        ((Rule.kept l).filter fun r => r.HalfFiresOn source sink) ∧
      (set.partialRules source (.ofPartial sink)).Pairwise (fun r other => r.code ≠ other.code) ∧
      ∃ triggered, (Kind.ofPartial sink).triggered code = .ok triggered ∧
        ∀ r p, r.pattern = .multiSource p →
          (r ∈ (set.rules source triggered).value ↔
            r.code = code ∧ r ∈ set.partialRules source (.ofPartial sink)) := by
  have half := built.partialRules_eq plain source sink
  refine ⟨half, half ▸ (Rule.kept_pairwise l).filter _, .ofBase (.triggeredSink sink code), rfl, ?_⟩
  intro r p hp
  rw [half, built.rules_eq plain, List.mem_filter, List.mem_filter, decide_eq_true_iff,
    decide_eq_true_iff]
  constructor
  · intro found
    obtain ⟨hr, fires⟩ := found
    have hplain := plain r (Rule.mem_of_mem_kept hr)
    obtain ⟨hcode, halfFires⟩ := (firesOn_triggered_iff hplain hp).1 fires
    exact ⟨hcode, hr, halfFires⟩
  · intro found
    obtain ⟨hcode, hr, halfFires⟩ := found
    have hplain := plain r (Rule.mem_of_mem_kept hr)
    exact ⟨hr, (firesOn_triggered_iff hplain hp).2 ⟨hcode, halfFires⟩⟩

/-- The dropped rule has the sources and sinks of the kept one, and its code fires neither. -/
theorem triggered_iff_halfFulfilled_samples :
    Built samples (ofList samples).value ∧ (∀ r ∈ samples, r.HasPlainKinds) ∧
      (ofList samples).value.partialRules (.named "A") (.ofPartial ⟨"P", "b"⟩) = [sampleLabels] ∧
      (∃ triggered, (Kind.ofPartial ⟨"P", "b"⟩).triggered 2 = .ok triggered ∧
        sampleLabels ∈ ((ofList samples).value.rules (.named "A") triggered).value) ∧
      (∃ triggered, (Kind.ofPartial ⟨"P", "b"⟩).triggered 1 = .ok triggered ∧
        sampleLabels ∉ ((ofList samples).value.rules (.named "A") triggered).value) := by
  have halves := triggered_iff_halfFulfilled (.ofList samples) samples_plain (.named "A") ⟨"P", "b"⟩
  have half : (ofList samples).value.partialRules (.named "A") (.ofPartial ⟨"P", "b"⟩) =
      [sampleLabels] := by
    rw [(halves 2).1]
    decide
  refine ⟨.ofList samples, samples_plain, half, ?_, ?_⟩
  · obtain ⟨triggered, ok, fires⟩ := (halves 2).2.2
    refine ⟨triggered, ok, (fires sampleLabels _ rfl).2 ⟨rfl, ?_⟩⟩
    rw [half]
    exact List.mem_singleton_self _
  · obtain ⟨triggered, ok, fires⟩ := (halves 1).2.2
    refine ⟨triggered, ok, fun found => ?_⟩
    exact absurd ((fires sampleLabels _ rfl).1 found).1 (by decide)

end RuleSet

end TaintFlow
