import TaintFlow.Proofs.RuleSet.Matching

/-!
# Unused kinds

Whether a kind is unused is asked of the rules themselves, one by one, and the four look-ups of a
rule set ask its indexes.  For rules that were read the two agree: a plain kind is reported as
unused exactly when no look-up finds anything for it (`RuleSet.unused_iff_not_found`).

`Rule.Answers` says for which sources and sinks a rule is found, in one statement for each shape of
rules.  Two facts about one rule carry the comparison.  A rule uses the kinds for which it is found,
triggered sinks apart (`Rule.uses_of_answers`), and it is found for each of its kinds together with
some other kind (`Rule.exists_answers_of_mem_kinds`).

A multi-source rule is the odd one.  It is found at triggered sinks, which it does not name, and it
does not look through transforms (`Rule.uses_iff`), so a transformed kind can be unused although its
base is a source of the rule.
-/

namespace TaintFlow

theorem Kind.isTriggered_eq_false_of_plain {k : Kind} (h : k.plain.isTriggered = false) :
    k.isTriggered = false :=
  Bool.and_eq_false_iff.2 (Or.inr h)

/-! ## Partners in a multi-source pattern -/

namespace MultiSourcePattern

variable {v : Json} {p : MultiSourcePattern}

/-- Each source of a pattern that was read has a partial sink of its label. -/
theorem IsRead.exists_partialSink (read : p.IsRead v) {source : Kind} (h : source ∈ p.allSources) :
    ∃ sink ∈ p.partialSinks, source ∈ p.sourcesFor sink.label := by
  rw [allSources, SortedSet.mem_ofList, List.mem_flatMap] at h
  obtain ⟨kinds, hkinds, hsource⟩ := h
  obtain ⟨⟨label, _⟩, hentry, rfl⟩ := List.mem_map.1 hkinds
  have hlabel : label ∈ p.sinkLabels := read.mem_keys_iff.1 (List.mem_map.2 ⟨_, hentry, rfl⟩)
  obtain ⟨sink, hsink, rfl⟩ := mem_sinkLabels_iff.1 hlabel
  exact ⟨sink, hsink, mem_sourcesFor_iff.2 ⟨_, hentry, hsource⟩⟩

/-- Each partial sink of a pattern that was read has a source of its label. -/
theorem IsRead.exists_source (read : p.IsRead v) {sink : PartialSink} (h : sink ∈ p.partialSinks) :
    ∃ source, source ∈ p.sourcesFor sink.label := by
  have hlabel := read.mem_keys_iff.2 (mem_sinkLabels_iff.2 ⟨sink, h, rfl⟩)
  obtain ⟨⟨_, kinds⟩, hentry, same⟩ := List.mem_map.1 hlabel
  have some := p.has_sources kinds (List.mem_map.2 ⟨_, hentry, rfl⟩)
  obtain ⟨source, hsource⟩ := SortedSet.isEmpty_eq_false_iff.1 some
  exact ⟨source, mem_sourcesFor_iff.2 ⟨kinds, same ▸ hentry, hsource⟩⟩

end MultiSourcePattern

namespace Rule

variable {r : Rule} {source sink k : Kind}

/-! ## For what a rule is found -/

/-- The rule is found for `source` and `sink` in one of the four indexes.  The effect source of a
completed rule must be named. -/
inductive Answers (r : Rule) (source : Kind) : Kind → Prop where
  | fulfilled {sink : Kind} (fires : r.FiresOn source sink) : r.Answers source sink
  | halfFulfilled {sink : PartialSink} (half : r.HalfFiresOn source sink) :
      r.Answers source (.ofPartial sink)
  | exploitable {sink : Kind} (reaches : r.ExploitableOn source sink) : r.Answers source sink
  | completed {sink : Kind} (named : source.isNamed = true)
      (completes : r.CompletedOn source sink) : r.Answers source sink

theorem answers_sourceSink_iff {p : SourceSinkPattern} (h : r.pattern = .sourceSink p) :
    r.Answers source sink ↔
      source.plain ∈ p.sources ∧ sink.plain ∈ p.sinks ∧
        source.transforms.reverse ++ sink.transforms = p.transforms := by
  constructor
  · intro answers
    cases answers with
    | fulfilled fires => simpa only [FiresOn, h] using fires
    | halfFulfilled half => simp [HalfFiresOn, h] at half
    | exploitable reaches => simp [ExploitableOn, h] at reaches
    | completed _ completes => simp [CompletedOn, h] at completes
  · intro fires
    refine .fulfilled ?_
    simpa only [FiresOn, h] using fires

/-- A multi-source rule is found at its partial sinks and at their triggered forms. -/
theorem answers_multiSource_iff (plain : r.HasPlainKinds) {p : MultiSourcePattern}
    (h : r.pattern = .multiSource p) :
    r.Answers source sink ↔
      ∃ k ∈ p.partialSinks, source ∈ p.sourcesFor k.label ∧
        (sink = .ofPartial k ∨ sink = .ofBase (.triggeredSink k r.code)) := by
  constructor
  · intro answers
    cases answers with
    | fulfilled fires =>
        simp only [FiresOn, h] at fires
        obtain ⟨_, _, k, hk, rfl, hsource⟩ := fires
        exact ⟨k, hk, hsource, Or.inr rfl⟩
    | halfFulfilled half =>
        simp only [HalfFiresOn, h] at half
        exact ⟨_, half.2, half.1, Or.inl rfl⟩
    | exploitable reaches => simp [ExploitableOn, h] at reaches
    | completed _ completes => simp [CompletedOn, h] at completes
  · rintro ⟨k, hk, hsource, rfl | rfl⟩
    · refine .halfFulfilled ?_
      simpa only [HalfFiresOn, h] using ⟨hsource, hk⟩
    · refine .fulfilled ((RuleSet.firesOn_triggered_iff plain h).2 ⟨rfl, ?_⟩)
      simpa only [HalfFiresOn, h] using ⟨hsource, hk⟩

/-- An exploitability rule is found in either of its two steps. -/
theorem answers_exploitability_iff {p : ExploitabilityPattern} (h : r.pattern = .exploitability p)
    (named : ∀ k ∈ p.effectSources, k.isNamed = true) :
    r.Answers source sink ↔
      (source ∈ p.sources ∧ sink ∈ p.sinks) ∨
        (source ∈ p.effectSources ∧ sink.plain ∈ p.sinks ∧
          ∃ recorded ∈ p.sources, sink.transforms = [.ofKind recorded]) := by
  constructor
  · intro answers
    cases answers with
    | fulfilled fires => simp [FiresOn, h] at fires
    | halfFulfilled half => simp [HalfFiresOn, h] at half
    | exploitable reaches => exact Or.inl (by simpa only [ExploitableOn, h] using reaches)
    | completed _ completes => exact Or.inr (by simpa only [CompletedOn, h] using completes)
  · rintro (reaches | completes)
    · refine .exploitable ?_
      simpa only [ExploitableOn, h] using reaches
    · refine .completed (named source completes.1) ?_
      simpa only [CompletedOn, h] using completes

/-- The source of a found rule is one of its sources, and so is the sink unless it is triggered.  A
multi-source rule is found for kinds without transforms only. -/
theorem mem_kinds_of_answers (plain : r.HasPlainKinds) {v : Json} (read : r.pattern.IsRead v)
    (answers : r.Answers source sink) :
    source.plain ∈ r.sourceKinds ∧ (sink.isTriggered = false → sink.plain ∈ r.sinkKinds) ∧
      ∀ p, r.pattern = .multiSource p →
        source.isTransformed = false ∧ sink.isTransformed = false := by
  cases h : r.pattern with
  | sourceSink p =>
      obtain ⟨hsource, hsink, _⟩ := (answers_sourceSink_iff h).1 answers
      simp [sourceKinds, sinkKinds, h, hsource, hsink]
  | multiSource p =>
      obtain ⟨k, hk, hsource, shape⟩ := (answers_multiSource_iff plain h).1 answers
      have plainSource := plain.sourcesFor_multiSource h k.label source hsource
      have named : source.plain ∈ r.sourceKinds := by
        rw [Kind.plain_eq_self_iff.2 plainSource]
        simpa [sourceKinds, h] using MultiSourcePattern.mem_allSources_of_mem_sourcesFor hsource
      rcases shape with rfl | rfl
      · have hsink : .ofPartial k ∈ r.sinkKinds := by
          simpa [sinkKinds, h] using SortedSet.mem_asKinds_iff.2 ⟨k, hk, rfl⟩
        exact ⟨named, fun _ => hsink, fun _ _ => ⟨plainSource, rfl⟩⟩
      · refine ⟨named, fun untriggered => ?_, fun _ _ => ⟨plainSource, rfl⟩⟩
        cases untriggered
  | exploitability p =>
      rw [h] at read
      have named := KindSet.isNamed_of_ofField read.effectSources
      rcases (answers_exploitability_iff h named).1 answers with
        ⟨hsource, hsink⟩ | ⟨hsource, hsink, _⟩
      · rw [Kind.plain_eq_self_iff.2 (plain.sources_exploitability h source hsource),
          Kind.plain_eq_self_iff.2 (plain.sinks_exploitability h sink hsink)]
        simp [sourceKinds, sinkKinds, h, hsource, hsink]
      · rw [Kind.plain_eq_self_iff.2 (Kind.isTransformed_of_isNamed (named source hsource))]
        simp [sourceKinds, sinkKinds, h, hsource, hsink]

/-- A rule is found for each of its kinds, as the source or as the sink. -/
theorem exists_answers_of_mem_kinds (plain : r.HasPlainKinds) {v : Json} (read : r.pattern.IsRead v)
    (named : k ∈ r.sourceKinds ∨ k ∈ r.sinkKinds) :
    ∃ source sink, r.Answers source sink ∧ (k = source.plain ∨ k = sink.plain) := by
  have untransformed : k.isTransformed = false := named.elim (plain.sources k) (plain.sinks k)
  have self := Kind.plain_eq_self_iff.2 untransformed
  cases h : r.pattern with
  | sourceSink p =>
      simp only [sourceKinds, sinkKinds, h] at named
      rcases named with hk | hk
      · obtain ⟨sink, hsink⟩ := SortedSet.isEmpty_eq_false_iff.1 p.has_sinks
        exact ⟨k, _, .fulfilled (firesOn_of_mem plain h hk hsink), Or.inl self.symm⟩
      · obtain ⟨source, hsource⟩ := SortedSet.isEmpty_eq_false_iff.1 p.has_sources
        exact ⟨source, _, .fulfilled (firesOn_of_mem plain h hsource hk), Or.inr self.symm⟩
  | multiSource p =>
      rw [h] at read
      have halves : ∀ source sink, source ∈ p.sourcesFor sink.label → sink ∈ p.partialSinks →
          r.Answers source (.ofPartial sink) := fun source sink hsource hsink =>
        (answers_multiSource_iff plain h).2 ⟨sink, hsink, hsource, Or.inl rfl⟩
      simp only [sourceKinds, sinkKinds, h] at named
      rcases named with hk | hk
      · obtain ⟨sink, hsink, hsource⟩ := read.exists_partialSink hk
        exact ⟨k, _, halves k sink hsource hsink, Or.inl self.symm⟩
      · obtain ⟨sink, hsink, rfl⟩ := SortedSet.mem_asKinds_iff.1 hk
        obtain ⟨source, hsource⟩ := read.exists_source hsink
        exact ⟨source, _, halves source sink hsource hsink, Or.inr rfl⟩
  | exploitability p =>
      rw [h] at read
      have effects := KindSet.isNamed_of_ofField read.effectSources
      obtain ⟨source, hsource⟩ := SortedSet.isEmpty_eq_false_iff.1 p.has_sources
      obtain ⟨sink, hsink⟩ := SortedSet.isEmpty_eq_false_iff.1 p.has_sinks
      simp only [sourceKinds, sinkKinds, h, SortedSet.mem_union] at named
      rcases named with (hk | hk) | hk
      · have reaches := (answers_exploitability_iff h effects).2 (Or.inl ⟨hk, hsink⟩)
        exact ⟨k, sink, reaches, Or.inl self.symm⟩
      · have plainSink := plain.sinks_exploitability h sink hsink
        have recorded : (sink.withTransforms [.ofKind source] []).plain ∈ p.sinks :=
          (Kind.plain_eq_self_iff.2 plainSink).symm ▸ hsink
        have completes := (answers_exploitability_iff h effects).2
          (Or.inr ⟨hk, recorded, source, hsource, rfl⟩)
        exact ⟨k, _, completes, Or.inl self.symm⟩
      · have reaches := (answers_exploitability_iff h effects).2 (Or.inl ⟨hsource, hk⟩)
        exact ⟨source, k, reaches, Or.inr self.symm⟩

/-! ## Which kinds a rule uses -/

/-- A rule uses the kinds of its sets, and looks through transforms unless it is a multi-source
rule. -/
theorem uses_iff (plain : r.HasPlainKinds) :
    r.uses k = true ↔
      (k.plain ∈ r.sourceKinds ∨ k.plain ∈ r.sinkKinds) ∧
        ∀ p, r.pattern = .multiSource p → k.isTransformed = false := by
  cases h : r.pattern with
  | sourceSink p => simp [uses, sourceKinds, sinkKinds, h]
  | multiSource p =>
      have named : r.uses k = true ↔ k ∈ r.sourceKinds ∨ k ∈ r.sinkKinds := by
        simp [uses, sourceKinds, sinkKinds, h, MultiSourcePattern.allSources, SortedSet.mem_toList]
      rw [named]
      constructor
      · intro used
        have untransformed : k.isTransformed = false := used.elim (plain.sources k) (plain.sinks k)
        rw [Kind.plain_eq_self_iff.2 untransformed]
        exact ⟨used, fun _ _ => untransformed⟩
      · rintro ⟨used, untransformed⟩
        rwa [Kind.plain_eq_self_iff.2 (untransformed p rfl)] at used
  | exploitability p =>
      simp [uses, sourceKinds, sinkKinds, h, or_comm (a := k.plain ∈ p.sources)]

/-- A rule uses the kinds for which it is found, except triggered sinks, with their transforms and
without them. -/
theorem uses_of_answers (plain : r.HasPlainKinds) {v : Json} (read : r.pattern.IsRead v)
    (answers : r.Answers source sink) :
    (r.uses source = true ∧ r.uses source.plain = true) ∧
      (sink.isTriggered = false → r.uses sink = true ∧ r.uses sink.plain = true) := by
  obtain ⟨hsource, hsink, untransformed⟩ := mem_kinds_of_answers plain read answers
  simp only [uses_iff plain]
  refine ⟨⟨⟨Or.inl hsource, fun p h => (untransformed p h).1⟩, Or.inl hsource, fun _ _ => rfl⟩, ?_⟩
  intro untriggered
  have hsink := hsink untriggered
  exact ⟨⟨Or.inr hsink, fun p h => (untransformed p h).2⟩, Or.inr hsink, fun _ _ => rfl⟩

end Rule

namespace RuleSet

variable {v : Json} {set : RuleSet} {l : List Rule} {source sink k : Kind} {kinds : List Kind}

/-! ## What the look-ups find -/

/-- One of the four look-ups finds a rule for `source` and `sink`.  The last one can be refused, and
then it finds nothing. -/
inductive Finds (set : RuleSet) (source sink : Kind) : Prop where
  | fulfilled (found : (set.rules source sink).value ≠ [])
  | halfFulfilled (found : set.partialRules source sink ≠ [])
  | exploitable (found : (set.partiallyFulfilledRules source sink).value ≠ [])
  | completed {rules : List Rule} (answered : (set.completedRules source sink).value = .ok rules)
      (found : rules ≠ [])

theorem exists_partialSink_of_mem_halfFulfillingFlows {r : Rule} {f : Flow}
    (h : f ∈ r.halfFulfillingFlows) : ∃ s, f.sink = .ofPartial s := by
  cases hp : r.pattern with
  | multiSource p =>
      rw [Rule.halfFulfillingFlows_multiSource hp] at h
      obtain ⟨⟨_, s⟩, _, rfl⟩ := List.mem_map.1 h
      exact ⟨s, rfl⟩
  | sourceSink p => simp [Rule.halfFulfillingFlows, hp] at h
  | exploitability p => simp [Rule.halfFulfillingFlows, hp] at h

/-- The half-fulfilling look-up finds rules for partial sinks only. -/
theorem Built.exists_partialSink (built : Built l set) (plain : ∀ r ∈ l, r.HasPlainKinds)
    (found : set.partialRules source sink ≠ []) : ∃ s, sink = .ofPartial s := by
  have nodup : ∀ r ∈ Rule.kept l, (Question.halfFulfilled.flows r).Nodup := fun r hr =>
    (plain r (Rule.mem_of_mem_kept hr)).nodup_flows .halfFulfilled
  have listed : set.partialRules source sink =
      (Rule.kept l).filter fun r => ⟨source, sink⟩ ∈ r.halfFulfillingFlows :=
    built.holds.lookup_of_nodup nodup ⟨source, sink⟩
  obtain ⟨r, hr⟩ := List.exists_mem_of_ne_nil _ found
  rw [listed, List.mem_filter, decide_eq_true_iff] at hr
  exact exists_partialSink_of_mem_halfFulfillingFlows hr.2

/-- The second step of an exploitability rule answers for a named effect source, at a sink with a
recorded source. -/
theorem accepted_of_completedRules {rules : List Rule}
    (answered : (set.completedRules source sink).value = .ok rules) :
    source.isNamed = true ∧ sink.hasSource = true := by
  rw [value_completedRules] at answered
  split at answered
  next => cases answered
  next named =>
    split at answered
    next => cases answered
    next recorded =>
      exact ⟨eq_true_of_ne_false named, eq_true_of_ne_false recorded⟩

theorem hasSource_of_completedOn {r : Rule} (completes : r.CompletedOn source sink) :
    sink.hasSource = true := by
  cases h : r.pattern with
  | exploitability p =>
      simp only [Rule.CompletedOn, h] at completes
      obtain ⟨_, _, recorded, _, only⟩ := completes
      refine hasSource_iff.2 ⟨.ofKind recorded, ?_, rfl⟩
      rw [only]
      exact List.mem_singleton_self _
  | sourceSink p => simp [Rule.CompletedOn, h] at completes
  | multiSource p => simp [Rule.CompletedOn, h] at completes

/-- The look-ups find the rules that answer among the kept ones. -/
theorem Built.finds_iff (built : Built l set) (plain : ∀ r ∈ l, r.HasPlainKinds) :
    set.Finds source sink ↔ ∃ r ∈ Rule.kept l, r.Answers source sink := by
  constructor
  · intro finds
    cases finds with
    | fulfilled found =>
        obtain ⟨r, hr⟩ := List.exists_mem_of_ne_nil _ found
        obtain ⟨hr, fires⟩ := (built.mem_rules_iff plain).1 hr
        exact ⟨r, hr, .fulfilled fires⟩
    | halfFulfilled found =>
        obtain ⟨s, rfl⟩ := built.exists_partialSink plain found
        obtain ⟨r, hr⟩ := List.exists_mem_of_ne_nil _ found
        obtain ⟨hr, half⟩ := (built.mem_partialRules_iff plain).1 hr
        exact ⟨r, hr, .halfFulfilled half⟩
    | exploitable found =>
        rw [built.partiallyFulfilledRules_eq plain] at found
        obtain ⟨r, hr⟩ := List.exists_mem_of_ne_nil _ found
        obtain ⟨hr, reaches⟩ := List.mem_filter.1 hr
        exact ⟨r, hr, .exploitable (of_decide_eq_true reaches)⟩
    | completed answered found =>
        obtain ⟨named, recorded⟩ := accepted_of_completedRules answered
        cases (built.completedRules_eq plain named recorded).symm.trans answered
        obtain ⟨r, hr⟩ := List.exists_mem_of_ne_nil _ found
        obtain ⟨hr, completes⟩ := List.mem_filter.1 hr
        exact ⟨r, hr, .completed named (of_decide_eq_true completes)⟩
  · rintro ⟨r, hr, answers⟩
    cases answers with
    | fulfilled fires =>
        exact .fulfilled (List.ne_nil_of_mem ((built.mem_rules_iff plain).2 ⟨hr, fires⟩))
    | halfFulfilled half =>
        exact .halfFulfilled (List.ne_nil_of_mem ((built.mem_partialRules_iff plain).2 ⟨hr, half⟩))
    | exploitable reaches =>
        refine .exploitable (List.ne_nil_of_mem (a := r) ?_)
        rw [built.partiallyFulfilledRules_eq plain]
        exact List.mem_filter.2 ⟨hr, decide_eq_true reaches⟩
    | completed named completes =>
        have recorded := hasSource_of_completedOn completes
        refine .completed (built.completedRules_eq plain named recorded) ?_
        exact List.ne_nil_of_mem (List.mem_filter.2 ⟨hr, decide_eq_true completes⟩)

/-! ## What is unused -/

/-- The unused kinds of a list, each of which is reported in its place. -/
theorem unusedKinds_eq (set : RuleSet) (kinds : List Kind) :
    set.unusedKinds kinds = ⟨.ofList (kinds.filter set.isUnused),
      (kinds.filter set.isUnused).map fun k => .unusedKind k.toText⟩ := by
  have steps : ∀ unused : KindSet,
      (kinds.foldlM (fun unused k =>
          if set.isUnused k then do
            Logged.report (.unusedKind k.toText)
            return unused.insert k
          else pure unused) unused : Logged KindSet) =
        ⟨(kinds.filter set.isUnused).foldl (fun s k => s.insert k) unused,
          (kinds.filter set.isUnused).map fun k => .unusedKind k.toText⟩ := by
    induction kinds with
    | nil =>
        intro unused
        rfl
    | cons k kinds ih =>
        intro unused
        rw [List.foldlM_cons]
        cases h : set.isUnused k with
        | true =>
            rw [List.filter_cons_of_pos h, if_pos rfl]
            exact congrArg (fun later => Logged.report (.unusedKind k.toText) >>= fun _ => later)
              (ih (unused.insert k))
        | false =>
            rw [List.filter_cons_of_neg (by simp [h]), if_neg Bool.noConfusion]
            exact ih unused
  exact steps .empty

/-- A kind is reported when it is listed, not triggered, and used by none of the kept rules. -/
theorem Built.mem_unusedKinds_iff (built : Built l set) :
    k ∈ (set.unusedKinds kinds).value ↔
      k ∈ kinds ∧ k.isTriggered = false ∧ ∀ r ∈ Rule.kept l, r.uses k = false := by
  rw [unusedKinds_eq, SortedSet.mem_ofList, List.mem_filter]
  simp only [isUnused, Bool.and_eq_true, Bool.not_eq_true', List.all_eq_true,
    built.mem_toList_iff]

/-- A kept rule uses the kinds for which a look-up finds something, except triggered sinks. -/
theorem Built.exists_uses_of_finds (built : Built l set) (plain : ∀ r ∈ l, r.HasPlainKinds)
    (read : ∀ r ∈ l, ∃ item, r.pattern.IsRead item) (finds : set.Finds source sink) :
    ∃ r ∈ Rule.kept l, (r.uses source = true ∧ r.uses source.plain = true) ∧
      (sink.isTriggered = false → r.uses sink = true ∧ r.uses sink.plain = true) := by
  obtain ⟨r, hr, answers⟩ := (built.finds_iff plain).1 finds
  have hl := Rule.mem_of_mem_kept hr
  obtain ⟨item, hread⟩ := read r hl
  exact ⟨r, hr, Rule.uses_of_answers (plain r hl) hread answers⟩

/-- Some look-up finds something for a plain kind that a kept rule uses. -/
theorem Built.exists_finds_of_uses (built : Built l set) (plain : ∀ r ∈ l, r.HasPlainKinds)
    (read : ∀ r ∈ l, ∃ item, r.pattern.IsRead item) {r : Rule} (hr : r ∈ Rule.kept l)
    (used : r.uses k = true) (untransformed : k.isTransformed = false) :
    ∃ source sink, set.Finds source sink ∧ (k = source.plain ∨ k = sink.plain) := by
  have hl := Rule.mem_of_mem_kept hr
  obtain ⟨item, hread⟩ := read r hl
  have named := ((Rule.uses_iff (plain r hl)).1 used).1
  rw [Kind.plain_eq_self_iff.2 untransformed] at named
  obtain ⟨source, sink, answers, base⟩ := Rule.exists_answers_of_mem_kinds (plain r hl) hread named
  exact ⟨source, sink, (built.finds_iff plain).2 ⟨r, hr, answers⟩, base⟩

/-- The report of unused kinds agrees with the four look-ups of a rule set that was read.

* No source and no sink for which a look-up finds something is reported.
* A listed kind without transforms that is no triggered sink is not reported exactly when it is the
  base of the source or of the sink for which a look-up finds something.
* No triggered sink is reported. -/
theorem unused_iff_not_found (loaded : (ofJson v).value = .ok set) (kinds : List Kind) :
    (∀ source sink, set.Finds source sink →
      source ∉ (set.unusedKinds kinds).value ∧ sink ∉ (set.unusedKinds kinds).value) ∧
    (∀ k ∈ kinds, k.isTransformed = false → k.isTriggered = false →
      (k ∉ (set.unusedKinds kinds).value ↔
        ∃ source sink, set.Finds source sink ∧ (k = source.plain ∨ k = sink.plain))) ∧
    ∀ k, k.isTriggered = true → k ∉ (set.unusedKinds kinds).value := by
  obtain ⟨l, built, plain, read⟩ := built_of_loaded loaded
  simp only [built.mem_unusedKinds_iff]
  refine ⟨?found, ?listed, ?triggered⟩
  case found =>
    intro source sink finds
    obtain ⟨r, hr, ⟨usesSource, _⟩, usesSink⟩ := built.exists_uses_of_finds plain read finds
    constructor
    · rintro ⟨_, _, none⟩
      cases usesSource.symm.trans (none r hr)
    · rintro ⟨_, untriggered, none⟩
      cases (usesSink untriggered).1.symm.trans (none r hr)
  case listed =>
    intro k listed untransformed untriggered
    constructor
    · intro reported
      obtain ⟨r, hr, used⟩ : ∃ r ∈ Rule.kept l, r.uses k = true := by
        by_contra none
        refine reported ⟨listed, untriggered, fun r hr => ?_⟩
        exact eq_false_of_ne_true fun used => none ⟨r, hr, used⟩
      exact built.exists_finds_of_uses plain read hr used untransformed
    · rintro ⟨source, sink, finds, base⟩ ⟨_, _, none⟩
      obtain ⟨r, hr, ⟨_, usesSource⟩, usesSink⟩ := built.exists_uses_of_finds plain read finds
      rcases base with rfl | rfl
      · cases usesSource.symm.trans (none r hr)
      · have untriggered := Kind.isTriggered_eq_false_of_plain untriggered
        cases (usesSink untriggered).2.symm.trans (none r hr)
  case triggered =>
    rintro k triggered ⟨_, untriggered, _⟩
    cases triggered.symm.trans untriggered

/-- Kinds of which the second and the fourth one are unused.  The base of the second one is a source
of a multi-source rule. -/
def sampleKinds : List Kind :=
  [(Kind.named "A").withTransforms [.named "T"] [], (Kind.named "B").withTransforms [.named "T"] [],
    .named "B", .named "Z", .ofBase (.triggeredSink ⟨"P", "b"⟩ 2)]

theorem unused_iff_not_found_samples :
    (ofJson (.array (samples.map Rule.toJson))).value = .ok (ofList samples).value ∧
      ((ofList samples).value.unusedKinds sampleKinds).value =
        .ofList [(Kind.named "B").withTransforms [.named "T"] [], .named "Z"] ∧
      (Kind.named "A").withTransforms [.named "T"] [] ∉
        ((ofList samples).value.unusedKinds sampleKinds).value ∧
      (∃ source sink, (ofList samples).value.Finds source sink ∧
        (.named "B" = source.plain ∨ .named "B" = sink.plain)) ∧
      (¬∃ source sink, (ofList samples).value.Finds source sink ∧
        (.named "Z" = source.plain ∨ .named "Z" = sink.plain)) ∧
      .ofBase (.triggeredSink ⟨"P", "b"⟩ 2) ∉
        ((ofList samples).value.unusedKinds sampleKinds).value := by
  obtain ⟨found, listed, triggered⟩ := unused_iff_not_found value_ofJson_samples sampleKinds
  have finds : (ofList samples).value.Finds ((Kind.named "A").withTransforms [.named "T"] [])
      ((Kind.named "X").withTransforms [] [.named "U"]) := .fulfilled (by decide)
  refine ⟨value_ofJson_samples, by decide, (found _ _ finds).1, ?_, ?_, triggered _ rfl⟩
  · exact (listed (.named "B") (by decide) rfl rfl).1 (by decide)
  · exact fun finds => (listed (.named "Z") (by decide) rfl rfl).2 finds (by decide)

end RuleSet

end TaintFlow
