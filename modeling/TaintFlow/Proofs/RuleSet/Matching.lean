import TaintFlow.Proofs.RuleSet.Coverage
import TaintFlow.Proofs.RuleSet.Lookup

/-!
# Matching and coverage

Matching asks whether a rule is found for a source and a sink, and coverage whether the used kinds
meet the sets of the rule.  The two are compared here for rules that were read, first rule by rule
and then for rule sets.

* `coverage_of_matching`: a rule that is found for used kinds and transforms is covered by them, and
  what it was found for is in its cover.
* `matching_of_coverage`: a covered rule is found for used kinds and transforms.  A source-sink rule
  needs all of its transforms for that, and coverage asks for one only.
-/

namespace TaintFlow

/-! ## The labels of a multi-source rule -/

/-- The labels of the sources and of the partial sinks of a pattern that was read are the same. -/
theorem MultiSourcePattern.IsRead.mem_keys_iff {v : Json} {p : MultiSourcePattern}
    (read : p.IsRead v) {label : String} : label ∈ p.sources.keys ↔ label ∈ p.sinkLabels := by
  obtain ⟨names, hsinks⟩ := read.partialSinks
  rw [mem_sinkLabels_iff]
  constructor
  · intro hlabel
    obtain ⟨other, hother⟩ := SortedSet.isEmpty_eq_false_iff.1 p.has_sinks
    exact ⟨⟨other.name, label⟩, (hsinks _).2 ⟨((hsinks other).1 hother).1, hlabel⟩, rfl⟩
  · rintro ⟨sink, hsink, rfl⟩
    exact ((hsinks sink).1 hsink).2

namespace Rule

variable {r : Rule} {sources sinks : KindSet} {transforms : TransformSet}

/-! ## Source-sink rules -/

/-- The transforms of a flow that fulfils a source-sink rule are those of the rule. -/
theorem mem_transforms_of_firesOn {p : SourceSinkPattern} (h : r.pattern = .sourceSink p)
    {source sink : Kind} (fires : r.FiresOn source sink) {t : Transform} :
    t ∈ source.transforms ++ sink.transforms ↔ t ∈ p.transforms := by
  simp only [FiresOn, h] at fires
  rw [← fires.2.2, List.mem_append, List.mem_append, List.mem_reverse]

theorem isCovered_of_firesOn {p : SourceSinkPattern} (h : r.pattern = .sourceSink p)
    {source sink : Kind} (fires : r.FiresOn source sink) (usedSource : source.plain ∈ sources)
    (usedSink : sink.plain ∈ sinks)
    (used : ∀ t ∈ source.transforms ++ sink.transforms, t ∈ transforms) :
    r.IsCovered sources sinks transforms := by
  have whole := fun t => mem_transforms_of_firesOn (t := t) h fires
  simp only [FiresOn, h] at fires
  obtain ⟨ruleSource, ruleSink, _⟩ := fires
  simp only [IsCovered, h]
  refine ⟨⟨_, ruleSource, usedSource⟩, ⟨_, ruleSink, usedSink⟩, ?_⟩
  by_cases none : p.transforms = []
  · exact Or.inl none
  · obtain ⟨t, ht⟩ := List.exists_mem_of_ne_nil _ none
    exact Or.inr ⟨t, ht, used t ((whole t).2 ht)⟩

/-- Used kinds and transforms that fulfil a source-sink rule are in what it has in common with the
used ones. -/
theorem mem_usedPart_of_firesOn {p : SourceSinkPattern} (h : r.pattern = .sourceSink p)
    {source sink : Kind} (fires : r.FiresOn source sink) (usedSource : source.plain ∈ sources)
    (usedSink : sink.plain ∈ sinks)
    (used : ∀ t ∈ source.transforms ++ sink.transforms, t ∈ transforms) :
    source.plain ∈ (r.usedPart sources sinks transforms).sources ∧
      sink.plain ∈ (r.usedPart sources sinks transforms).sinks ∧
      ∀ t ∈ source.transforms ++ sink.transforms,
        t ∈ (r.usedPart sources sinks transforms).transforms := by
  have whole := fun t => mem_transforms_of_firesOn (t := t) h fires
  simp only [FiresOn, h] at fires
  obtain ⟨ruleSource, ruleSink, _⟩ := fires
  refine ⟨?_, ?_, fun t ht => ?_⟩
  · simp [usedPart, sourceKinds, h, ruleSource, usedSource]
  · simp [usedPart, sinkKinds, h, ruleSink, usedSink]
  · simp [usedPart, Rule.transforms, h, (whole t).1 ht, used t ht]

/-- Each source of a source-sink rule fulfils it at each of its sinks to which its transforms were
applied. -/
theorem firesOn_of_mem (plain : r.HasPlainKinds) {p : SourceSinkPattern}
    (h : r.pattern = .sourceSink p) {source sink : Kind} (hsource : source ∈ p.sources)
    (hsink : sink ∈ p.sinks) : r.FiresOn source (sink.withTransforms p.transforms []) := by
  have plainSource : source.isTransformed = false :=
    plain.sources source (by simpa [sourceKinds, h] using hsource)
  have plainSink : sink.isTransformed = false := plain.sinks_sourceSink h sink hsink
  simp only [FiresOn, h]
  refine ⟨?_, ?_, ?_⟩
  · rw [Kind.plain_eq_self_iff.2 plainSource]
    exact hsource
  · exact (Kind.plain_eq_self_iff.2 plainSink).symm ▸ hsink
  · rw [Kind.transforms_eq_nil_iff.2 plainSource]
    exact List.append_nil _

/-- A covered source-sink rule is fulfilled from a used source to a used sink through used
transforms exactly when all of its transforms are used. -/
theorem allTransforms_iff_firesOn (plain : r.HasPlainKinds) {p : SourceSinkPattern}
    (h : r.pattern = .sourceSink p) (covered : r.IsCovered sources sinks transforms) :
    (∀ t ∈ p.transforms, t ∈ transforms) ↔
      ∃ source ∈ sources, source.isTransformed = false ∧ ∃ sink ∈ sinks, ∃ applied : List Transform,
        (∀ t ∈ applied, t ∈ transforms) ∧ r.FiresOn source (sink.withTransforms applied []) := by
  simp only [IsCovered, h] at covered
  obtain ⟨⟨source, ruleSource, hsource⟩, ⟨sink, ruleSink, hsink⟩, _⟩ := covered
  constructor
  · intro used
    have plainSource : source.isTransformed = false :=
      plain.sources source (by simpa [sourceKinds, h] using ruleSource)
    refine ⟨source, hsource, plainSource, sink, hsink, p.transforms, used, ?_⟩
    exact firesOn_of_mem plain h ruleSource ruleSink
  · rintro ⟨source, _, plainSource, sink, _, applied, used, fires⟩
    simp only [FiresOn, h] at fires
    obtain ⟨_, _, whole⟩ := fires
    have same : applied = p.transforms := by
      rw [← whole, Kind.transforms_eq_nil_iff.2 plainSource]
      exact (List.append_nil _).symm
    exact same ▸ used

/-! ## Multi-source rules -/

/-- A multi-source rule is covered when used kinds fulfil the half of each label. -/
theorem isCovered_multiSource_iff {v : Json} {p : MultiSourcePattern} (read : p.IsRead v)
    (h : r.pattern = .multiSource p) :
    r.IsCovered sources sinks transforms ↔
      ∀ label ∈ p.sources.keys, ∃ source ∈ sources, ∃ sink : PartialSink, sink.label = label ∧
        .ofPartial sink ∈ sinks ∧ r.HalfFiresOn source sink := by
  simp only [IsCovered, HalfFiresOn, h]
  constructor
  · rintro ⟨bySource, bySink⟩ label hlabel
    obtain ⟨kinds, hkinds⟩ := Option.isSome_iff_exists.1 (SortedMap.isSome_get?_iff.2 hlabel)
    have hentry := SortedMap.get?_eq_some_iff.1 hkinds
    obtain ⟨source, hsource, usedSource⟩ := bySource kinds (List.mem_map.2 ⟨_, hentry, rfl⟩)
    obtain ⟨sink, hsink, rfl, usedSink⟩ := bySink label (read.mem_keys_iff.1 hlabel)
    refine ⟨source, usedSource, sink, rfl, usedSink, ?_, hsink⟩
    exact MultiSourcePattern.mem_sourcesFor_iff.2 ⟨kinds, hentry, hsource⟩
  · intro halves
    constructor
    · intro kinds hkinds
      obtain ⟨⟨label, _⟩, hentry, rfl⟩ := List.mem_map.1 hkinds
      have hget := SortedMap.get?_eq_some_iff.2 hentry
      obtain ⟨source, usedSource, sink, rfl, _, hsource, _⟩ :=
        halves label (List.mem_map.2 ⟨_, hentry, rfl⟩)
      rw [MultiSourcePattern.sourcesFor, hget] at hsource
      exact ⟨source, hsource, usedSource⟩
    · intro label hlabel
      obtain ⟨_, _, sink, same, usedSink, _, hsink⟩ := halves label (read.mem_keys_iff.2 hlabel)
      exact ⟨sink, hsink, same, usedSink⟩

/-- Used kinds that fulfil one half of a rule are in what it has in common with the used ones. -/
theorem mem_usedPart_of_halfFiresOn {source : Kind} {sink : PartialSink}
    (half : r.HalfFiresOn source sink) (usedSource : source ∈ sources)
    (usedSink : .ofPartial sink ∈ sinks) :
    source ∈ (r.usedPart sources sinks transforms).sources ∧
      .ofPartial sink ∈ (r.usedPart sources sinks transforms).sinks := by
  cases h : r.pattern with
  | multiSource p =>
      simp only [HalfFiresOn, h] at half
      have ruleSource := MultiSourcePattern.mem_allSources_of_mem_sourcesFor half.1
      have ruleSink : .ofPartial sink ∈ p.partialSinks.asKinds :=
        SortedSet.mem_asKinds_iff.2 ⟨sink, half.2, rfl⟩
      simp [usedPart, sourceKinds, sinkKinds, h, ruleSource, ruleSink, usedSource, usedSink]
  | sourceSink p => simp [HalfFiresOn, h] at half
  | exploitability p => simp [HalfFiresOn, h] at half

/-! ## Exploitability rules -/

/-- An exploitability rule is covered when a used effect source completes it at a used sink on which
a used source is recorded. -/
theorem isCovered_exploitability_iff (plain : r.HasPlainKinds) {p : ExploitabilityPattern}
    (h : r.pattern = .exploitability p) :
    r.IsCovered sources sinks transforms ↔
      ∃ effectSource ∈ sources, ∃ source ∈ sources, ∃ sink ∈ sinks, sink.isTransformed = false ∧
        r.CompletedOn effectSource (sink.withTransforms [.ofKind source] []) := by
  simp only [IsCovered, h]
  constructor
  · rintro ⟨⟨e, he, usedEffect⟩, ⟨s, hs, usedSource⟩, ⟨k, hk, usedSink⟩⟩
    have plainSink := plain.sinks_exploitability h k hk
    refine ⟨e, usedEffect, s, usedSource, k, usedSink, plainSink, ?_⟩
    rw [RuleSet.completedOn_recorded_iff plainSink]
    refine ⟨?_, p, h, he⟩
    simp only [ExploitableOn, h]
    exact ⟨hs, hk⟩
  · rintro ⟨e, usedEffect, s, usedSource, k, usedSink, plainSink, completes⟩
    obtain ⟨answers, p', hp', he⟩ := (RuleSet.completedOn_recorded_iff plainSink).1 completes
    simp only [ExploitableOn, h] at answers
    cases h.symm.trans hp'
    exact ⟨⟨e, he, usedEffect⟩, ⟨s, answers.1, usedSource⟩, ⟨k, answers.2, usedSink⟩⟩

/-- Used kinds that complete a rule are in what it has in common with the used ones. -/
theorem mem_usedPart_of_completedOn {effectSource source sink : Kind}
    (plainSink : sink.isTransformed = false)
    (completes : r.CompletedOn effectSource (sink.withTransforms [.ofKind source] []))
    (usedEffect : effectSource ∈ sources) (usedSource : source ∈ sources)
    (usedSink : sink ∈ sinks) :
    effectSource ∈ (r.usedPart sources sinks transforms).sources ∧
      source ∈ (r.usedPart sources sinks transforms).sources ∧
      sink ∈ (r.usedPart sources sinks transforms).sinks := by
  obtain ⟨answers, p, h, he⟩ := (RuleSet.completedOn_recorded_iff plainSink).1 completes
  simp only [ExploitableOn, h] at answers
  simp [usedPart, sourceKinds, sinkKinds, h, he, answers.1, answers.2, usedEffect, usedSource,
    usedSink]

end Rule

namespace RuleSet

variable {v : Json} {set : RuleSet}

/-! ## Rule sets that were read -/

/-- A set that was read was built from rules that were read. -/
theorem exists_items_of_loaded (loaded : (ofJson v).value = .ok set) :
    ∃ l, Built l set ∧ ∀ r ∈ l, ∃ item, Rule.ofJson item = .ok r := by
  obtain ⟨items, l, _, read, built⟩ := built_of_ofJson loaded
  refine ⟨l, built, fun r hr => ?_⟩
  obtain ⟨item, _, h⟩ := Checked.exists_of_mem_mapM read hr
  exact ⟨item, h⟩

/-- The rules of a set that was read have plain kinds. -/
theorem built_of_loaded (loaded : (ofJson v).value = .ok set) :
    ∃ l, Built l set ∧ (∀ r ∈ l, r.HasPlainKinds) ∧ ∀ r ∈ l, ∃ item, r.pattern.IsRead item := by
  obtain ⟨l, built, items⟩ := exists_items_of_loaded loaded
  refine ⟨l, built, fun r hr => ?_, fun r hr => ?_⟩
  · obtain ⟨item, h⟩ := items r hr
    exact Rule.hasPlainKinds_of_ofJson h
  · obtain ⟨item, h⟩ := items r hr
    exact ⟨item, Rule.isRead_of_ofJson h⟩

/-- The sample rules, of which one is dropped, are read from what they print as. -/
theorem value_ofJson_samples :
    (ofJson (.array (samples.map Rule.toJson))).value = .ok (ofList samples).value := rfl

def sampleSources : KindSet := .ofList [.named "A", .named "B", .named "E"]

def sampleSinks : KindSet :=
  .ofList [.named "X", .ofPartial ⟨"P", "a"⟩, .ofPartial ⟨"P", "b"⟩]

/-! ## What is found is covered -/

/-- Every rule of a set that is found for used kinds and transforms is covered by them, and the
cover has what it was found for.

* A source-sink rule is found for a source and a sink with transforms.
* A multi-source rule is found by halves, one for each of its labels.
* An exploitability rule is found in its second step, which is not refused. -/
theorem coverage_of_matching (loaded : (ofJson v).value = .ok set) (sources sinks : KindSet)
    (transforms : TransformSet) :
    (∀ r p, r.pattern = .sourceSink p → ∀ source sink, r ∈ (set.rules source sink).value →
      source.plain ∈ sources → sink.plain ∈ sinks →
      (∀ t ∈ source.transforms ++ sink.transforms, t ∈ transforms) →
        ∃ cover, (set.coverage sources sinks transforms).covered.get? r.code = some cover ∧
          source.plain ∈ cover.sources ∧ sink.plain ∈ cover.sinks ∧
          ∀ t ∈ source.transforms ++ sink.transforms, t ∈ cover.transforms) ∧
    (∀ r p, r.pattern = .multiSource p →
      (∀ label ∈ p.sources.keys, ∃ source ∈ sources, ∃ sink : PartialSink, sink.label = label ∧
        .ofPartial sink ∈ sinks ∧ r ∈ set.partialRules source (.ofPartial sink)) →
        ∃ cover, (set.coverage sources sinks transforms).covered.get? r.code = some cover ∧
          ∀ source ∈ sources, ∀ sink : PartialSink, .ofPartial sink ∈ sinks →
            r ∈ set.partialRules source (.ofPartial sink) →
              source ∈ cover.sources ∧ .ofPartial sink ∈ cover.sinks) ∧
    (∀ effectSource ∈ sources, ∀ source ∈ sources, ∀ sink ∈ sinks,
      effectSource.isNamed = true → sink.isTransformed = false →
        ∃ found, (set.completedRules effectSource
            (sink.withTransforms [.ofKind source] [])).value = .ok found ∧
          ∀ r ∈ found,
            ∃ cover, (set.coverage sources sinks transforms).covered.get? r.code = some cover ∧
              effectSource ∈ cover.sources ∧ source ∈ cover.sources ∧ sink ∈ cover.sinks) := by
  obtain ⟨l, built, plain, read⟩ := built_of_loaded loaded
  refine ⟨?sourceSink, ?multiSource, ?exploitability⟩
  case sourceSink =>
    intro r p h source sink found usedSource usedSink used
    obtain ⟨hr, fires⟩ := (built.mem_rules_iff plain).1 found
    have covered := Rule.isCovered_of_firesOn h fires usedSource usedSink used
    refine ⟨_, built.get?_covered_of_isCovered hr covered, ?_⟩
    exact Rule.mem_usedPart_of_firesOn h fires usedSource usedSink used
  case multiSource =>
    intro r p h halves
    simp only [built.mem_partialRules_iff plain] at halves ⊢
    obtain ⟨label, hlabel⟩ := p.exists_mem_keys
    obtain ⟨_, _, _, _, _, hr, _⟩ := halves label hlabel
    obtain ⟨item, readPattern⟩ := read r (Rule.mem_of_mem_kept hr)
    rw [h] at readPattern
    have covered : r.IsCovered sources sinks transforms := by
      refine (Rule.isCovered_multiSource_iff readPattern h).2 fun label hlabel => ?_
      obtain ⟨source, usedSource, sink, same, usedSink, _, half⟩ := halves label hlabel
      exact ⟨source, usedSource, sink, same, usedSink, half⟩
    refine ⟨_, built.get?_covered_of_isCovered hr covered, ?_⟩
    rintro source usedSource sink usedSink ⟨_, half⟩
    exact Rule.mem_usedPart_of_halfFiresOn half usedSource usedSink
  case exploitability =>
    intro effectSource usedEffect source usedSource sink usedSink named plainSink
    refine ⟨_, built.completedRules_eq plain named rfl, fun r found => ?_⟩
    rw [List.mem_filter, decide_eq_true_iff] at found
    obtain ⟨hr, completes⟩ := found
    obtain ⟨_, p, h, _⟩ := (completedOn_recorded_iff plainSink).1 completes
    have covered : r.IsCovered sources sinks transforms :=
      (Rule.isCovered_exploitability_iff (plain r (Rule.mem_of_mem_kept hr)) h).2
        ⟨effectSource, usedEffect, source, usedSource, sink, usedSink, plainSink, completes⟩
    refine ⟨_, built.get?_covered_of_isCovered hr covered, ?_⟩
    exact Rule.mem_usedPart_of_completedOn plainSink completes usedEffect usedSource usedSink

/-- A source-sink rule between whose transforms the flow is cut, and a rule of each other shape. -/
theorem coverage_of_matching_samples :
    (ofJson (.array (samples.map Rule.toJson))).value = .ok (ofList samples).value ∧
      (∃ cover, ((ofList samples).value.coverage sampleSources sampleSinks
          (.ofList [.named "T", .named "U"])).covered.get? 1 = some cover ∧
        .named "U" ∈ cover.transforms) ∧
      (∃ cover, ((ofList samples).value.coverage sampleSources sampleSinks .empty).covered.get? 2 =
          some cover ∧
        .named "B" ∈ cover.sources ∧ .ofPartial ⟨"P", "b"⟩ ∈ cover.sinks) ∧
      ∃ cover, ((ofList samples).value.coverage sampleSources sampleSinks .empty).covered.get? 3 =
          some cover ∧
        .named "E" ∈ cover.sources ∧ .named "A" ∈ cover.sources ∧ .named "X" ∈ cover.sinks := by
  obtain ⟨sourceSink, _, _⟩ := coverage_of_matching value_ofJson_samples sampleSources sampleSinks
    (.ofList [.named "T", .named "U"])
  obtain ⟨_, multiSource, exploitability⟩ := coverage_of_matching value_ofJson_samples sampleSources
    sampleSinks .empty
  refine ⟨value_ofJson_samples, ?_, ?_, ?_⟩
  · obtain ⟨cover, found, _, _, used⟩ := sourceSink sampleTransforms _ rfl
      ((Kind.named "A").withTransforms [.named "T"] [])
      ((Kind.named "X").withTransforms [] [.named "U"])
      (by decide) (by decide) (by decide) (by decide)
    exact ⟨cover, found, used _ (by decide)⟩
  · have halves : ∀ label ∈ ["a", "b"], ∃ source ∈ sampleSources, ∃ sink : PartialSink,
        sink.label = label ∧ .ofPartial sink ∈ sampleSinks ∧
          sampleLabels ∈ (ofList samples).value.partialRules source (.ofPartial sink) := by
      intro label hlabel
      refine ⟨.named "A", by decide, ⟨"P", label⟩, rfl, ?_⟩
      rcases List.mem_pair.1 hlabel with rfl | rfl <;> decide
    obtain ⟨cover, found, used⟩ := multiSource sampleLabels _ rfl halves
    exact ⟨cover, found, used _ (by decide) ⟨"P", "b"⟩ (by decide) (by decide)⟩
  · obtain ⟨found, step, used⟩ := exploitability (.named "E") (by decide) (.named "A") (by decide)
      (.named "X") (by decide) (by decide) (by decide)
    have completes : found = [sampleEffect] := by
      cases step
      decide
    exact used sampleEffect (completes ▸ List.mem_singleton_self _)

/-! ## What is covered is found -/

/-- Every covered rule of a set is found for used kinds, if all transforms of the rule are used.

* A source-sink rule is found from a used source without transforms, through used transforms to a
  used sink, exactly when all of its transforms are used.
* Each half of a multi-source rule is found.
* The second step of an exploitability rule finds it. -/
theorem matching_of_coverage (loaded : (ofJson v).value = .ok set) (sources sinks : KindSet)
    (transforms : TransformSet) {r : Rule} (held : r ∈ set.toList)
    (covered : (set.coverage sources sinks transforms).covers r.code = true) :
    (∀ p, r.pattern = .sourceSink p →
      ((∀ t ∈ p.transforms, t ∈ transforms) ↔
        ∃ source ∈ sources, source.isTransformed = false ∧ ∃ sink ∈ sinks,
          ∃ applied : List Transform, (∀ t ∈ applied, t ∈ transforms) ∧
            r ∈ (set.rules source (sink.withTransforms applied [])).value)) ∧
    (∀ p, r.pattern = .multiSource p →
      ∀ label ∈ p.sources.keys, ∃ source ∈ sources, ∃ sink : PartialSink, sink.label = label ∧
        .ofPartial sink ∈ sinks ∧ r ∈ set.partialRules source (.ofPartial sink)) ∧
    (∀ p, r.pattern = .exploitability p →
      ∃ effectSource ∈ sources, ∃ source ∈ sources, ∃ sink ∈ sinks, ∃ found,
        (set.completedRules effectSource (sink.withTransforms [.ofKind source] [])).value =
          .ok found ∧ r ∈ found) := by
  obtain ⟨l, built, plain, read⟩ := built_of_loaded loaded
  have hr := (built.holds.mem_toList_iff (Rule.kept_pairwise l)).1 held
  have hplain := plain r (Rule.mem_of_mem_kept hr)
  rw [built.covers_iff hr] at covered
  obtain ⟨item, readPattern⟩ := read r (Rule.mem_of_mem_kept hr)
  refine ⟨?sourceSink, ?multiSource, ?exploitability⟩
  case sourceSink =>
    intro p h
    simp only [built.mem_rules_iff plain, hr, true_and]
    exact Rule.allTransforms_iff_firesOn hplain h covered
  case multiSource =>
    intro p h
    rw [h] at readPattern
    simp only [built.mem_partialRules_iff plain, hr, true_and]
    exact (Rule.isCovered_multiSource_iff readPattern h).1 covered
  case exploitability =>
    intro p h
    rw [h] at readPattern
    obtain ⟨e, usedEffect, s, usedSource, k, usedSink, plainSink, completes⟩ :=
      (Rule.isCovered_exploitability_iff hplain h).1 covered
    have named : e.isNamed = true := by
      obtain ⟨_, p', h', he⟩ := (completedOn_recorded_iff plainSink).1 completes
      cases h.symm.trans h'
      exact KindSet.isNamed_of_ofField readPattern.effectSources e he
    refine ⟨e, usedEffect, s, usedSource, k, usedSink, _,
      built.completedRules_eq plain named rfl, ?_⟩
    exact List.mem_filter.2 ⟨hr, decide_eq_true completes⟩

theorem matching_of_coverage_samples :
    (ofJson (.array (samples.map Rule.toJson))).value = .ok (ofList samples).value ∧
      sampleTransforms ∈ (ofList samples).value.toList ∧
      ((ofList samples).value.coverage sampleSources sampleSinks
        (.ofList [.named "T", .named "U"])).covers sampleTransforms.code = true ∧
      ∃ source ∈ sampleSources, source.isTransformed = false ∧ ∃ sink ∈ sampleSinks,
        ∃ applied : List Transform,
          (∀ t ∈ applied, t ∈ SortedSet.ofList [.named "T", .named "U"]) ∧
            sampleTransforms ∈ ((ofList samples).value.rules source
              (sink.withTransforms applied [])).value := by
  refine ⟨value_ofJson_samples, by decide, by decide, ?_⟩
  obtain ⟨sourceSink, _, _⟩ := matching_of_coverage value_ofJson_samples sampleSources sampleSinks
    (.ofList [.named "T", .named "U"]) (r := sampleTransforms) (by decide) (by decide)
  exact (sourceSink _ rfl).1 (by decide)

/-- One used transform of two covers a rule, but no used transforms fulfil it. -/
theorem covered_but_not_found :
    (ofJson (.array [sampleTransforms.toJson])).value = .ok (ofList [sampleTransforms]).value ∧
      ((ofList [sampleTransforms]).value.coverage (.ofList [.named "A"]) (.ofList [.named "X"])
        (.ofList [.named "T"])).covers sampleTransforms.code = true ∧
      ¬∃ source ∈ SortedSet.ofList [Kind.named "A"], ∃ sink ∈ SortedSet.ofList [Kind.named "X"],
        ∃ applied : List Transform, (∀ t ∈ applied, t ∈ SortedSet.ofList [.named "T"]) ∧
          sampleTransforms ∈ ((ofList [sampleTransforms]).value.rules source
            (sink.withTransforms applied [])).value := by
  refine ⟨rfl, by decide, ?_⟩
  rintro ⟨source, hsource, sink, hsink, applied, used, found⟩
  have plainSource : source.isTransformed = false := by
    rw [List.mem_singleton.1 hsource]
    rfl
  have covered : sampleTransforms.IsCovered (.ofList [.named "A"]) (.ofList [.named "X"])
      (.ofList [.named "T"]) := by decide
  obtain ⟨_, fires⟩ := ((Built.ofList [sampleTransforms]).mem_rules_iff (by decide)).1 found
  have all := (Rule.allTransforms_iff_firesOn (by decide) rfl covered).2
    ⟨source, hsource, plainSource, sink, hsink, applied, used, fires⟩
  exact absurd (all (.named "U") (by decide)) (by decide)

end RuleSet

end TaintFlow
