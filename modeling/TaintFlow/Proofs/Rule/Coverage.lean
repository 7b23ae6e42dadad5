import Mathlib.Data.List.Basic
import TaintFlow.Rule.Coverage

/-!
# When a rule is covered

A rule is covered by used kinds and transforms when they meet each set of the rule that it needs,
and its cover is all that they have in common with the rule.  `Rule.IsCovered` says the former and
`Rule.usedPart` is the latter; `Rule.cover?_eq_some_iff` says that the cover of a rule is made of
them.

The transforms of a rule are such a set, so it is enough that one of them is used.
-/

namespace TaintFlow

/-! ## Common elements -/

namespace SortedSet

variable {α : Type} [Ord α]

theorem common?_eq_some_iff [Std.LawfulEqOrd α] {s t both : SortedSet α} :
    s.common? t = some both ↔ (∃ a ∈ s, a ∈ t) ∧ both = s.inter t := by
  have meets : (∃ a ∈ s, a ∈ t) ↔ (s.inter t).isEmpty = false := by
    constructor
    · rintro ⟨a, hs, ht⟩
      rw [Bool.eq_false_iff, ne_eq, isEmpty_iff]
      exact fun none => none a (mem_inter.2 ⟨hs, ht⟩)
    · intro full
      obtain ⟨a, ha⟩ := isEmpty_eq_false_iff.1 full
      exact ⟨a, mem_inter.1 ha⟩
  rw [common?, meets]
  cases (s.inter t).isEmpty <;> simp [eq_comm]

end SortedSet

/-! ## The used kinds of every label -/

namespace MultiSourcePattern

/-- The kinds of each label meet the used ones, and what they have in common is added to what was
found before. -/
theorem foldlM_used_eq_some_iff {byLabel : List KindSet} {used before found : KindSet} :
    byLabel.foldlM (fun found kinds => return found.union (← kinds.common? used)) before =
        some found ↔
      (∀ kinds ∈ byLabel, ∃ k ∈ kinds, k ∈ used) ∧
        ∀ k, k ∈ found ↔ k ∈ before ∨ (∃ kinds ∈ byLabel, k ∈ kinds) ∧ k ∈ used := by
  induction byLabel generalizing before with
  | nil =>
      rw [List.foldlM_nil, Option.pure_def, Option.some.injEq, SortedSet.ext_iff]
      simp [iff_comm]
  | cons kinds rest ih =>
      have step : ((kinds :: rest).foldlM
            (fun found kinds => return found.union (← kinds.common? used)) before = some found) ↔
          (∃ k ∈ kinds, k ∈ used) ∧ rest.foldlM
            (fun found kinds => return found.union (← kinds.common? used))
            (before.union (kinds.inter used)) = some found := by
        rw [List.foldlM_cons]
        simp [Option.bind_eq_some_iff, SortedSet.common?_eq_some_iff, and_assoc]
      rw [step, ih, List.forall_mem_cons, and_assoc]
      refine and_congr_right fun _ => and_congr_right fun _ => forall_congr' fun k => ?_
      rw [SortedSet.mem_union, SortedSet.mem_inter, List.exists_mem_cons_iff, or_and_right,
        or_assoc]

theorem usedByLabel?_eq_some_iff {byLabel : List KindSet} {used found : KindSet} :
    usedByLabel? byLabel used = some found ↔
      (∀ kinds ∈ byLabel, ∃ k ∈ kinds, k ∈ used) ∧
        ∀ k, k ∈ found ↔ (∃ kinds ∈ byLabel, k ∈ kinds) ∧ k ∈ used := by
  rw [usedByLabel?, foldlM_used_eq_some_iff]
  simp

end MultiSourcePattern

/-! ## Covered rules -/

theorem SortedSet.mem_asKinds_iff {sinks : SortedSet PartialSink} {k : Kind} :
    k ∈ sinks.asKinds ↔ ∃ sink ∈ sinks, .ofPartial sink = k := by
  rw [asKinds, mem_ofList, List.mem_map]
  rfl

theorem MultiSourcePattern.mem_sinkLabels_iff {p : MultiSourcePattern} {label : String} :
    label ∈ p.sinkLabels ↔ ∃ sink ∈ p.partialSinks, sink.label = label := by
  rw [sinkLabels, SortedSet.mem_ofList, List.mem_map]
  rfl

/-- Each label of a partial sink has a used one, and all used partial sinks are found. -/
theorem MultiSourcePattern.usedByLabel?_sinks_eq_some_iff {p : MultiSourcePattern}
    {sinks found : KindSet} :
    usedByLabel? (p.sinkLabels.toList.map fun label => (p.partialSinksFor label).asKinds) sinks =
        some found ↔
      (∀ label ∈ p.sinkLabels, ∃ sink ∈ p.partialSinks, sink.label = label ∧
        .ofPartial sink ∈ sinks) ∧ found = p.partialSinks.asKinds.inter sinks := by
  have memFor : ∀ {label : String} {k : Kind}, k ∈ (p.partialSinksFor label).asKinds ↔
      ∃ sink ∈ p.partialSinks, sink.label = label ∧ .ofPartial sink = k := by
    simp [SortedSet.mem_asKinds_iff, partialSinksFor, and_assoc]
  have allLabels : ∀ k, (∃ kinds ∈ p.sinkLabels.toList.map fun label =>
      (p.partialSinksFor label).asKinds, k ∈ kinds) ↔ k ∈ p.partialSinks.asKinds := by
    intro k
    rw [SortedSet.mem_asKinds_iff]
    constructor
    · rintro ⟨_, hkinds, hk⟩
      obtain ⟨label, _, rfl⟩ := List.mem_map.1 hkinds
      obtain ⟨sink, hsink, _, same⟩ := memFor.1 hk
      exact ⟨sink, hsink, same⟩
    · rintro ⟨sink, hsink, same⟩
      refine ⟨_, List.mem_map.2 ⟨sink.label, mem_sinkLabels_iff.2 ⟨sink, hsink, rfl⟩, rfl⟩, ?_⟩
      exact memFor.2 ⟨sink, hsink, rfl, same⟩
  rw [usedByLabel?_eq_some_iff, SortedSet.ext_iff, List.forall_mem_map]
  refine and_congr (forall₂_congr fun label _ => ?_) (forall_congr' fun k => ?_)
  · constructor
    · rintro ⟨_, hk, used⟩
      obtain ⟨sink, hsink, hlabel, rfl⟩ := memFor.1 hk
      exact ⟨sink, hsink, hlabel, used⟩
    · rintro ⟨sink, hsink, hlabel, used⟩
      exact ⟨_, memFor.2 ⟨sink, hsink, hlabel, rfl⟩, used⟩
  · rw [allLabels, SortedSet.mem_inter]

/-- Each label has a used source, and all used sources are found. -/
theorem MultiSourcePattern.usedByLabel?_sources_eq_some_iff {p : MultiSourcePattern}
    {sources found : KindSet} :
    usedByLabel? p.sources.values sources = some found ↔
      (∀ kinds ∈ p.sources.values, ∃ k ∈ kinds, k ∈ sources) ∧
        found = p.allSources.inter sources := by
  rw [usedByLabel?_eq_some_iff, SortedSet.ext_iff]
  refine and_congr_right fun _ => forall_congr' fun k => ?_
  rw [SortedSet.mem_inter, allSources, SortedSet.mem_ofList, List.mem_flatMap]
  rfl

/-- The kinds and transforms that a rule has in common with the used ones. -/
def Rule.usedPart (r : Rule) (sources sinks : KindSet) (transforms : TransformSet) : Cover where
  sources := r.sourceKinds.inter sources
  sinks := r.sinkKinds.inter sinks
  transforms := (SortedSet.ofList r.transforms).inter transforms

/-- The used kinds and transforms meet all that a rule needs: some of its sources and sinks, where
a multi-source rule needs them for each label, some of the effect sources, and some of the
transforms if there are any. -/
def Rule.IsCovered (r : Rule) (sources sinks : KindSet) (transforms : TransformSet) : Prop :=
  match r.pattern with
  | .sourceSink p =>
      (∃ k ∈ p.sources, k ∈ sources) ∧ (∃ k ∈ p.sinks, k ∈ sinks) ∧
        (p.transforms = [] ∨ ∃ t ∈ p.transforms, t ∈ transforms)
  | .multiSource p =>
      (∀ kinds ∈ p.sources.values, ∃ k ∈ kinds, k ∈ sources) ∧
        ∀ label ∈ p.sinkLabels, ∃ sink ∈ p.partialSinks, sink.label = label ∧
          .ofPartial sink ∈ sinks
  | .exploitability p =>
      (∃ k ∈ p.effectSources, k ∈ sources) ∧ (∃ k ∈ p.sources, k ∈ sources) ∧
        ∃ k ∈ p.sinks, k ∈ sinks

section Patterns

variable {sources sinks : KindSet} {transforms : TransformSet} {cover : Cover}

theorem SourceSinkPattern.usedTransforms?_eq_some_iff {p : SourceSinkPattern}
    {found : TransformSet} :
    p.usedTransforms? transforms = some found ↔
      (p.transforms = [] ∨ ∃ t ∈ p.transforms, t ∈ transforms) ∧
        found = (SortedSet.ofList p.transforms).inter transforms := by
  have none : (SortedSet.ofList []).inter transforms = .empty := rfl
  rw [usedTransforms?]
  cases p.transforms with
  | nil => simp [eq_comm, none]
  | cons t rest => simp [SortedSet.common?_eq_some_iff]

theorem SourceSinkPattern.cover?_eq_some_iff {p : SourceSinkPattern} :
    p.cover? sources sinks transforms = some cover ↔
      ((∃ k ∈ p.sources, k ∈ sources) ∧ (∃ k ∈ p.sinks, k ∈ sinks) ∧
        (p.transforms = [] ∨ ∃ t ∈ p.transforms, t ∈ transforms)) ∧
      cover = ⟨p.sources.inter sources, p.sinks.inter sinks,
        (SortedSet.ofList p.transforms).inter transforms⟩ := by
  simp only [cover?, Option.bind_eq_bind, Option.bind_eq_some_iff, SortedSet.common?_eq_some_iff,
    usedTransforms?_eq_some_iff]
  constructor
  · rintro ⟨_, ⟨hsources, rfl⟩, _, ⟨hsinks, rfl⟩, _, ⟨htransforms, rfl⟩, made⟩
    cases made
    exact ⟨⟨hsources, hsinks, htransforms⟩, rfl⟩
  · rintro ⟨⟨hsources, hsinks, htransforms⟩, rfl⟩
    exact ⟨_, ⟨hsources, rfl⟩, _, ⟨hsinks, rfl⟩, _, ⟨htransforms, rfl⟩, rfl⟩

theorem MultiSourcePattern.cover?_eq_some_iff {p : MultiSourcePattern} :
    p.cover? sources sinks = some cover ↔
      ((∀ kinds ∈ p.sources.values, ∃ k ∈ kinds, k ∈ sources) ∧
        ∀ label ∈ p.sinkLabels, ∃ sink ∈ p.partialSinks, sink.label = label ∧
          .ofPartial sink ∈ sinks) ∧
      cover = ⟨p.allSources.inter sources, p.partialSinks.asKinds.inter sinks, .empty⟩ := by
  simp only [cover?, Option.bind_eq_bind, Option.bind_eq_some_iff,
    usedByLabel?_sources_eq_some_iff, usedByLabel?_sinks_eq_some_iff]
  constructor
  · rintro ⟨_, ⟨hsources, rfl⟩, _, ⟨hsinks, rfl⟩, made⟩
    cases made
    exact ⟨⟨hsources, hsinks⟩, rfl⟩
  · rintro ⟨⟨hsources, hsinks⟩, rfl⟩
    exact ⟨_, ⟨hsources, rfl⟩, _, ⟨hsinks, rfl⟩, rfl⟩

theorem ExploitabilityPattern.cover?_eq_some_iff {p : ExploitabilityPattern} :
    p.cover? sources sinks = some cover ↔
      ((∃ k ∈ p.effectSources, k ∈ sources) ∧ (∃ k ∈ p.sources, k ∈ sources) ∧
        ∃ k ∈ p.sinks, k ∈ sinks) ∧
      cover = ⟨(p.sources.union p.effectSources).inter sources, p.sinks.inter sinks, .empty⟩ := by
  have union_inter : (p.sources.inter sources).union (p.effectSources.inter sources) =
      (p.sources.union p.effectSources).inter sources := by
    ext k
    simp [or_and_right]
  simp only [cover?, Option.bind_eq_bind, Option.bind_eq_some_iff, SortedSet.common?_eq_some_iff]
  constructor
  · rintro ⟨_, ⟨heffect, rfl⟩, _, ⟨hsources, rfl⟩, _, ⟨hsinks, rfl⟩, made⟩
    cases made
    exact ⟨⟨heffect, hsources, hsinks⟩, by rw [union_inter]⟩
  · rintro ⟨⟨heffect, hsources, hsinks⟩, rfl⟩
    exact ⟨_, ⟨heffect, rfl⟩, _, ⟨hsources, rfl⟩, _, ⟨hsinks, rfl⟩, by rw [union_inter]; rfl⟩

/-- A rule has a cover when it is covered, and then the cover is what it has in common with the used
kinds and transforms. -/
theorem Rule.cover?_eq_some_iff {r : Rule} :
    r.cover? sources sinks transforms = some cover ↔
      r.IsCovered sources sinks transforms ∧ cover = r.usedPart sources sinks transforms := by
  obtain ⟨name, code, description, pattern⟩ := r
  cases pattern with
  | sourceSink p => exact SourceSinkPattern.cover?_eq_some_iff
  | multiSource p => exact MultiSourcePattern.cover?_eq_some_iff
  | exploitability p => exact ExploitabilityPattern.cover?_eq_some_iff

theorem Rule.isSome_cover?_iff {r : Rule} :
    (r.cover? sources sinks transforms).isSome = true ↔ r.IsCovered sources sinks transforms := by
  rw [Option.isSome_iff_exists]
  constructor
  · rintro ⟨cover, h⟩
    exact (cover?_eq_some_iff.1 h).1
  · intro covered
    exact ⟨_, cover?_eq_some_iff.2 ⟨covered, rfl⟩⟩

instance (r : Rule) : Decidable (r.IsCovered sources sinks transforms) :=
  decidable_of_iff _ Rule.isSome_cover?_iff

end Patterns

end TaintFlow
