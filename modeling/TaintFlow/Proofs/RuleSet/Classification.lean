import Mathlib.Logic.Basic
import TaintFlow.Proofs.RuleSet.Matching

/-!
# Covered and uncovered codes

A coverage files each rule of a set under its code, either with its cover or as uncovered.  The
codes of a set are distinct, so each of them is found in one of the two places, and no other code is
found in either (`RuleSet.Built.covers_or_mem_uncovered_iff`).

What a rule needs is that used kinds and transforms meet its sets, and its cover is what they have
in common with them.  More of them can only meet more, so a covered rule stays covered when models
use more, and its cover only grows (`Rule.IsCovered.mono`, `Rule.usedPart_mono`).  Both are
assembled in `RuleSet.coverage_exact_and_monotone`, for sets of any rules.
-/

namespace TaintFlow

/-! ## Covers -/

namespace Cover

/-- The cover holds the used sources, sinks and transforms of a rule and nothing else. -/
structure IsUsedPart (c : Cover) (r : Rule) (sources sinks : KindSet) (transforms : TransformSet) :
    Prop where
  sources (k : Kind) : k ∈ c.sources ↔ k ∈ r.sourceKinds ∧ k ∈ sources
  sinks (k : Kind) : k ∈ c.sinks ↔ k ∈ r.sinkKinds ∧ k ∈ sinks
  transforms (t : Transform) : t ∈ c.transforms ↔ t ∈ r.transforms ∧ t ∈ transforms

/-- All that the cover `c` holds is in the cover `d`. -/
structure Within (c d : Cover) : Prop where
  sources : ∀ k ∈ c.sources, k ∈ d.sources
  sinks : ∀ k ∈ c.sinks, k ∈ d.sinks
  transforms : ∀ t ∈ c.transforms, t ∈ d.transforms

end Cover

namespace Rule

variable {r : Rule} {sources sinks sources' sinks' : KindSet}
  {transforms transforms' : TransformSet}

theorem isUsedPart_usedPart :
    (r.usedPart sources sinks transforms).IsUsedPart r sources sinks transforms where
  sources _ := SortedSet.mem_inter
  sinks _ := SortedSet.mem_inter
  transforms _ := by rw [usedPart, SortedSet.mem_inter, SortedSet.mem_ofList]

/-! ## More used kinds and transforms -/

theorem usedPart_mono (moreSources : ∀ k ∈ sources, k ∈ sources')
    (moreSinks : ∀ k ∈ sinks, k ∈ sinks') (moreTransforms : ∀ t ∈ transforms, t ∈ transforms') :
    (r.usedPart sources sinks transforms).Within (r.usedPart sources' sinks' transforms') where
  sources k hk := by
    obtain ⟨declared, used⟩ := SortedSet.mem_inter.1 hk
    exact SortedSet.mem_inter.2 ⟨declared, moreSources k used⟩
  sinks k hk := by
    obtain ⟨declared, used⟩ := SortedSet.mem_inter.1 hk
    exact SortedSet.mem_inter.2 ⟨declared, moreSinks k used⟩
  transforms t ht := by
    obtain ⟨declared, used⟩ := SortedSet.mem_inter.1 ht
    exact SortedSet.mem_inter.2 ⟨declared, moreTransforms t used⟩

/-- A covered rule stays covered. -/
theorem IsCovered.mono (covered : r.IsCovered sources sinks transforms)
    (moreSources : ∀ k ∈ sources, k ∈ sources') (moreSinks : ∀ k ∈ sinks, k ∈ sinks')
    (moreTransforms : ∀ t ∈ transforms, t ∈ transforms') :
    r.IsCovered sources' sinks' transforms' := by
  have meets {used more : KindSet} (within : ∀ k ∈ used, k ∈ more) {kinds : KindSet} :
      (∃ k ∈ kinds, k ∈ used) → ∃ k ∈ kinds, k ∈ more := by
    rintro ⟨k, hk, common⟩
    exact ⟨k, hk, within k common⟩
  obtain ⟨name, code, description, pattern⟩ := r
  cases pattern with
  | sourceSink p =>
      obtain ⟨usedSource, usedSink, usedTransform⟩ := covered
      refine ⟨meets moreSources usedSource, meets moreSinks usedSink, usedTransform.imp_right ?_⟩
      rintro ⟨t, ht, used⟩
      exact ⟨t, ht, moreTransforms t used⟩
  | multiSource p =>
      obtain ⟨usedSources, usedSinks⟩ := covered
      refine ⟨fun kinds hkinds => meets moreSources (usedSources kinds hkinds), ?_⟩
      intro label hlabel
      obtain ⟨partialSink, hsink, same, used⟩ := usedSinks label hlabel
      exact ⟨partialSink, hsink, same, moreSinks _ used⟩
  | exploitability p =>
      obtain ⟨usedEffect, usedSource, usedSink⟩ := covered
      exact ⟨meets moreSources usedEffect, meets moreSources usedSource, meets moreSinks usedSink⟩

end Rule

/-! ## Where a code is found -/

/-- The uncovered codes are those of the rules without a cover. -/
theorem Coverage.mem_uncovered_ofRules {sources sinks : KindSet} {transforms : TransformSet}
    {l : List Rule} {code : Int64} :
    code ∈ (ofRules sources sinks transforms l).uncovered ↔
      ∃ r ∈ l, r.cover? sources sinks transforms = none ∧ r.code = code := by
  induction l using List.reverseRecOn with
  | nil => simp [ofRules]
  | append_singleton l r ih =>
      rw [ofRules_concat]
      cases h : r.cover? sources sinks transforms with
      | some cover =>
          show code ∈ (ofRules sources sinks transforms l).uncovered ↔ _
          simp [ih, h, or_and_right, exists_or]
      | none =>
          show code ∈ (ofRules sources sinks transforms l).uncovered.insert r.code ↔ _
          rw [SortedSet.mem_insert, ih]
          simp [h, or_and_right, exists_or, or_comm, eq_comm]

namespace RuleSet

variable {l : List Rule} {set : RuleSet} {sources sinks : KindSet} {transforms : TransformSet}

namespace Built

/-- Each code of a set is that of one of its rules. -/
theorem exists_mem_toList_iff (built : Built l set) {code : Int64} :
    (∃ r ∈ set.toList, r.code = code) ↔ code ∈ l.map Rule.code := by
  rw [← Rule.mem_codes_kept, List.mem_map]
  exact exists_congr fun r => and_congr_left fun _ => built.mem_toList_iff

/-- A cover that is found under a code is that of a covered rule of the set. -/
theorem exists_of_get?_covered (built : Built l set) {code : Int64} {cover : Cover}
    (found : (set.coverage sources sinks transforms).covered.get? code = some cover) :
    ∃ r ∈ set.toList, r.code = code ∧ r.IsCovered sources sinks transforms ∧
      cover = r.usedPart sources sinks transforms := by
  rw [coverage, Coverage.get?_covered_ofRules built.holds.pairwise_toList] at found
  obtain ⟨r, hr, found⟩ := Option.bind_eq_some_iff.1 found
  obtain ⟨covered, same⟩ := Rule.cover?_eq_some_iff.1 found
  exact ⟨r, List.mem_of_find?_eq_some hr, by simpa using List.find?_some hr, covered, same⟩

/-- A rule is found as uncovered exactly when it is not covered. -/
theorem mem_uncovered_iff (built : Built l set) {r : Rule} (hr : r ∈ set.toList) :
    r.code ∈ (set.coverage sources sinks transforms).uncovered ↔
      ¬r.IsCovered sources sinks transforms := by
  rw [coverage, Coverage.mem_uncovered_ofRules, ← Rule.isSome_cover?_iff, Bool.not_eq_true,
    Option.isSome_eq_false_iff, Option.isNone_iff_eq_none]
  constructor
  · rintro ⟨other, hother, uncovered, same⟩
    have found := Rule.find?_code_eq_some built.holds.pairwise_toList hother
    rw [same, Rule.find?_code_eq_some built.holds.pairwise_toList hr] at found
    cases found
    exact uncovered
  · intro uncovered
    exact ⟨r, hr, uncovered, rfl⟩

/-- The codes that are found are those of the rules that were added. -/
theorem covers_or_mem_uncovered_iff (built : Built l set) {code : Int64} :
    (set.coverage sources sinks transforms).covers code = true ∨
        code ∈ (set.coverage sources sinks transforms).uncovered ↔
      code ∈ l.map Rule.code := by
  rw [← built.exists_mem_toList_iff]
  constructor
  · rintro (covered | uncovered)
    · obtain ⟨cover, found⟩ := Option.isSome_iff_exists.1 covered
      obtain ⟨r, hr, same, _⟩ := built.exists_of_get?_covered found
      exact ⟨r, hr, same⟩
    · obtain ⟨r, hr, _, same⟩ := Coverage.mem_uncovered_ofRules.1 uncovered
      exact ⟨r, hr, same⟩
  · rintro ⟨r, hr, rfl⟩
    rw [built.covers_iff (built.mem_toList_iff.1 hr), built.mem_uncovered_iff hr]
    exact Classical.em _

end Built

/-! ## The coverage of a set -/

/-- The coverage of the rules of a list, whichever they are, for any used kinds and transforms.

* The codes that it reports are those of the list, each either as covered or as uncovered.
* A rule of the set is reported as covered when the used kinds and transforms meet all that it
  needs.  Its cover is then what it has in common with them, effect sources included, without
  transforms if the rule asks for none.
* With more used kinds and transforms the same rules are covered at least, with all that was in
  their covers. -/
theorem coverage_exact_and_monotone (built : Built l set) (sources sinks : KindSet)
    (transforms : TransformSet) :
    (∀ code : Int64,
      ((set.coverage sources sinks transforms).covers code = true ∨
          code ∈ (set.coverage sources sinks transforms).uncovered ↔ code ∈ l.map Rule.code) ∧
        ¬((set.coverage sources sinks transforms).covers code = true ∧
          code ∈ (set.coverage sources sinks transforms).uncovered)) ∧
    (∀ r ∈ set.toList,
      ((set.coverage sources sinks transforms).covers r.code = true ↔
          r.IsCovered sources sinks transforms) ∧
        ∀ cover, (set.coverage sources sinks transforms).covered.get? r.code = some cover →
          cover.IsUsedPart r sources sinks transforms ∧
            (r.transforms = [] → cover.transforms = .empty)) ∧
    ∀ (sources' sinks' : KindSet) (transforms' : TransformSet),
      (∀ k ∈ sources, k ∈ sources') → (∀ k ∈ sinks, k ∈ sinks') →
      (∀ t ∈ transforms, t ∈ transforms') → ∀ code cover,
        (set.coverage sources sinks transforms).covered.get? code = some cover →
          ∃ cover', (set.coverage sources' sinks' transforms').covered.get? code = some cover' ∧
            cover.Within cover' := by
  refine ⟨fun code => ⟨built.covers_or_mem_uncovered_iff, ?once⟩, fun r hr => ⟨?covered, ?cover⟩,
    ?monotone⟩
  case once =>
    rintro ⟨found, uncovered⟩
    obtain ⟨cover, found⟩ := Option.isSome_iff_exists.1 found
    obtain ⟨r, hr, rfl, covered, _⟩ := built.exists_of_get?_covered found
    exact (built.mem_uncovered_iff hr).1 uncovered covered
  case covered => exact built.covers_iff (built.mem_toList_iff.1 hr)
  case cover =>
    intro cover found
    rw [built.get?_covered_coverage (built.mem_toList_iff.1 hr)] at found
    obtain ⟨_, rfl⟩ := Rule.cover?_eq_some_iff.1 found
    refine ⟨Rule.isUsedPart_usedPart, fun none => ?_⟩
    ext t
    simp [Rule.usedPart, none]
  case monotone =>
    intro sources' sinks' transforms' moreSources moreSinks moreTransforms code cover found
    obtain ⟨r, hr, rfl, covered, rfl⟩ := built.exists_of_get?_covered found
    have stays := covered.mono moreSources moreSinks moreTransforms
    exact ⟨_, built.get?_covered_of_isCovered (built.mem_toList_iff.1 hr) stays,
      Rule.usedPart_mono moreSources moreSinks moreTransforms⟩

/-- One source covers a multi-source rule if it belongs to both labels.  Another source adds to the
cover, and an effect source covers the rule that needs it. -/
theorem coverage_exact_and_monotone_samples :
    Built samples (ofList samples).value ∧ sampleLabels ∈ (ofList samples).value.toList ∧
      sampleEffect ∈ (ofList samples).value.toList ∧
      (∀ k ∈ SortedSet.ofList [Kind.named "A"], k ∈ sampleSources) ∧
      ((ofList samples).value.coverage (.ofList [.named "A"]) sampleSinks .empty).covers 3 = false ∧
      ((ofList samples).value.coverage sampleSources sampleSinks .empty).covers 3 = true ∧
      ∃ cover cover',
        ((ofList samples).value.coverage (.ofList [.named "A"]) sampleSinks .empty).covered.get? 2 =
          some cover ∧
        ((ofList samples).value.coverage sampleSources sampleSinks .empty).covered.get? 2 =
          some cover' ∧
        cover.Within cover' ∧ .named "B" ∉ cover.sources ∧ .named "B" ∈ cover'.sources := by
  obtain ⟨_, few, monotone⟩ := coverage_exact_and_monotone (.ofList samples)
    (.ofList [.named "A"]) sampleSinks .empty
  obtain ⟨_, many, _⟩ := coverage_exact_and_monotone (.ofList samples) sampleSources sampleSinks
    .empty
  have labels : sampleLabels ∈ (ofList samples).value.toList := by decide
  have effect : sampleEffect ∈ (ofList samples).value.toList := by decide
  have more : ∀ k ∈ SortedSet.ofList [Kind.named "A"], k ∈ sampleSources := by decide
  obtain ⟨cover, found⟩ := Option.isSome_iff_exists.1 ((few _ labels).1.2 (by decide))
  obtain ⟨cover', found', within⟩ := monotone _ sampleSinks .empty more (fun _ hk => hk)
    (fun _ ht => ht) _ _ found
  refine ⟨.ofList samples, labels, effect, more, ?_, (many _ effect).1.2 (by decide), cover, cover',
    found, found', within, ?_, ?_⟩
  · rw [Bool.eq_false_iff]
    exact fun covered => absurd ((few _ effect).1.1 covered) (by decide)
  · intro used
    exact absurd ((((few _ labels).2 cover found).1.sources _).1 used) (by decide)
  · exact (((many _ labels).2 cover' found').1.sources _).2 (by decide)

end RuleSet

end TaintFlow
