import TaintFlow.Proofs.Issue.Lattice
import TaintFlow.Proofs.Taint.Filter

/-!
# Filtered issues

A filter of the sources of an issue may leave none, and then the sinks are gone as well.  So it is
not the filter of taints on one half of the issue: whether the other half stays depends on what the
test says of all kinds together.  For the order of issues this does not matter, since an issue
without sources is bottom whatever its sinks are, and filters are monotone.  It matters for joins.
If one of two issues loses all its sources, its sinks are missing where the filtered issues are
joined, but not where the join is filtered.

What is said of sources holds of sinks, with the two halves exchanged (`Issue.swapped`), and is
proved for sources only.  `Issue.filtered_issue_laws` has all of it.
-/

namespace TaintFlow

namespace Issue

variable {i j : Issue} {p q : Taint.Test}

/-! ## Filtered halves -/

theorem filterSources_eq : i.filterSources p =
    if (i.sources.filter p).isBottom then i.emptied
    else { i with sources := i.sources.filter p } := rfl

theorem filterSinks_eq : i.filterSinks p =
    if (i.sinks.filter p).isBottom then i.emptied
    else { i with sinks := i.sinks.filter p } := rfl

theorem filterSources_of_empty (none : (i.sources.filter p).isBottom = true) :
    i.filterSources p = i.emptied := by
  rw [filterSources_eq, if_pos none]

theorem filterSources_of_full (left : (i.sources.filter p).isBottom = false) :
    i.filterSources p = { i with sources := i.sources.filter p } := by
  rw [filterSources_eq, left]
  rfl

theorem filterSinks_of_empty (none : (i.sinks.filter p).isBottom = true) :
    i.filterSinks p = i.emptied := by
  rw [filterSinks_eq, if_pos none]

theorem filterSinks_of_full (left : (i.sinks.filter p).isBottom = false) :
    i.filterSinks p = { i with sinks := i.sinks.filter p } := by
  rw [filterSinks_eq, left]
  rfl

/-- Filters of the two halves commute: they leave what passes of either half, if something does of
both. -/
theorem filterSinks_filterSources :
    (i.filterSources p).filterSinks q = (i.filterSinks q).filterSources p := by
  cases sources : (i.sources.filter p).isBottom with
  | true =>
      rw [filterSources_of_empty sources]
      cases sinks : (i.sinks.filter q).isBottom with
      | true =>
          rw [filterSinks_of_empty sinks]
          rfl
      | false =>
          rw [filterSinks_of_full sinks]
          exact (filterSources_of_empty (i := { i with sinks := i.sinks.filter q }) sources).symm
  | false =>
      rw [filterSources_of_full sources]
      cases sinks : (i.sinks.filter q).isBottom with
      | true =>
          rw [filterSinks_of_empty sinks]
          exact filterSinks_of_empty (i := { i with sources := i.sources.filter p }) sinks
      | false =>
          rw [filterSinks_of_full sinks,
            filterSources_of_full (i := { i with sinks := i.sinks.filter q }) sources]
          exact filterSinks_of_full (i := { i with sources := i.sources.filter p }) sinks

theorem filterSources_filterSources :
    (i.filterSources p).filterSources q = i.filterSources (p.both q) := by
  cases left : (i.sources.filter p).isBottom with
  | true =>
      -- Nothing is left for the second test.
      have none : (i.sources.filter (p.both q)).isBottom = true := by
        rw [← Taint.filter_filter, Taint.isBottom_iff_eq.1 left]
        rfl
      rw [filterSources_of_empty left, filterSources_of_empty none]
      rfl
  | false =>
      rw [filterSources_of_full left, filterSources_eq, filterSources_eq, ← Taint.filter_filter]
      rfl

/-- An issue of which no source is left is bottom. -/
theorem isBottom_filterSources :
    (i.filterSources p).isBottom = (i.isBottom || (i.sources.filter p).isBottom) := by
  cases left : (i.sources.filter p).isBottom with
  | true =>
      rw [filterSources_of_empty left, Bool.or_true]
      rfl
  | false =>
      -- What is left was there before.
      have sources : i.sources.isBottom = false :=
        Taint.isBottom_eq_false_of_le Taint.filter_le left
      rw [filterSources_of_full left, isBottom, isBottom, left, sources, Bool.or_false]

theorem isBottom_filterSources_eq_false_iff : (i.filterSources p).isBottom = false ↔
    i.isBottom = false ∧ (i.sources.filter p).isBottom = false := by
  rw [isBottom_filterSources, Bool.or_eq_false_iff]

/-! ## The order -/

theorem Below.filterSources (h : i.Below j) : (i.filterSources p).Below (j.filterSources p) := by
  cases hi : (i.filterSources p).isBottom with
  | true => exact .of_isBottom hi
  | false =>
      obtain ⟨fullI, leftI⟩ := isBottom_filterSources_eq_false_iff.1 hi
      obtain ⟨fullJ, sources, sinks⟩ := h.parts fullI
      have le : i.sources.filter p ≤ j.sources.filter p := Taint.filter_mono sources
      have leftJ : (j.sources.filter p).isBottom = false := Taint.isBottom_eq_false_of_le le leftI
      refine Or.inr ⟨isBottom_filterSources_eq_false_iff.2 ⟨fullJ, leftJ⟩, ?_⟩
      rw [filterSources_of_full leftI, filterSources_of_full leftJ]
      exact ⟨le, sinks⟩

/-- Joining filtered issues leaves nothing in that a filter of the join would not. -/
theorem united_filterSources_below :
    (united Taint.join (i.filterSources p) (j.filterSources p)).Below
      ((united Taint.join i j).filterSources p) :=
  united_below below_united_left.filterSources below_united_right.filterSources

/-- Joining filtered issues leaves nothing out if the filter treats both issues alike. -/
theorem filterSources_united_below (hi : i.isBottom = false) (hj : j.isBottom = false)
    (alike : (i.filterSources p).isBottom = (j.filterSources p).isBottom) :
    ((united Taint.join i j).filterSources p).Below
      (united Taint.join (i.filterSources p) (j.filterSources p)) := by
  have whole : united Taint.join i j = combined Taint.join i j := by
    rw [united, hi, hj]
    rfl
  rw [whole]
  cases left : (i.sources.filter p).isBottom with
  | true =>
      have bottomI : (i.filterSources p).isBottom = true := by
        rw [isBottom_filterSources, left, Bool.or_true]
      have leftJ : (j.sources.filter p).isBottom = true := by
        rw [bottomI, isBottom_filterSources, hj, Bool.false_or] at alike
        exact alike.symm
      have none : ((i.sources.join j.sources).filter p).isBottom = true := by
        rw [Taint.filter_join, Taint.isBottom_join, left, leftJ]
        rfl
      refine .of_isBottom ?_
      rw [isBottom_filterSources]
      exact Bool.or_eq_true_iff.2 (Or.inr none)
  | false =>
      have fullI := isBottom_filterSources_eq_false_iff.2 ⟨hi, left⟩
      have fullJ : (j.filterSources p).isBottom = false := alike ▸ fullI
      have leftJ := (isBottom_filterSources_eq_false_iff.1 fullJ).2
      have leftBoth : ((combined Taint.join i j).sources.filter p).isBottom = false := by
        show ((i.sources.join j.sources).filter p).isBottom = false
        rw [Taint.filter_join, Taint.isBottom_join, left]
        rfl
      rw [united, fullI, fullJ]
      refine Or.inr ⟨isBottom_combined_join fullI, ?_⟩
      rw [filterSources_of_full leftBoth, filterSources_of_full left, filterSources_of_full leftJ]
      exact ⟨Taint.filter_join.le, le_refl _⟩

/-! ## Halves exchanged -/

/-- The issue with its halves exchanged. -/
def swapped (i : Issue) : Issue := { i with sources := i.sinks, sinks := i.sources }

theorem swapped_swapped : i.swapped.swapped = i := rfl

theorem isBottom_swapped : i.swapped.isBottom = i.isBottom := by
  simp only [isBottom, swapped, Bool.or_comm i.sinks.isBottom]

theorem filterSinks_eq_swapped : i.filterSinks p = (i.swapped.filterSources p).swapped := by
  rw [filterSinks_eq, filterSources_eq, apply_ite swapped]
  rfl

theorem clash_swapped : i.swapped.Clash j.swapped ↔ i.Clash j := by
  rw [Clash, Clash, isBottom_swapped, isBottom_swapped]
  rfl

theorem below_swapped : i.swapped.Below j.swapped ↔ i.Below j := by
  rw [Below, Below, isBottom_swapped, isBottom_swapped]
  exact or_congr_right (and_congr_right fun _ => and_comm)

theorem leq_swapped : i.swapped.leq j.swapped = i.leq j := by
  simp only [leq_eq, clash_swapped, below_swapped]

theorem equals_swapped : i.swapped.equals j.swapped = i.equals j := by
  rw [equals, equals, leq_swapped, leq_swapped]

theorem united_swapped {combine : Taint → Taint → Taint} :
    united combine i.swapped j.swapped = (united combine i j).swapped := by
  rw [united, united, isBottom_swapped, isBottom_swapped, apply_ite swapped, apply_ite swapped]
  rfl

theorem join_swapped : i.swapped.join j.swapped = (i.join j).map swapped := by
  rw [join, join, unite_eq, unite_eq, united_swapped]
  simp only [clash_swapped]
  split <;> rfl

theorem filterSinks_filterSinks : (i.filterSinks p).filterSinks q = i.filterSinks (p.both q) := by
  simp only [filterSinks_eq_swapped, swapped_swapped, filterSources_filterSources]

/-- An issue of which no sink is left is bottom. -/
theorem isBottom_filterSinks :
    (i.filterSinks p).isBottom = (i.isBottom || (i.sinks.filter p).isBottom) := by
  rw [filterSinks_eq_swapped, isBottom_swapped, isBottom_filterSources, isBottom_swapped]
  rfl

/-! ## The laws -/

/-- What the filters of sources and of sinks have in common.

* They change nothing but the taints of an issue, and they are monotone.
* Filtered issues have a join below the filtered join.  The two are equal if the filter leaves
  something of both issues, or of neither. -/
structure FilterLaws (filter : Issue → Issue) : Prop where
  rest (i : Issue) : (filter i).rule = i.rule ∧ (filter i).callee = i.callee ∧
    (filter i).sinkIndex = i.sinkIndex ∧ (filter i).position = i.position
  monotone (i j : Issue) : i.leq j = .ok true → (filter i).leq (filter j) = .ok true
  join (i j : Issue) : i.isBottom = false → j.isBottom = false → i.groupKey = j.groupKey →
    ∃ joined whole, (filter i).join (filter j) = .ok joined ∧ i.join j = .ok whole ∧
      joined.leq (filter whole) = .ok true ∧
      ((filter i).isBottom = (filter j).isBottom → joined.equals (filter whole) = .ok true)

theorem groupKey_filterSources : (i.filterSources p).groupKey = i.groupKey := by
  rw [filterSources_eq]
  split <;> rfl

theorem Clash.of_filterSources (clash : (i.filterSources p).Clash (j.filterSources p)) :
    i.Clash j := by
  obtain ⟨fullI, fullJ, other⟩ := clash
  rw [groupKey_filterSources, groupKey_filterSources] at other
  rw [isBottom_filterSources_eq_false_iff] at fullI fullJ
  exact ⟨fullI.1, fullJ.1, other⟩

theorem InGroup.filterSources {key : GroupKey} (hi : i.InGroup key) :
    (i.filterSources p).InGroup key := by
  rcases hi with bottom | same
  · left
    rw [isBottom_filterSources, bottom]
    rfl
  · exact Or.inr (groupKey_filterSources.trans same)

theorem filterLaws_filterSources : FilterLaws (filterSources · p) where
  rest i := by
    simp only [filterSources_eq]
    split <;> exact ⟨rfl, rfl, rfl, rfl⟩
  monotone i j le := by
    obtain ⟨free, below⟩ := leq_eq_ok_true_iff.1 le
    exact leq_eq_ok_true_iff.2 ⟨fun clash => free clash.of_filterSources, below.filterSources⟩
  join i j hi hj same := by
    have groupI : i.InGroup j.groupKey := Or.inr same
    have groupJ : j.InGroup j.groupKey := Or.inr rfl
    have groupI' : (i.filterSources p).InGroup j.groupKey := groupI.filterSources
    have groupJ' : (j.filterSources p).InGroup j.groupKey := groupJ.filterSources
    have joined : (united Taint.join (i.filterSources p) (j.filterSources p)).InGroup j.groupKey :=
      groupI'.united groupJ'
    have whole : ((united Taint.join i j).filterSources p).InGroup j.groupKey :=
      (groupI.united groupJ).filterSources
    refine ⟨united Taint.join (i.filterSources p) (j.filterSources p), united Taint.join i j,
      ?_, ?_, ?_, fun alike => ?_⟩
    · rw [join, unite_eq, if_neg (groupI'.not_clash groupJ')]
    · rw [join, unite_eq, if_neg (groupI.not_clash groupJ)]
    · exact (joined.leq_eq_ok_true_iff whole).2 united_filterSources_below
    · rw [joined.equals_eq_ok_true_iff whole]
      exact ⟨united_filterSources_below, filterSources_united_below hi hj alike⟩

/-- The laws do not tell the halves apart. -/
theorem FilterLaws.swapped {filter : Issue → Issue} (laws : FilterLaws filter) :
    FilterLaws fun i => (filter i.swapped).swapped where
  rest i := laws.rest i.swapped
  monotone i j le := by
    rw [leq_swapped]
    exact laws.monotone i.swapped j.swapped (leq_swapped.trans le)
  join i j hi hj same := by
    obtain ⟨joined, whole, hjoined, hwhole, le, equal⟩ := laws.join i.swapped j.swapped
      (isBottom_swapped.trans hi) (isBottom_swapped.trans hj) same
    refine ⟨joined.swapped, whole.swapped, ?_, ?_, ?_, fun alike => ?_⟩
    · rw [join_swapped, hjoined]
      rfl
    · rw [← swapped_swapped (i := i), ← swapped_swapped (i := j), join_swapped, hwhole]
      rfl
    · exact leq_swapped.trans le
    · rw [isBottom_swapped, isBottom_swapped] at alike
      exact equals_swapped.trans (equal alike)

theorem filterLaws_filterSinks : FilterLaws (filterSinks · p) := by
  have same : (fun i => (i.swapped.filterSources p).swapped) = (filterSinks · p) :=
    funext fun _ => filterSinks_eq_swapped.symm
  exact same ▸ filterLaws_filterSources.swapped

/-- The filters of sources and of sinks.  They commute with each other, each of them twice is the
filter by both tests, and both have the laws of filters.  What was not bottom becomes so exactly
when none of the sources, or of the sinks, passes. -/
theorem filtered_issue_laws (p q : Taint.Test) :
    (∀ i : Issue, (i.filterSources p).filterSinks q = (i.filterSinks q).filterSources p) ∧
      (∀ i : Issue, (i.filterSources p).filterSources q = i.filterSources (p.both q)) ∧
      (∀ i : Issue, (i.filterSinks p).filterSinks q = i.filterSinks (p.both q)) ∧
      (∀ i : Issue,
        (i.filterSources p).isBottom = (i.isBottom || (i.sources.filter p).isBottom) ∧
          (i.filterSinks q).isBottom = (i.isBottom || (i.sinks.filter q).isBottom)) ∧
      FilterLaws (filterSources · p) ∧ FilterLaws (filterSinks · q) := by
  refine ⟨?_, ?_, ?_, ?_, filterLaws_filterSources, filterLaws_filterSinks⟩
  · intro i
    exact filterSinks_filterSources
  · intro i
    exact filterSources_filterSources
  · intro i
    exact filterSinks_filterSinks
  · intro i
    exact ⟨isBottom_filterSources, isBottom_filterSinks⟩

/-- An issue with another source than `sampleIssue`. -/
def sampleSecond : Issue :=
  { sampleIssue "n" "Y" 2 with sources := Taint.sampleTaint "B" ["n"] }

/-- The source of the second issue is filtered away.  Its sink is then missing in the join of the
filtered issues, which is still below the filtered join. -/
theorem filtered_issue_laws_samples :
    ∃ joined whole,
      ((sampleIssue "m" "X" 1).filterSources fun _ _ kind => kind = .named "A").join
          (sampleSecond.filterSources fun _ _ kind => kind = .named "A") = .ok joined ∧
        (sampleIssue "m" "X" 1).join sampleSecond = .ok whole ∧
        joined.leq (whole.filterSources fun _ _ kind => kind = .named "A") = .ok true ∧
        joined.equals (whole.filterSources fun _ _ kind => kind = .named "A") = .ok false := by
  obtain ⟨_, _, _, _, laws, _⟩ := filtered_issue_laws (fun _ _ kind => kind = .named "A")
    (fun _ _ kind => kind = .named "A")
  obtain ⟨joined, whole, hjoined, hwhole, le, _⟩ :=
    laws.join (sampleIssue "m" "X" 1) sampleSecond rfl rfl rfl
  refine ⟨joined, whole, hjoined, hwhole, le, ?_⟩
  cases hjoined
  cases hwhole
  rfl

end Issue

end TaintFlow
