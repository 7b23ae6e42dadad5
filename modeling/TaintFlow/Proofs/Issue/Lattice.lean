import TaintFlow.Issue.Basic
import TaintFlow.Proofs.Checked
import TaintFlow.Proofs.Taint.Lattice

/-!
# The lattice of a group of issues

Issues can be combined when they belong to the same group, or when one of them is bottom, whatever
group it has.  Otherwise the operations fail, and this is the only way in which they do
(`Issue.Clash`).

Within a group the issues are ordered by what their sources and sinks are (`Issue.Below`), and all
issues that are bottom are below all others.  This is a preorder and not more: neither positions nor
what is left of an issue that is bottom matter.  A join is a least upper bound for it and a meet is
a greatest lower bound.  The meet empties the issue that it would leave with sources only, or with
sinks only, and no issue but a bottom one lies below it then.
-/

namespace TaintFlow

namespace Issue

/-! ## Groups -/

/-- The issues that can be combined with those of a group: the issues of the group, and every one
that is bottom. -/
def InGroup (key : GroupKey) (i : Issue) : Prop := i.isBottom = true ∨ i.groupKey = key

/-- Two issues cannot be combined when neither is bottom and their groups differ. -/
def Clash (i j : Issue) : Prop :=
  i.isBottom = false ∧ j.isBottom = false ∧ i.groupKey ≠ j.groupKey

instance (i j : Issue) : Decidable (i.Clash j) := inferInstanceAs (Decidable (_ ∧ _ ∧ _))

variable {key : GroupKey} {i j k : Issue}

theorem InGroup.not_clash (hi : i.InGroup key) (hj : j.InGroup key) : ¬i.Clash j := by
  rintro ⟨fullI, fullJ, other⟩
  rcases hi with hi | rfl
  · simp [fullI] at hi
  · rcases hj with hj | hj
    · simp [fullJ] at hj
    · exact other hj.symm

theorem Clash.requireSameGroup_eq (clash : i.Clash j) :
    i.requireSameGroup j = .error (.contract .issuesOfGroups) := by
  rw [requireSameGroup, if_neg]
  exact fun same => clash.2.2 (sameGroup_iff.1 same)

theorem requireSameGroup_eq_ok (free : ¬i.Clash j) (hi : i.isBottom = false)
    (hj : j.isBottom = false) : i.requireSameGroup j = .ok () := by
  rw [requireSameGroup, if_pos]
  refine sameGroup_iff.2 (Classical.byContradiction fun other => ?_)
  exact free ⟨hi, hj, other⟩

/-! ## What the operations return -/

/-- The order of issues.  Only bottom issues are below a bottom one. -/
def Below (i j : Issue) : Prop :=
  i.isBottom = true ∨ j.isBottom = false ∧ i.sources ≤ j.sources ∧ i.sinks ≤ j.sinks

instance (i j : Issue) : Decidable (i.Below j) :=
  inferInstanceAs (Decidable (_ ∨ _ ∧ (_ = true) ∧ (_ = true)))

/-- The issue `i` with the taints of two issues combined. -/
def combined (combine : Taint → Taint → Taint) (i j : Issue) : Issue :=
  { i with sources := combine i.sources j.sources, sinks := combine i.sinks j.sinks }

/-- What uniting two issues returns that do not clash. -/
def united (combine : Taint → Taint → Taint) (i j : Issue) : Issue :=
  if j.isBottom then i else if i.isBottom then j else combined combine i j

/-- What restricting an issue to another one returns when they do not clash. -/
def restricted (combine : Taint → Taint → Taint) (i j : Issue) : Issue :=
  if i.isBottom then i
  else if j.isBottom || (combine i.sources j.sources).isBottom ||
      (combine i.sinks j.sinks).isBottom then i.emptied
  else combined combine i j

theorem leq_eq : i.leq j =
    if i.Clash j then .error (.contract .issuesOfGroups) else .ok (decide (i.Below j)) := by
  by_cases clash : i.Clash j
  · rw [if_pos clash, leq, clash.1, clash.2.1, clash.requireSameGroup_eq]
    rfl
  · rw [if_neg clash, leq]
    cases hi : i.isBottom with
    | true => simp [Below, hi]
    | false =>
        cases hj : j.isBottom with
        | true => simp [Below, hi, hj]
        | false =>
            rw [requireSameGroup_eq_ok clash hi hj]
            refine congrArg Except.ok (Bool.eq_iff_iff.2 ?_)
            rw [decide_eq_true_iff, Bool.and_eq_true, Below, hi, hj, eq_self_iff_true, true_and]
            exact (or_iff_right Bool.noConfusion).symm

/-- Whatever their groups, `leq` answers that issues are in order when they do not clash and are. -/
theorem leq_eq_ok_true_iff : i.leq j = .ok true ↔ ¬i.Clash j ∧ i.Below j := by
  rw [leq_eq]
  by_cases clash : i.Clash j <;> simp [clash]

theorem unite_eq {combine : Taint → Taint → Taint} : unite combine i j =
    if i.Clash j then .error (.contract .issuesOfGroups) else .ok (united combine i j) := by
  by_cases clash : i.Clash j
  · rw [if_pos clash, unite, clash.1, clash.2.1, clash.requireSameGroup_eq]
    rfl
  · rw [if_neg clash, unite, united]
    cases hj : j.isBottom with
    | true => rfl
    | false =>
        cases hi : i.isBottom with
        | true => rfl
        | false =>
            rw [requireSameGroup_eq_ok clash hi hj]
            rfl

theorem restrict_eq {combine : Taint → Taint → Taint} : restrict combine i j =
    if i.Clash j then .error (.contract .issuesOfGroups) else .ok (restricted combine i j) := by
  by_cases clash : i.Clash j
  · rw [if_pos clash, restrict, clash.1, clash.2.1, clash.requireSameGroup_eq]
    rfl
  · rw [if_neg clash, restrict, restricted]
    cases hi : i.isBottom with
    | true => rfl
    | false =>
        cases hj : j.isBottom with
        | true => rfl
        | false =>
            rw [requireSameGroup_eq_ok clash hi hj]
            rfl

theorem Clash.symm (clash : i.Clash j) : j.Clash i :=
  ⟨clash.2.1, clash.1, Ne.symm clash.2.2⟩

theorem equals_eq : i.equals j =
    if i.Clash j then .error (.contract .issuesOfGroups)
    else .ok (decide (i.Below j ∧ j.Below i)) := by
  by_cases clash : i.Clash j
  · rw [if_pos clash, equals, leq_eq, if_pos clash]
    rfl
  · have clash' : ¬j.Clash i := fun clash' => clash clash'.symm
    rw [if_neg clash, equals, leq_eq, if_neg clash, leq_eq, if_neg clash', Checked.bind_ok]
    by_cases below : i.Below j <;> simp [below]

/-! ## The order -/

namespace Below

theorem of_isBottom (h : i.isBottom = true) : i.Below j := Or.inl h

/-- Above an issue that is not bottom there are others that are not, with all its taints. -/
theorem parts (h : i.Below j) (hi : i.isBottom = false) :
    j.isBottom = false ∧ i.sources ≤ j.sources ∧ i.sinks ≤ j.sinks :=
  h.resolve_left (by simp [hi])

theorem refl (i : Issue) : i.Below i := by
  cases h : i.isBottom with
  | true => exact .of_isBottom h
  | false => exact Or.inr ⟨h, le_refl _, le_refl _⟩

theorem trans (hij : i.Below j) (hjk : j.Below k) : i.Below k := by
  rcases hij with hi | ⟨hj, sources, sinks⟩
  · exact .of_isBottom hi
  · obtain ⟨hk, sources', sinks'⟩ := hjk.parts hj
    exact Or.inr ⟨hk, sources.trans sources', sinks.trans sinks'⟩

end Below

/-- Issues are below each other when both are bottom, or when neither is and their taints are the
same. -/
theorem below_and_below_iff : i.Below j ∧ j.Below i ↔
    i.isBottom = true ∧ j.isBottom = true ∨
      i.isBottom = false ∧ j.isBottom = false ∧ i.sources = j.sources ∧ i.sinks = j.sinks := by
  constructor
  · rintro ⟨hij, hji⟩
    rcases hij with hi | ⟨hj, sources, sinks⟩
    · rcases hji with hj | ⟨hi', _⟩
      · exact Or.inl ⟨hi, hj⟩
      · simp [hi] at hi'
    · obtain ⟨hi, sources', sinks'⟩ := hji.parts hj
      exact Or.inr ⟨hi, hj, le_antisymm sources sources', le_antisymm sinks sinks'⟩
  · rintro (⟨hi, hj⟩ | ⟨hi, hj, sources, sinks⟩)
    · exact ⟨.of_isBottom hi, .of_isBottom hj⟩
    · exact ⟨Or.inr ⟨hj, sources.le, sinks.le⟩, Or.inr ⟨hi, sources.ge, sinks.ge⟩⟩

/-- An issue that is not bottom is missing no part. -/
theorem isBottom_eq_false_iff : i.isBottom = false ↔
    i.sources.isBottom = false ∧ i.sinks.isBottom = false ∧ i.rule.isNone = false ∧
      i.position.isNone = false := by
  simp only [Issue.isBottom, Bool.or_eq_false_iff, and_assoc]

theorem isBottom_combined {combine : Taint → Taint → Taint} (hi : i.isBottom = false) :
    (combined combine i j).isBottom =
      ((combine i.sources j.sources).isBottom || (combine i.sinks j.sinks).isBottom) := by
  obtain ⟨_, _, rule, position⟩ := isBottom_eq_false_iff.1 hi
  simp [Issue.isBottom, combined, rule, position]

/-! ## Joins -/

/-- Joining leaves nothing out, so the join of issues that are not bottom is not bottom. -/
theorem isBottom_combined_join (hi : i.isBottom = false) :
    (combined Taint.join i j).isBottom = false := by
  obtain ⟨sources, sinks, _⟩ := isBottom_eq_false_iff.1 hi
  have sources' : (i.sources.join j.sources).isBottom = false :=
    Taint.isBottom_eq_false_of_le le_sup_left sources
  have sinks' : (i.sinks.join j.sinks).isBottom = false :=
    Taint.isBottom_eq_false_of_le le_sup_left sinks
  rw [isBottom_combined hi, sources', sinks']
  rfl

theorem below_united_left : i.Below (united Taint.join i j) := by
  cases hi : i.isBottom with
  | true => exact .of_isBottom hi
  | false =>
      rw [united, hi]
      split
      next => exact .refl i
      next => exact Or.inr ⟨isBottom_combined_join hi, le_sup_left, le_sup_left⟩

theorem below_united_right : j.Below (united Taint.join i j) := by
  cases hj : j.isBottom with
  | true => exact .of_isBottom hj
  | false =>
      rw [united, hj, if_neg Bool.noConfusion]
      cases hi : i.isBottom with
      | true => exact .refl j
      | false => exact Or.inr ⟨isBottom_combined_join hi, le_sup_right, le_sup_right⟩

theorem united_below (hik : i.Below k) (hjk : j.Below k) : (united Taint.join i j).Below k := by
  rw [united]
  split
  next => exact hik
  next fullJ =>
    split
    next => exact hjk
    next fullI =>
      rw [Bool.not_eq_true] at fullI fullJ
      obtain ⟨fullK, sources, sinks⟩ := hik.parts fullI
      obtain ⟨_, sources', sinks'⟩ := hjk.parts fullJ
      exact Or.inr ⟨fullK, sup_le sources sources', sup_le sinks sinks'⟩

theorem InGroup.united {combine : Taint → Taint → Taint} (hi : i.InGroup key)
    (hj : j.InGroup key) : (united combine i j).InGroup key := by
  rw [Issue.united]
  split
  next => exact hi
  next =>
    split
    next => exact hj
    next fullI => exact Or.inr (hi.resolve_left fullI)

/-! ## Meets -/

theorem restricted_below_left : (restricted Taint.meet i j).Below i := by
  rw [restricted]
  split
  next => exact .refl i
  next fullI =>
    split
    next => exact .of_isBottom rfl
    next => exact Or.inr ⟨by simpa using fullI, inf_le_left, inf_le_left⟩

theorem restricted_below_right : (restricted Taint.meet i j).Below j := by
  rw [restricted]
  split
  next bottomI => exact .of_isBottom bottomI
  next =>
    split
    next => exact .of_isBottom rfl
    next full =>
      simp only [Bool.or_eq_true, not_or, Bool.not_eq_true] at full
      exact Or.inr ⟨full.1.1, inf_le_right, inf_le_right⟩

theorem below_restricted (hki : k.Below i) (hkj : k.Below j) :
    k.Below (restricted Taint.meet i j) := by
  cases hk : k.isBottom with
  | true => exact .of_isBottom hk
  | false =>
      obtain ⟨fullI, sources, sinks⟩ := hki.parts hk
      obtain ⟨fullJ, sources', sinks'⟩ := hkj.parts hk
      obtain ⟨fullSources, fullSinks, _⟩ := isBottom_eq_false_iff.1 hk
      -- The taints of `k` are left, so neither of the two meets is empty.
      have meetSources : (i.sources.meet j.sources).isBottom = false :=
        Taint.isBottom_eq_false_of_le (le_inf sources sources') fullSources
      have meetSinks : (i.sinks.meet j.sinks).isBottom = false :=
        Taint.isBottom_eq_false_of_le (le_inf sinks sinks') fullSinks
      have full : (combined Taint.meet i j).isBottom = false := by
        rw [isBottom_combined fullI, meetSources, meetSinks]
        rfl
      rw [restricted, fullI, fullJ, meetSources, meetSinks]
      exact Or.inr ⟨full, le_inf sources sources', le_inf sinks sinks'⟩

theorem InGroup.restricted {combine : Taint → Taint → Taint} (hi : i.InGroup key) :
    (restricted combine i j).InGroup key := by
  rw [Issue.restricted]
  split
  next => exact hi
  next fullI =>
    split
    next => exact Or.inl rfl
    next => exact Or.inr (hi.resolve_left fullI)

/-! ## The laws of a group -/

/-- In a group, `leq` answers with the order of issues. -/
theorem InGroup.leq_eq_ok_true_iff (hi : i.InGroup key) (hj : j.InGroup key) :
    i.leq j = .ok true ↔ i.Below j := by
  rw [leq_eq, if_neg (hi.not_clash hj)]
  simp

/-- In a group, `equals` asks for the order in both directions. -/
theorem InGroup.equals_eq_ok_true_iff (hi : i.InGroup key) (hj : j.InGroup key) :
    i.equals j = .ok true ↔ i.Below j ∧ j.Below i := by
  rw [equals_eq, if_neg (hi.not_clash hj)]
  simp

/-- `u` is a least one of the issues of a group that are above `i` and `j`. -/
structure IsLeastAbove (key : GroupKey) (i j u : Issue) : Prop where
  inGroup : u.InGroup key
  left : i.leq u = .ok true
  right : j.leq u = .ok true
  least (k : Issue) : k.InGroup key → i.leq k = .ok true → j.leq k = .ok true →
    u.leq k = .ok true

/-- `u` is a greatest one of the issues of a group that are below `i` and `j`. -/
structure IsGreatestBelow (key : GroupKey) (i j u : Issue) : Prop where
  inGroup : u.InGroup key
  left : u.leq i = .ok true
  right : u.leq j = .ok true
  greatest (k : Issue) : k.InGroup key → k.leq i = .ok true → k.leq j = .ok true →
    k.leq u = .ok true

theorem isLeastAbove_united (hi : i.InGroup key) (hj : j.InGroup key) :
    IsLeastAbove key i j (united Taint.join i j) := by
  have hu : (united Taint.join i j).InGroup key := hi.united hj
  refine ⟨hu, ?_, ?_, ?_⟩
  · exact (hi.leq_eq_ok_true_iff hu).2 below_united_left
  · exact (hj.leq_eq_ok_true_iff hu).2 below_united_right
  · intro k hk hik hjk
    rw [hi.leq_eq_ok_true_iff hk] at hik
    rw [hj.leq_eq_ok_true_iff hk] at hjk
    exact (hu.leq_eq_ok_true_iff hk).2 (united_below hik hjk)

theorem isGreatestBelow_restricted (hi : i.InGroup key) (hj : j.InGroup key) :
    IsGreatestBelow key i j (restricted Taint.meet i j) := by
  have hu : (restricted Taint.meet i j).InGroup key := hi.restricted
  refine ⟨hu, ?_, ?_, ?_⟩
  · exact (hu.leq_eq_ok_true_iff hi).2 restricted_below_left
  · exact (hu.leq_eq_ok_true_iff hj).2 restricted_below_right
  · intro k hk hki hkj
    rw [hk.leq_eq_ok_true_iff hi] at hki
    rw [hk.leq_eq_ok_true_iff hj] at hkj
    exact (hk.leq_eq_ok_true_iff hu).2 (below_restricted hki hkj)

/-- The lattice of a group of issues, and the one way in which the operations on issues fail. -/
theorem group_lattice_laws :
    (∀ (key : GroupKey) (i j k : Issue), i.InGroup key → j.InGroup key → k.InGroup key →
      (∃ answer, i.leq j = .ok answer) ∧
      i.leq i = .ok true ∧
      (i.leq j = .ok true → j.leq k = .ok true → i.leq k = .ok true) ∧
      (∃ answer, i.equals j = .ok answer ∧ (answer = true ↔
        i.isBottom = true ∧ j.isBottom = true ∨
          i.isBottom = false ∧ j.isBottom = false ∧ i.sources = j.sources ∧ i.sinks = j.sinks)) ∧
      (∃ u, i.join j = .ok u ∧ i.widen j = .ok u ∧ IsLeastAbove key i j u) ∧
      (∃ u, i.meet j = .ok u ∧ i.narrow j = .ok u ∧ IsGreatestBelow key i j u)) ∧
    ∀ (i j : Issue) (e : Failure),
      (i.leq j = .error e ↔ i.Clash j ∧ e = .contract .issuesOfGroups) ∧
      (i.join j = .error e ↔ i.Clash j ∧ e = .contract .issuesOfGroups) ∧
      (i.widen j = .error e ↔ i.Clash j ∧ e = .contract .issuesOfGroups) ∧
      (i.meet j = .error e ↔ i.Clash j ∧ e = .contract .issuesOfGroups) ∧
      (i.narrow j = .error e ↔ i.Clash j ∧ e = .contract .issuesOfGroups) := by
  constructor
  · intro key i j k hi hj hk
    have free : ¬i.Clash j := hi.not_clash hj
    refine ⟨?_, ?_, ?_, ?_, ?_, ?_⟩
    · rw [leq_eq, if_neg free]
      exact ⟨_, rfl⟩
    · exact (hi.leq_eq_ok_true_iff hi).2 (.refl i)
    · rw [hi.leq_eq_ok_true_iff hj, hj.leq_eq_ok_true_iff hk, hi.leq_eq_ok_true_iff hk]
      exact Below.trans
    · rw [equals_eq, if_neg free]
      refine ⟨_, rfl, ?_⟩
      rw [decide_eq_true_iff, below_and_below_iff]
    · refine ⟨united Taint.join i j, ?_, ?_, isLeastAbove_united hi hj⟩
      · rw [join, unite_eq, if_neg free]
      · rw [widen, unite_eq, if_neg free]
        rfl
    · refine ⟨restricted Taint.meet i j, ?_, ?_, isGreatestBelow_restricted hi hj⟩
      · rw [meet, restrict_eq, if_neg free]
      · rw [narrow, restrict_eq, if_neg free]
        rfl
  · intro i j e
    refine ⟨?_, ?_, ?_, ?_, ?_⟩
    · rw [leq_eq, Checked.ite_eq_error_iff]
    · rw [join, unite_eq, Checked.ite_eq_error_iff]
    · rw [widen, unite_eq, Checked.ite_eq_error_iff]
    · rw [meet, restrict_eq, Checked.ite_eq_error_iff]
    · rw [narrow, restrict_eq, Checked.ite_eq_error_iff]

def sampleRule : Rule where
  name := "Sample"
  code := 1
  description := ""
  pattern := .sourceSink ⟨.ofList [.named "A"], .ofList [.named "X"], [], rfl, rfl⟩

/-- An issue of `sampleRule` with one source and one sink. -/
def sampleIssue (origin sink : String) (line : Int32) : Issue :=
  make (Taint.sampleTaint "A" [origin]) (Taint.sampleTaint sink []) sampleRule .unresolved 1
    (.ofLine none line)

/-- Sources without sinks, in another group. -/
def sampleHalf : Issue := { bottom with sources := Taint.sampleTaint "B" [] }

/-- Two issues of a group with a common source and no common sink, and an issue that is bottom. -/
theorem group_lattice_laws_samples :
    (sampleIssue "m" "X" 1).InGroup (sampleIssue "n" "Y" 2).groupKey ∧
      sampleHalf.InGroup (sampleIssue "n" "Y" 2).groupKey ∧
      sampleHalf.groupKey ≠ (sampleIssue "n" "Y" 2).groupKey ∧
      (sampleIssue "m" "X" 1).equals (sampleIssue "m" "X" 2) = .ok true ∧
      (∃ u, (sampleIssue "m" "X" 1).join sampleHalf = .ok u ∧
        IsLeastAbove (sampleIssue "n" "Y" 2).groupKey (sampleIssue "m" "X" 1) sampleHalf u) ∧
      (∃ u, (sampleIssue "m" "X" 1).meet (sampleIssue "n" "Y" 2) = .ok u ∧ u.isBottom = true ∧
        IsGreatestBelow (sampleIssue "n" "Y" 2).groupKey (sampleIssue "m" "X" 1)
          (sampleIssue "n" "Y" 2) u) ∧
      (sampleIssue "m" "X" 1).join { sampleIssue "n" "Y" 2 with sinkIndex := 2 } =
        .error (.contract .issuesOfGroups) := by
  have hi : (sampleIssue "m" "X" 1).InGroup (sampleIssue "n" "Y" 2).groupKey := Or.inr rfl
  have hj : (sampleIssue "n" "Y" 2).InGroup (sampleIssue "n" "Y" 2).groupKey := Or.inr rfl
  have hsame : (sampleIssue "m" "X" 2).InGroup (sampleIssue "n" "Y" 2).groupKey := Or.inr rfl
  have hhalf : sampleHalf.InGroup (sampleIssue "n" "Y" 2).groupKey := Or.inl rfl
  obtain ⟨laws, failures⟩ := group_lattice_laws
  refine ⟨hi, hhalf, by decide, ?_, ?_, ?_, ?_⟩
  · obtain ⟨_, _, _, ⟨answer, hanswer, iff⟩, _⟩ := laws _ _ _ _ hi hsame hj
    rw [hanswer, iff.2 (Or.inr ⟨rfl, rfl, rfl, rfl⟩)]
  · obtain ⟨_, _, _, _, ⟨u, joined, _, least⟩, _⟩ := laws _ _ _ _ hi hhalf hj
    exact ⟨u, joined, least⟩
  · obtain ⟨_, _, _, _, _, u, met, _, greatest⟩ := laws _ _ _ _ hi hj hhalf
    refine ⟨u, met, ?_, greatest⟩
    cases met
    rfl
  · exact (failures _ _ _).2.1.2 ⟨⟨rfl, rfl, by decide⟩, rfl⟩

end Issue

end TaintFlow
