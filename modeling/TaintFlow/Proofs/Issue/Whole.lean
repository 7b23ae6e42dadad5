import TaintFlow.Proofs.Issue.Lattice

/-!
# Issues that are whole

An issue can lose its sources or its sinks alone, and is bottom then, but with one half of it left.
No operation leaves such a half: an issue of which one side is filtered away or shared with no other
is emptied on both sides, and a bottom issue that is joined is replaced.

`Issue.Reached` lists the operations from which issues come, starting with the bottom issue and with
issues that have sources and sinks.  `Issue.Whole` is the invariant that each of them keeps.
Nothing can be added to it, since every whole issue is reached (`Issue.reached_iff_whole`).
-/

namespace TaintFlow

namespace Issue

variable {i j k : Issue}

/-! ## Where issues come from -/

/-- The issue with a part of its sources.  Without sources it is emptied. -/
def keepSources (i : Issue) (part : Taint) : Issue :=
  if part.isBottom then i.emptied else { i with sources := part }

/-- The issue with a part of its sinks.  Without sinks it is emptied. -/
def keepSinks (i : Issue) (part : Taint) : Issue :=
  if part.isBottom then i.emptied else { i with sinks := part }

/-- The issues that come from complete ones by the operations on issues.  A test that remembers
what it was asked before keeps some part of a taint that depends on more than the taint;
`keepSources` and `keepSinks` stand for any such part. -/
inductive Reached : Issue → Prop where
  | bottom : Reached .bottom
  | make {sources sinks : Taint} (hasSources : sources.isBottom = false)
      (hasSinks : sinks.isBottom = false) (rule : Rule) (callee : Callee) (sinkIndex : UInt32)
      (position : Position) : Reached (.make sources sinks rule callee sinkIndex position)
  | filterSources {i : Issue} (reached : Reached i) (p : Taint.Test) : Reached (i.filterSources p)
  | filterSinks {i : Issue} (reached : Reached i) (p : Taint.Test) : Reached (i.filterSinks p)
  | keepSources {i : Issue} (reached : Reached i) {part : Taint} (le : part ≤ i.sources) :
      Reached (i.keepSources part)
  | keepSinks {i : Issue} (reached : Reached i) {part : Taint} (le : part ≤ i.sinks) :
      Reached (i.keepSinks part)
  | join {i j k : Issue} (left : Reached i) (right : Reached j) (joined : i.join j = .ok k) :
      Reached k
  | widen {i j k : Issue} (left : Reached i) (right : Reached j) (widened : i.widen j = .ok k) :
      Reached k
  | meet {i j k : Issue} (left : Reached i) (right : Reached j) (met : i.meet j = .ok k) :
      Reached k
  | narrow {i j k : Issue} (left : Reached i) (right : Reached j) (narrowed : i.narrow j = .ok k) :
      Reached k
  | emptied {i : Issue} (reached : Reached i) : Reached i.emptied

/-! ## The invariant -/

/-- A bottom issue has neither sources nor sinks left, and every issue beside the first one has a
rule and a position. -/
structure Whole (i : Issue) : Prop where
  empty : i.isBottom = true → i.sources = .bottom ∧ i.sinks = .bottom
  placed : i = .bottom ∨ ∃ rule position, i.rule = some rule ∧ i.position = some position

theorem exists_rule_position (h : i.isBottom = false) :
    ∃ rule position, i.rule = some rule ∧ i.position = some position := by
  obtain ⟨_, _, hasRule, hasPosition⟩ := isBottom_eq_false_iff.1 h
  rw [Option.isNone_eq_false_iff, Option.isSome_iff_exists] at hasRule hasPosition
  obtain ⟨rule, hrule⟩ := hasRule
  obtain ⟨position, hposition⟩ := hasPosition
  exact ⟨rule, position, hrule, hposition⟩

theorem whole_bottom : Whole .bottom where
  empty _ := ⟨rfl, rfl⟩
  placed := Or.inl rfl

/-- An issue that is not bottom has all its parts. -/
theorem whole_of_isBottom_eq_false (h : i.isBottom = false) : i.Whole where
  empty bottom := by simp [h] at bottom
  placed := Or.inr (exists_rule_position h)

namespace Whole

theorem emptied (whole : i.Whole) : i.emptied.Whole where
  empty _ := ⟨rfl, rfl⟩
  placed := by
    rcases whole.placed with rfl | placed
    · exact Or.inl rfl
    · exact Or.inr placed

/-- A whole issue that has sources or sinks is not bottom. -/
theorem isBottom_eq_false (whole : i.Whole)
    (h : i.sources.isBottom = false ∨ i.sinks.isBottom = false) : i.isBottom = false := by
  rw [Bool.eq_false_iff]
  intro bottom
  obtain ⟨sources, sinks⟩ := whole.empty bottom
  rw [sources, sinks] at h
  rcases h with h | h <;> cases h

theorem keepSources (whole : i.Whole) {part : Taint} (le : part ≤ i.sources) :
    (i.keepSources part).Whole := by
  rw [Issue.keepSources]
  split
  next => exact whole.emptied
  next left =>
    rw [Bool.not_eq_true] at left
    have full : i.isBottom = false :=
      whole.isBottom_eq_false (Or.inl (Taint.isBottom_eq_false_of_le le left))
    obtain ⟨_, sinks, placed⟩ := isBottom_eq_false_iff.1 full
    exact whole_of_isBottom_eq_false (isBottom_eq_false_iff.2 ⟨left, sinks, placed⟩)

theorem keepSinks (whole : i.Whole) {part : Taint} (le : part ≤ i.sinks) :
    (i.keepSinks part).Whole := by
  rw [Issue.keepSinks]
  split
  next => exact whole.emptied
  next left =>
    rw [Bool.not_eq_true] at left
    have full : i.isBottom = false :=
      whole.isBottom_eq_false (Or.inr (Taint.isBottom_eq_false_of_le le left))
    obtain ⟨sources, _, placed⟩ := isBottom_eq_false_iff.1 full
    exact whole_of_isBottom_eq_false (isBottom_eq_false_iff.2 ⟨sources, left, placed⟩)

/-- Joining two issues gives one of them, or an issue with the taints of both. -/
theorem unite (wholeI : i.Whole) (wholeJ : j.Whole) (h : i.unite Taint.join j = .ok k) :
    k.Whole := by
  rw [unite_eq] at h
  split at h
  next => cases h
  next =>
    cases h
    rw [united]
    split
    next => exact wholeI
    next =>
      split
      next => exact wholeJ
      next full =>
        rw [Bool.not_eq_true] at full
        exact whole_of_isBottom_eq_false (isBottom_combined_join full)

/-- Restricting an issue leaves it as it is, or emptied, or with something on either side. -/
theorem restrict {combine : Taint → Taint → Taint} (whole : i.Whole)
    (h : i.restrict combine j = .ok k) : k.Whole := by
  rw [restrict_eq] at h
  split at h
  next => cases h
  next =>
    cases h
    rw [restricted]
    split
    next => exact whole
    next full =>
      split
      next => exact whole.emptied
      next left =>
        rw [Bool.not_eq_true] at full left
        rw [Bool.or_assoc, Bool.or_eq_false_iff] at left
        exact whole_of_isBottom_eq_false ((isBottom_combined full).trans left.2)

end Whole

/-- Every operation keeps the invariant. -/
theorem Reached.whole (reached : i.Reached) : i.Whole := by
  induction reached with
  | bottom => exact whole_bottom
  | make hasSources hasSinks =>
      refine whole_of_isBottom_eq_false (isBottom_eq_false_iff.2 ?_)
      exact ⟨hasSources, hasSinks, rfl, rfl⟩
  | filterSources _ _ ih => exact ih.keepSources Taint.filter_le
  | filterSinks _ _ ih => exact ih.keepSinks Taint.filter_le
  | keepSources _ le ih => exact ih.keepSources le
  | keepSinks _ le ih => exact ih.keepSinks le
  | join _ _ joined left right => exact left.unite right joined
  | widen _ _ widened left right => exact left.unite right widened
  | meet _ _ met left _ => exact left.restrict met
  | narrow _ _ narrowed left _ => exact left.restrict narrowed
  | emptied _ ih => exact ih.emptied

/-- The invariant leaves room for no others than the issues that are reached. -/
theorem Whole.reached (whole : i.Whole) : i.Reached := by
  rcases whole.placed with rfl | ⟨rule, position, hrule, hposition⟩
  · exact .bottom
  · obtain ⟨sources, sinks, _, callee, sinkIndex, _⟩ := i
    cases hrule
    cases hposition
    cases h : Issue.isBottom ⟨sources, sinks, some rule, callee, sinkIndex, some position⟩ with
    | true =>
        -- It comes from any complete issue with its rule, callee and position.
        obtain ⟨rfl, rfl⟩ := whole.empty h
        have taints : (Taint.ofFrame .default (.named "") []).isBottom = false := rfl
        exact (Reached.make taints taints rule callee sinkIndex position).emptied
    | false =>
        obtain ⟨hasSources, hasSinks, _⟩ := isBottom_eq_false_iff.1 h
        exact .make hasSources hasSinks rule callee sinkIndex position

theorem reached_iff_whole : i.Reached ↔ i.Whole := ⟨Reached.whole, Whole.reached⟩

/-! ## Neither half is left alone -/

/-- An issue that is reached is bottom when it has no sources, and when it has no sinks, and has
neither when it is bottom.  If it is not, it has a rule and a position. -/
theorem halves_of_reached (reached : i.Reached) :
    (i.isBottom = true ↔ i.sources.isBottom = true) ∧
      (i.isBottom = true ↔ i.sinks.isBottom = true) ∧
      (i.isBottom = false → ∃ rule position, i.rule = some rule ∧ i.position = some position) := by
  have whole : i.Whole := reached.whole
  refine ⟨⟨?_, ?_⟩, ⟨?_, ?_⟩, exists_rule_position⟩
  · intro bottom
    rw [(whole.empty bottom).1]
    rfl
  · intro bottom
    simp [Issue.isBottom, bottom]
  · intro bottom
    rw [(whole.empty bottom).2]
    rfl
  · intro bottom
    simp [Issue.isBottom, bottom]

/-- An issue of which the only source was filtered away. -/
def sampleFiltered : Issue :=
  (sampleIssue "m" "X" 1).filterSources fun _ _ kind => kind ≠ .named "A"

/-- An issue of another rule. -/
def sampleOther : Issue :=
  { sampleIssue "n" "Y" 2 with rule := some { sampleRule with code := 2 } }

/-- The filtered issue has lost its sink as well but not its rule, and is replaced when the other
one is joined to it. -/
theorem halves_of_reached_samples :
    sampleFiltered.Reached ∧ sampleFiltered.ruleCode = some 1 ∧
      sampleFiltered.sources.isBottom = true ∧ sampleFiltered.sinks.isBottom = true ∧
      sampleFiltered.join sampleOther = .ok sampleOther ∧ sampleOther.Reached ∧
      sampleOther.isBottom = false ∧ sampleOther.sources.isBottom = false ∧
      ∃ rule position, sampleOther.rule = some rule ∧ sampleOther.position = some position := by
  have filtered : sampleFiltered.Reached := .filterSources (.make rfl rfl ..) _
  have other : sampleOther.Reached := .make rfl rfl ..
  have joined : sampleFiltered.join sampleOther = .ok sampleOther := rfl
  have full : sampleOther.isBottom = false := rfl
  obtain ⟨_, sinks, _⟩ := halves_of_reached filtered
  obtain ⟨sources, _, placed⟩ := halves_of_reached (filtered.join other joined)
  refine ⟨filtered, rfl, rfl, sinks.1 rfl, joined, other, full, ?_, placed full⟩
  rw [Bool.eq_false_iff, ne_eq, ← sources, full]
  exact Bool.noConfusion

end Issue

end TaintFlow
