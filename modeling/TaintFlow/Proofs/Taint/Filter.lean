import TaintFlow.Proofs.Taint.Lattice

/-!
# Filtered taints

A test is asked about the kinds of a taint, each on its frame, and nothing else: neither the origins
of the kind nor what else is held there.  So every fact passes a test or not by itself
(`Taint.Fact.Passes`), and a filter leaves the facts that pass (`Taint.mem_filter`).

What is said here of filters follows from that.  They commute with joins and meets, and what they
leave is the greatest part of a taint of which every kind passes (`Taint.filtered_taint_laws`).
-/

namespace TaintFlow.Taint

variable {a b t : Taint} {p q : Test}

/-! ## Facts that pass a test -/

/-- Does a test let the kind of a fact through?  It does not see the origin. -/
def Fact.Passes (p : Test) : Fact → Prop
  | .held frame kind | .introduced frame kind _ => p frame.callee frame.port kind = true

theorem mem_filter {f : Fact} : f ∈ t.filter p ↔ f ∈ t ∧ f.Passes p := by
  cases f with
  | held frame kind =>
      simp only [held_mem_iff, origins?_filter, Fact.Passes]
      split <;> simp [*]
  | introduced frame kind origin =>
      simp only [introduced_mem_iff, origins?_filter, Fact.Passes]
      split <;> simp [*]

/-- The test of the kinds that pass two tests. -/
def Test.both (p q : Test) : Test := fun callee port kind =>
  p callee port kind && q callee port kind

theorem Fact.passes_both_iff {f : Fact} : f.Passes (p.both q) ↔ f.Passes p ∧ f.Passes q := by
  cases f <;> exact Bool.and_eq_true_iff

/-- Filtering twice is filtering once, by both tests. -/
theorem filter_filter : (t.filter p).filter q = t.filter (p.both q) :=
  ext_facts fun _ => by simp only [mem_filter, Fact.passes_both_iff, and_assoc]

/-! ## Filters and the lattice -/

theorem filter_join : (a.join b).filter p = (a.filter p).join (b.filter p) :=
  ext_facts fun _ => by simp only [mem_filter, mem_join, or_and_right]

theorem filter_meet : (a.meet b).filter p = (a.filter p).meet (b.filter p) :=
  ext_facts fun _ => by rw [mem_filter, mem_meet, mem_meet, mem_filter, mem_filter, and_and_right]

theorem filter_mono (le : a ≤ b) : a.filter p ≤ b.filter p := by
  refine le_iff_facts.2 fun f hf => ?_
  obtain ⟨ha, passes⟩ := mem_filter.1 hf
  exact mem_filter.2 ⟨le_iff_facts.1 le f ha, passes⟩

/-! ## What a filter leaves -/

/-- Does every kind of a taint pass a test on its frame? -/
def AllPass (p : Test) (t : Taint) : Prop :=
  ∀ frame kind origins, t.origins? frame kind = some origins →
    p frame.callee frame.port kind = true

/-- The facts of a taint pass a test when its kinds do. -/
theorem allPass_iff : t.AllPass p ↔ ∀ f ∈ t, f.Passes p := by
  constructor
  · intro h f hf
    cases f with
    | held frame kind =>
        obtain ⟨origins, held⟩ := hf
        exact h frame kind origins held
    | introduced frame kind origin =>
        obtain ⟨origins, held, _⟩ := hf
        exact h frame kind origins held
  · intro h frame kind origins held
    exact h (.held frame kind) ⟨origins, held⟩

/-- A filter leaves the greatest part of a taint of which every kind passes. -/
theorem isGreatest_filter : IsGreatest {t | t ≤ a ∧ t.AllPass p} (a.filter p) := by
  constructor
  · refine ⟨filter_le, allPass_iff.2 fun f hf => ?_⟩
    exact (mem_filter.1 hf).2
  · rintro t ⟨le, pass⟩
    refine le_iff_facts.2 fun f hf => mem_filter.2 ⟨?_, ?_⟩
    · exact le_iff_facts.1 le f hf
    · exact allPass_iff.1 pass f hf

/-- A kind that is left has the origins that it had before. -/
theorem origins?_filter_eq_some_iff {frame : Frame} {kind : Kind} {origins : SortedSet String} :
    (t.filter p).origins? frame kind = some origins ↔
      t.origins? frame kind = some origins ∧ p frame.callee frame.port kind = true := by
  rw [origins?_filter]
  split <;> simp [*]

/-- The frames of a taint are those on which it holds a kind. -/
theorem mem_frameList_iff {frame : Frame} :
    frame ∈ t.frameList ↔ ∃ kind origins, t.origins? frame kind = some origins := by
  rw [frameList, ← SortedMap.isSome_get?_iff, Option.isSome_iff_exists]
  simp only [origins?_eq_some_iff]
  constructor
  · rintro ⟨kinds, hkinds⟩
    obtain ⟨kind, origins, hkind⟩ :=
      SortedMap.exists_get?_of_isEmpty_eq_false (t.nonempty frame kinds hkinds)
    exact ⟨kind, origins, kinds, hkinds, hkind⟩
  · rintro ⟨_, _, kinds, hkinds, _⟩
    exact ⟨kinds, hkinds⟩

/-- Filters commute with all four operations of the lattice.  A filter leaves the greatest part of a
taint of which every kind passes.  The kinds that are left have the origins that they had before,
and the frames that are left are those on which there still is a kind. -/
theorem filtered_taint_laws (p : Test) (a b : Taint) :
    (a.join b).filter p = (a.filter p).join (b.filter p) ∧
      (a.widen b).filter p = (a.filter p).widen (b.filter p) ∧
      (a.meet b).filter p = (a.filter p).meet (b.filter p) ∧
      (a.narrow b).filter p = (a.filter p).narrow (b.filter p) ∧
      IsGreatest {t | t ≤ a ∧ t.AllPass p} (a.filter p) ∧
      (∀ frame kind origins, (a.filter p).origins? frame kind = some origins ↔
        a.origins? frame kind = some origins ∧ p frame.callee frame.port kind = true) ∧
      ∀ frame, frame ∈ (a.filter p).frameList ↔
        ∃ kind origins, a.origins? frame kind = some origins ∧
          p frame.callee frame.port kind = true := by
  refine ⟨filter_join, filter_join, filter_meet, filter_meet, isGreatest_filter, ?_, ?_⟩
  · intro frame kind origins
    exact origins?_filter_eq_some_iff
  · intro frame
    simp only [mem_frameList_iff, origins?_filter_eq_some_iff]

/-- The meet keeps the kind that passes without an origin, and the frame with it. -/
example :
    (((sampleTaint "A" ["m"]).join (sampleTaint "B" ["m"])).meet (sampleTaint "A" ["n"])).filter
      (fun _ _ kind => kind = .named "A") = sampleTaint "A" [] := by decide

end TaintFlow.Taint
