import Mathlib.Order.Bounds.Lattice
import TaintFlow.Proofs.Taint.Facts

/-!
# The lattice of taints

Taints are ordered by `Taint.leq`.  Their facts make them a sublattice of the sets of facts, so they
are a distributive lattice with the join and the meet of taints, and with the empty taint at the
bottom.

`Taint.Built` lists the operations from which taints come.  Every taint comes from them
(`Taint.built`), by adding its kinds one after the other, so the laws of the lattice
(`Taint.built_and_lattice_laws`) speak about no taints beside those that can be built.
-/

namespace TaintFlow.Taint

/-! ## The lattice -/

instance : LE Taint := ⟨fun a b => a.leq b = true⟩

instance : LT Taint := ⟨fun a b => a ≤ b ∧ ¬b ≤ a⟩

instance : Max Taint := ⟨join⟩

instance : Min Taint := ⟨meet⟩

theorem le_iff_facts {a b : Taint} : a ≤ b ↔ ∀ f ∈ a, f ∈ b := leq_iff

/-- The facts of a taint as a set. -/
def factSet (t : Taint) : Set Fact := {f | f ∈ t}

theorem factSet_injective : Function.Injective factSet :=
  fun _ _ h => ext_facts (Set.ext_iff.1 h)

instance : DistribLattice Taint :=
  factSet_injective.distribLattice factSet leq_iff.symm
    (and_congr leq_iff.symm (not_congr leq_iff.symm))
    (fun _ _ => Set.ext fun _ => mem_join) (fun _ _ => Set.ext fun _ => mem_meet)

instance : OrderBot Taint where
  bot := bottom
  bot_le _ := le_iff_facts.2 fun _ h => absurd h not_mem_bottom

/-- Taints that hold the same are equal. -/
theorem equals_iff {a b : Taint} : a.equals b = true ↔ a = b := by
  rw [equals, Bool.and_eq_true]
  exact (le_antisymm_iff (a := a) (b := b)).symm

/-- Above a taint that is not empty there are no empty ones. -/
theorem isBottom_eq_false_of_le {a b : Taint} (h : a ≤ b) (ha : a.isBottom = false) :
    b.isBottom = false := by
  rw [Bool.eq_false_iff, ne_eq, isBottom_iff_eq] at ha ⊢
  rintro rfl
  exact ha (le_bot_iff.1 h)

/-- A join is empty when both of its parts are. -/
theorem isBottom_join {a b : Taint} : (a.join b).isBottom = (a.isBottom && b.isBottom) := by
  rw [Bool.eq_iff_iff, Bool.and_eq_true, isBottom_iff_eq, isBottom_iff_eq, isBottom_iff_eq]
  exact sup_eq_bot_iff

/-- A filter leaves a part of a taint. -/
theorem filter_le {t : Taint} {p : Test} : t.filter p ≤ t := by
  refine leq_iff_origins.2 fun frame kind origins held => ?_
  rw [origins?_filter] at held
  split at held
  next => exact ⟨origins, held, fun _ mem => mem⟩
  next => cases held

/-! ## Joins of lists -/

/-- The join of all taints of a list. -/
def joinAll (l : List Taint) : Taint := l.foldr join bottom

theorem mem_joinAll {l : List Taint} {f : Fact} : f ∈ joinAll l ↔ ∃ t ∈ l, f ∈ t := by
  induction l with
  | nil => simp [joinAll]
  | cons t rest ih =>
      show f ∈ t.join (joinAll rest) ↔ _
      rw [mem_join, ih]
      simp only [List.mem_cons, exists_eq_or_imp]

theorem joinAll_concat (l : List Taint) (t : Taint) : joinAll (l ++ [t]) = (joinAll l).join t := by
  refine ext_facts fun f => ?_
  simp only [mem_joinAll, mem_join, List.mem_append, List.mem_singleton, or_and_right, exists_or,
    exists_eq_left]

theorem le_joinAll {l : List Taint} {t : Taint} (h : t ∈ l) : t ≤ joinAll l :=
  le_iff_facts.2 fun _ hf => mem_joinAll.2 ⟨t, h, hf⟩

/-- The order of the list does not matter. -/
theorem joinAll_perm {l l' : List Taint} (h : l.Perm l') : joinAll l = joinAll l' :=
  ext_facts fun _ => by simp only [mem_joinAll, h.mem_iff]

/-! ## Taints that can be built -/

/-- The taints that come from the empty one by the operations on taints. -/
inductive Built : Taint → Prop where
  | bottom : Built .bottom
  | add {t : Taint} (built : Built t) (frame : Frame) (kind : Kind) (origins : List String) :
      Built (t.add frame kind origins)
  | filter {t : Taint} (built : Built t) (p : Test) : Built (t.filter p)
  | join {a b : Taint} (left : Built a) (right : Built b) : Built (a.join b)
  | widen {a b : Taint} (left : Built a) (right : Built b) : Built (a.widen b)
  | meet {a b : Taint} (left : Built a) (right : Built b) : Built (a.meet b)
  | narrow {a b : Taint} (left : Built a) (right : Built b) : Built (a.narrow b)

theorem Built.addAll {t : Taint} (built : Built t) (l : List Entry) : Built (t.addAll l) := by
  induction l generalizing t with
  | nil => exact built
  | cons e rest ih => exact ih (built.add e.1 e.2.1 e.2.2)

/-- The invariant of taints leaves room for no others than those that can be built. -/
theorem built (t : Taint) : t.Built := by
  rw [← addAll_entryList t]
  exact Built.bottom.addAll t.entryList

/-! ## The laws -/

/-- Taints are exactly what can be built.  They are a distributive lattice under `leq`: a partial
order with the empty taint at the bottom, where joining and widening give the least upper bound, and
meeting and narrowing the greatest lower bound. -/
theorem built_and_lattice_laws :
    (∀ t : Taint, t.Built) ∧
    ∀ a b c : Taint,
      a.leq a = true ∧
      (a.leq b = true → b.leq c = true → a.leq c = true) ∧
      (a.leq b = true ∧ b.leq a = true ↔ a = b) ∧
      bottom.leq a = true ∧
      IsLUB {a, b} (a.join b) ∧ IsLUB {a, b} (a.widen b) ∧
      IsGLB {a, b} (a.meet b) ∧ IsGLB {a, b} (a.narrow b) ∧
      a.meet (b.join c) = (a.meet b).join (a.meet c) := by
  refine ⟨built, fun a b c => ⟨le_refl a, ?_, ?_, ?_, ?_, ?_, ?_, ?_, ?_⟩⟩
  · intro hab hbc
    exact (le_trans hab hbc : a ≤ c)
  · rw [← Bool.and_eq_true]
    exact equals_iff
  · exact OrderBot.bot_le a
  · exact isLUB_pair
  · exact isLUB_pair
  · exact isGLB_pair
  · exact isGLB_pair
  · exact inf_sup_left a b c

/-- A named kind on the frame to which nothing is attached. -/
def sampleTaint (name : String) (origins : List String) : Taint :=
  ofFrame .default (.named name) origins

/-- A meet keeps a common kind of which no origin is common, and drops a frame without a common
kind. -/
theorem built_and_lattice_laws_samples :
    (sampleTaint "A" ["m"]).meet (sampleTaint "A" ["n"]) = sampleTaint "A" [] ∧
      (sampleTaint "A" ["m"]).meet (sampleTaint "B" ["m"]) = bottom ∧
      (sampleTaint "A" []).leq (sampleTaint "A" ["m"]) = true ∧
      (sampleTaint "A" ["m"]).leq (sampleTaint "A" []) = false ∧
      (sampleTaint "A" ["m"]).leq ((sampleTaint "A" ["m"]).join (sampleTaint "B" [])) = true ∧
      (sampleTaint "A" []).leq ((sampleTaint "A" ["m"]).join (sampleTaint "B" [])) = true := by
  have below : (sampleTaint "A" []).leq (sampleTaint "A" ["m"]) = true := by decide
  have above : (sampleTaint "A" ["m"]).leq ((sampleTaint "A" ["m"]).join (sampleTaint "B" [])) =
      true := by decide
  obtain ⟨_, trans, _⟩ := built_and_lattice_laws.2 (sampleTaint "A" []) (sampleTaint "A" ["m"])
    ((sampleTaint "A" ["m"]).join (sampleTaint "B" []))
  exact ⟨by decide, by decide, below, by decide, above, trans below above⟩

end TaintFlow.Taint
