import TaintFlow.Kind.Basic

/-!
# The order of kinds

Plain kinds come before kinds with transforms.  Then bases are compared, then local and then global
transforms, where a list comes before the lists that extend it.  Named bases come before partial
sinks, and these before triggered ones; named transforms come before sources.

The main statements are that the comparison is lawful on transforms and on kinds
(`Std.TransOrd`, `Std.LawfulEqOrd`), so that equality of kinds can be decided by it.
-/

namespace TaintFlow

/-! ## Comparisons along a chain -/

/-- Can `x`, `y` and `z` be the comparisons of `a` with `b`, of `b` with `c` and of `a` with `c`? -/
def Chained (x y z : Ordering) : Bool :=
  match x, y with
  | .eq, y => z == y
  | x, .eq => z == x
  | .lt, .lt => z == .lt
  | .gt, .gt => z == .gt
  | _, _ => true

theorem chained_then {x y z x' y' z' : Ordering} (h : Chained x y z = true)
    (h' : Chained x' y' z' = true) : Chained (x.then x') (y.then y') (z.then z') = true := by
  cases x with
  | eq =>
      obtain rfl : z = y := by simpa [Chained] using h
      cases z with
      | eq => exact h'
      | lt | gt => cases x' <;> rfl
  | lt =>
      cases y with
      | eq | lt =>
          obtain rfl : z = .lt := by simpa [Chained] using h
          cases y' <;> rfl
      | gt => rfl
  | gt =>
      cases y with
      | eq | gt =>
          obtain rfl : z = .gt := by simpa [Chained] using h
          cases y' <;> rfl
      | lt => rfl

theorem chained_of_transCmp {α : Type} {cmp : α → α → Ordering} [Std.TransCmp cmp] (a b c : α) :
    Chained (cmp a b) (cmp b c) (cmp a c) = true := by
  cases hab : cmp a b with
  | eq => simp [Chained, Std.TransCmp.congr_left hab]
  | lt =>
      cases hbc : cmp b c with
      | eq => simp [Chained, ← Std.TransCmp.congr_right hbc, hab]
      | lt => simp [Chained, Std.TransCmp.lt_trans hab hbc]
      | gt => rfl
  | gt =>
      cases hbc : cmp b c with
      | eq => simp [Chained, ← Std.TransCmp.congr_right hbc, hab]
      | lt => rfl
      | gt => simp [Chained, Std.TransCmp.gt_trans hab hbc]

theorem isLE_of_chained {x y z : Ordering} (h : Chained x y z = true) (hx : x.isLE = true)
    (hy : y.isLE = true) : z.isLE = true := by
  cases x <;> cases y <;> simp_all [Chained]

/-! ## Bases -/

namespace PartialSink

instance : Ord PartialSink := ⟨compareLex (compareOn name) (compareOn label)⟩

instance : Std.TransOrd PartialSink := inferInstanceAs (Std.TransCmp (compareLex _ _))

instance : Std.LawfulEqOrd PartialSink where
  eq_of_compare {a b} h := by
    have h : compareLex _ _ a b = .eq := h
    simp only [compareLex_eq_eq, compareOn, Std.LawfulEqCmp.compare_eq_iff_eq] at h
    cases a
    cases b
    simp_all

end PartialSink

namespace BaseKind

/-- The place of the constructor in the order. -/
def rank : BaseKind → Nat
  | .named _ => 0
  | .partialSink _ => 1
  | .triggeredSink .. => 2

def name : BaseKind → String
  | .named name => name
  | .partialSink sink | .triggeredSink sink _ => sink.name

/-- The code in a triggered sink. -/
def rule? : BaseKind → Option Int64
  | .triggeredSink _ rule => some rule
  | _ => none

instance : Ord BaseKind :=
  ⟨compareLex (compareOn rank)
    (compareLex (compareOn name) (compareLex (compareOn label?) (compareOn rule?)))⟩

instance : Std.TransOrd BaseKind := inferInstanceAs (Std.TransCmp (compareLex _ _))

instance : Std.LawfulEqOrd BaseKind where
  eq_of_compare {a b} h := by
    have h : compareLex _ _ a b = .eq := h
    simp only [compareLex_eq_eq, compareOn, Std.LawfulEqCmp.compare_eq_iff_eq] at h
    rcases a with a | ⟨_, _⟩ | ⟨⟨_, _⟩, _⟩ <;> rcases b with b | ⟨_, _⟩ | ⟨⟨_, _⟩, _⟩ <;>
      simp_all [rank, name, label?, rule?]

end BaseKind

/-! ## Transforms -/

namespace Transform

mutual

/-- Compares two transforms. -/
def cmp : Transform → Transform → Ordering
  | .named n, .named n' => compare n n'
  | .named _, .source .. => .lt
  | .source .., .named _ => .gt
  | .source b l g, .source b' l' g' =>
      (compare (!(l.isEmpty && g.isEmpty)) (!(l'.isEmpty && g'.isEmpty))).then
        ((compare b b').then ((cmpList l l').then (cmpList g g')))

/-- Compares two lists of transforms, the first difference decides. -/
def cmpList : List Transform → List Transform → Ordering
  | [], [] => .eq
  | [], _ :: _ => .lt
  | _ :: _, [] => .gt
  | t :: l, t' :: l' => (cmp t t').then (cmpList l l')

end

mutual

theorem eq_of_cmp : ∀ {t t' : Transform}, cmp t t' = .eq → t = t'
  | .named n, .named n', h => by
      simp only [cmp, Std.LawfulEqCmp.compare_eq_iff_eq] at h
      rw [h]
  | .named _, .source .., h => by simp [cmp] at h
  | .source .., .named _, h => by simp [cmp] at h
  | .source b l g, .source b' l' g', h => by
      simp only [cmp, Ordering.then_eq_eq, Std.LawfulEqCmp.compare_eq_iff_eq] at h
      rw [h.2.1, eq_of_cmpList h.2.2.1, eq_of_cmpList h.2.2.2]

theorem eq_of_cmpList : ∀ {l l' : List Transform}, cmpList l l' = .eq → l = l'
  | [], [], _ => rfl
  | [], _ :: _, h => by simp [cmpList] at h
  | _ :: _, [], h => by simp [cmpList] at h
  | t :: l, t' :: l', h => by
      simp only [cmpList, Ordering.then_eq_eq] at h
      rw [eq_of_cmp h.1, eq_of_cmpList h.2]

end

mutual

theorem cmp_swap : ∀ t t' : Transform, cmp t t' = (cmp t' t).swap
  | .named n, .named n' => by simp only [cmp]; exact Std.OrientedCmp.eq_swap
  | .named _, .source .. => rfl
  | .source .., .named _ => rfl
  | .source b l g, .source b' l' g' => by
      simp only [cmp, Ordering.swap_then, ← cmpList_swap l l', ← cmpList_swap g g',
        ← Std.OrientedOrd.eq_swap (a := b), ← Std.OrientedOrd.eq_swap (α := Bool)]

theorem cmpList_swap : ∀ l l' : List Transform, cmpList l l' = (cmpList l' l).swap
  | [], [] => rfl
  | [], _ :: _ => rfl
  | _ :: _, [] => rfl
  | t :: l, t' :: l' => by
      simp only [cmpList, Ordering.swap_then, ← cmp_swap t t', ← cmpList_swap l l']

end

mutual

theorem cmp_chained : ∀ t t' t'' : Transform, Chained (cmp t t') (cmp t' t'') (cmp t t'') = true
  | .named n, .named n', .named n'' => by
      simp only [cmp]
      exact chained_of_transCmp n n' n''
  | .named n, .named n', .source .. => by
      simp only [cmp]
      cases compare n n' <;> rfl
  | .named _, .source .., .named _ => rfl
  | .named _, .source b l g, .source b' l' g' => by
      simp only [cmp]
      generalize Ordering.then _ _ = y
      cases y <;> rfl
  | .source .., .named n, .named n' => by
      simp only [cmp]
      cases compare n n' <;> rfl
  | .source .., .named _, .source .. => rfl
  | .source b l g, .source b' l' g', .named _ => by
      simp only [cmp]
      generalize Ordering.then _ _ = x
      cases x <;> rfl
  | .source b l g, .source b' l' g', .source b'' l'' g'' => by
      simp only [cmp]
      exact chained_then (chained_of_transCmp _ _ _)
        (chained_then (chained_of_transCmp b b' b'')
          (chained_then (cmpList_chained l l' l'') (cmpList_chained g g' g'')))

theorem cmpList_chained : ∀ l l' l'' : List Transform,
    Chained (cmpList l l') (cmpList l' l'') (cmpList l l'') = true
  | [], [], [] => rfl
  | [], [], _ :: _ => rfl
  | [], _ :: _, [] => rfl
  | [], t :: l, t' :: l' => by
      simp only [cmpList]
      generalize Ordering.then _ _ = y
      cases y <;> rfl
  | _ :: _, [], [] => rfl
  | _ :: _, [], _ :: _ => rfl
  | t :: l, t' :: l', [] => by
      simp only [cmpList]
      generalize Ordering.then _ _ = x
      cases x <;> rfl
  | t :: l, t' :: l', t'' :: l'' => by
      simp only [cmpList]
      exact chained_then (cmp_chained t t' t'') (cmpList_chained l l' l'')

end

instance : Ord Transform := ⟨cmp⟩

instance : Std.TransOrd Transform where
  eq_swap := cmp_swap _ _
  isLE_trans := isLE_of_chained (cmp_chained _ _ _)

instance : Std.LawfulEqOrd Transform where
  eq_of_compare := eq_of_cmp

instance : DecidableEq Transform := fun t t' =>
  decidable_of_iff (compare t t' = .eq) Std.LawfulEqCmp.compare_eq_iff_eq

end Transform

/-! ## Kinds -/

deriving instance DecidableEq for Kind

namespace Kind

instance : Ord Kind :=
  ⟨compareLex (compareOn isTransformed)
    (compareLex (compareOn base)
      (compareLex (compareOn localTransforms) (compareOn globalTransforms)))⟩

instance : Std.TransOrd Kind := inferInstanceAs (Std.TransCmp (compareLex _ _))

instance : Std.LawfulEqOrd Kind where
  eq_of_compare {a b} h := by
    have h : compareLex _ _ a b = .eq := h
    simp only [compareLex_eq_eq, compareOn, Std.LawfulEqCmp.compare_eq_iff_eq] at h
    cases a
    cases b
    simp_all

end Kind

end TaintFlow
