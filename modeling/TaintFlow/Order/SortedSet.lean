/-!
# Sets in increasing order

A `SortedSet` lists its elements in strictly increasing order, so two sets with the same elements
are the same set, and whatever is read off the list does not depend on how the set was built.

The main statements give the membership of each operation (`mem_insert`, `mem_ofList`, `mem_union`,
`mem_filter`, `mem_inter`) and say that membership decides equality (`SortedSet.ext`).
-/

namespace TaintFlow

/-- A finite set, listed in strictly increasing order. -/
structure SortedSet (α : Type) [Ord α] where
  /-- The elements from the smallest to the largest. -/
  toList : List α
  /-- Every element is smaller than all that follow it. -/
  sorted : toList.Pairwise fun a b => compare a b = .lt

namespace SortedSet

variable {α : Type} [Ord α]

instance [DecidableEq α] : DecidableEq (SortedSet α) := fun s t =>
  decidable_of_iff (s.toList = t.toList) (by cases s; cases t; simp)

instance : Membership α (SortedSet α) := ⟨fun s a => a ∈ s.toList⟩

/-- The set without elements. -/
def empty : SortedSet α := ⟨[], .nil⟩

instance : EmptyCollection (SortedSet α) := ⟨empty⟩

def isEmpty (s : SortedSet α) : Bool := s.toList.isEmpty

/-- Is there an element that the order does not tell apart from `a`? -/
def contains (s : SortedSet α) (a : α) : Bool := s.toList.any fun b => compare a b == .eq

/-- The elements that pass a test. -/
def filter (p : α → Bool) (s : SortedSet α) : SortedSet α :=
  ⟨s.toList.filter p, s.sorted.filter p⟩

/-- The elements of `s` that are also in `t`. -/
def inter (s t : SortedSet α) : SortedSet α := s.filter t.contains

/-- Is every element of `s` in `t`? -/
def subset (s t : SortedSet α) : Bool := s.toList.all t.contains

/-- Places an element before the first larger one, unless it is there already. -/
def insertInto (a : α) : List α → List α
  | [] => [a]
  | b :: rest =>
      match compare a b with
      | .lt => a :: b :: rest
      | .eq => b :: rest
      | .gt => b :: insertInto a rest

@[simp] theorem mem_mk {a : α} {l : List α} {h : l.Pairwise fun a b => compare a b = .lt} :
    a ∈ SortedSet.mk l h ↔ a ∈ l := Iff.rfl

theorem mem_toList {a : α} {s : SortedSet α} : a ∈ s.toList ↔ a ∈ s := Iff.rfl

instance (s : SortedSet α) (p : α → Prop) [DecidablePred p] : Decidable (∃ a ∈ s, p a) :=
  inferInstanceAs (Decidable (∃ a ∈ s.toList, p a))

instance (s : SortedSet α) (p : α → Prop) [DecidablePred p] : Decidable (∀ a ∈ s, p a) :=
  inferInstanceAs (Decidable (∀ a ∈ s.toList, p a))

@[simp] theorem not_mem_empty {a : α} : a ∉ (empty : SortedSet α) := by
  simp [empty]

theorem isEmpty_iff {s : SortedSet α} : s.isEmpty = true ↔ ∀ a, a ∉ s := by
  simp [isEmpty, ← mem_toList, List.eq_nil_iff_forall_not_mem]

theorem isEmpty_eq_false_iff {s : SortedSet α} : s.isEmpty = false ↔ ∃ a, a ∈ s := by
  rw [Bool.eq_false_iff, ne_eq, isEmpty_iff]
  simp

@[simp] theorem mem_filter {p : α → Bool} {s : SortedSet α} {a : α} :
    a ∈ s.filter p ↔ a ∈ s ∧ p a = true := by
  simp [filter, ← mem_toList]

section Lawful

variable [Std.LawfulEqOrd α]

@[simp] theorem contains_iff {s : SortedSet α} {a : α} : s.contains a = true ↔ a ∈ s := by
  simp [contains, ← mem_toList]

instance (a : α) (s : SortedSet α) : Decidable (a ∈ s) :=
  decidable_of_iff (s.contains a = true) contains_iff

@[simp] theorem mem_inter {s t : SortedSet α} {a : α} : a ∈ s.inter t ↔ a ∈ s ∧ a ∈ t := by
  simp [inter]

theorem subset_iff {s t : SortedSet α} : s.subset t = true ↔ ∀ a ∈ s, a ∈ t := by
  simp [subset, mem_toList]

theorem mem_insertInto {a x : α} {l : List α} : x ∈ insertInto a l ↔ x = a ∨ x ∈ l := by
  induction l with
  | nil => simp [insertInto]
  | cons b rest ih =>
      simp only [insertInto]
      split
      next => simp
      next same =>
        have same := Std.LawfulEqCmp.eq_of_compare same
        subst same
        simp
      next => simp [ih, or_left_comm]

end Lawful

section Ordered

variable [Std.TransOrd α] [Std.LawfulEqOrd α]

theorem insertInto_sorted (a : α) {l : List α}
    (h : l.Pairwise fun a b => compare a b = .lt) :
    (insertInto a l).Pairwise fun a b => compare a b = .lt := by
  induction l with
  | nil => simp [insertInto]
  | cons b rest ih =>
      obtain ⟨first, others⟩ := List.pairwise_cons.1 h
      simp only [insertInto]
      split
      next before =>
        refine List.pairwise_cons.2 ⟨fun x hx => ?_, h⟩
        rcases List.mem_cons.1 hx with rfl | hx
        · exact before
        · exact Std.TransCmp.lt_trans before (first x hx)
      next => exact h
      next after =>
        refine List.pairwise_cons.2 ⟨fun x hx => ?_, ih others⟩
        rcases mem_insertInto.1 hx with rfl | hx
        · exact Std.OrientedCmp.lt_of_gt after
        · exact first x hx

/-- The set with one element added. -/
def insert (a : α) (s : SortedSet α) : SortedSet α :=
  ⟨insertInto a s.toList, insertInto_sorted a s.sorted⟩

/-- The set of the elements of a list. -/
def ofList (l : List α) : SortedSet α := l.foldl (fun s a => s.insert a) empty

/-- The elements of either set. -/
def union (s t : SortedSet α) : SortedSet α := t.toList.foldl (fun s a => s.insert a) s

@[simp] theorem mem_insert {a x : α} {s : SortedSet α} : x ∈ s.insert a ↔ x = a ∨ x ∈ s :=
  mem_insertInto

theorem mem_foldl_insert {x : α} (l : List α) (s : SortedSet α) :
    x ∈ l.foldl (fun s a => s.insert a) s ↔ x ∈ s ∨ x ∈ l := by
  induction l generalizing s with
  | nil => simp
  | cons a rest ih => simp [ih, or_assoc, or_left_comm]

@[simp] theorem mem_ofList {x : α} {l : List α} : x ∈ ofList l ↔ x ∈ l := by
  simp [ofList, mem_foldl_insert]

@[simp] theorem mem_union {x : α} {s t : SortedSet α} : x ∈ s.union t ↔ x ∈ s ∨ x ∈ t := by
  simp [union, mem_foldl_insert, mem_toList]

omit [Std.LawfulEqOrd α] in
theorem nodup_toList (s : SortedSet α) : s.toList.Nodup := by
  refine s.sorted.imp fun {a b} before same => ?_
  simp [same] at before

omit [Std.LawfulEqOrd α] in
/-- Sets with the same elements are equal. -/
@[ext] theorem ext {s t : SortedSet α} (h : ∀ x, x ∈ s ↔ x ∈ t) : s = t := by
  have perm : s.toList.Perm t.toList :=
    (List.perm_ext_iff_of_nodup s.nodup_toList t.nodup_toList).2 h
  have same : s.toList = t.toList := by
    refine perm.eq_of_pairwise (fun e f _ _ before after => ?_) s.sorted t.sorted
    exact absurd (Std.TransCmp.lt_trans before after) (by simp)
  cases s
  cases t
  rwa [SortedSet.mk.injEq]

end Ordered

end SortedSet

end TaintFlow
