import Mathlib.Logic.ExistsUnique
import TaintFlow.Frame.Basic
import TaintFlow.Kind.Order
import TaintFlow.Proofs.Location.Root

/-!
# The orders of keys

Taint is a map from frames to maps from kinds, and rules are found by kinds, so what these maps hold
apart is what the comparison of their keys tells apart.  `IsKeyOrder` is what such a comparison must
be: a linear order in which only equal keys compare as equal.

Frames are compared by the encodings of their kinds and then by port, position and callee, locations
by the encodings of their roots and then by their paths, and kinds by their bases and then by their
lists of transforms.  Lists are compared at the first difference (`compare_eq_lt_iff_lex`), and a
source that was recorded as a transform is compared as the kind that it was
(`Transform.compare_ofKind`).  `key_orders_lawful` says that all of these are orders of keys, and
that the encodings of roots are the numbers of 32 bits, the arguments first.
-/

namespace TaintFlow

/-! ## What an order of keys is -/

/-- A linear order in which only equal keys compare as equal. -/
structure IsKeyOrder (α : Type) [Ord α] : Prop where
  total (a b : α) : (compare a b).isLE = true ∨ (compare b a).isLE = true
  swap (a b : α) : compare b a = (compare a b).swap
  antisymm {a b : α} : (compare a b).isLE = true → (compare b a).isLE = true → a = b
  trans {a b c : α} : (compare a b).isLE = true → (compare b c).isLE = true →
    (compare a c).isLE = true
  eq_iff (a b : α) : compare a b = .eq ↔ a = b

theorem isKeyOrder {α : Type} [Ord α] [Std.TransOrd α] [Std.LawfulEqOrd α] : IsKeyOrder α where
  total a b := by
    rw [Std.OrientedOrd.eq_swap (a := b)]
    cases compare a b with
    | lt | eq => exact Or.inl rfl
    | gt => exact Or.inr rfl
  swap _ _ := Std.OrientedOrd.eq_swap
  antisymm below above := Std.LawfulEqOrd.eq_of_compare (Std.OrientedCmp.isLE_antisymm below above)
  trans := Std.TransOrd.isLE_trans
  eq_iff _ _ := Std.LawfulEqOrd.compare_eq_iff_eq

/-! ## Lists -/

/-- A list comes before another one when it is the smaller of the two at the first difference, or
ends there. -/
theorem compare_eq_lt_iff_lex {α : Type} [Ord α] [Std.LawfulEqOrd α] {l m : List α} :
    compare l m = .lt ↔ List.Lex (fun a b => compare a b = .lt) l m := by
  induction l generalizing m with
  | nil =>
      cases m with
      | nil => simp
      | cons b m => exact iff_of_true rfl .nil
  | cons a l ih =>
      cases m with
      | nil => simp
      | cons b m =>
          rw [List.compare_cons_cons, Ordering.then_eq_lt, List.cons_lex_cons_iff, ih,
            Std.LawfulEqOrd.compare_eq_iff_eq]

/-! ## Kinds -/

namespace Transform

theorem cmpList_eq_compare (l m : List Transform) : cmpList l m = compare l m := by
  induction l generalizing m with
  | nil => cases m <;> rfl
  | cons t l ih =>
      cases m with
      | nil => rfl
      | cons u m =>
          rw [cmpList, ih, List.compare_cons_cons]
          rfl

/-- Recorded sources are compared as the kinds that they were. -/
theorem compare_ofKind (k l : Kind) : compare (ofKind k) (ofKind l) = compare k l := by
  show cmp (ofKind k) (ofKind l) = compare k l
  rw [ofKind, ofKind, cmp, cmpList_eq_compare, cmpList_eq_compare]
  rfl

end Transform

/-! ## Roots and locations -/

namespace Root

theorem compare_eq_lt_iff {r s : Root} : compare r s = .lt ↔ r.encode < s.encode :=
  Std.compare_eq_lt (a := r.encode)

/-- Every number of 32 bits is the encoding of one root. -/
theorem existsUnique_encode_eq (encoding : UInt32) : ∃! r : Root, r.encode = encoding := by
  obtain ⟨r, hr⟩ := exists_encode_eq encoding
  exact ⟨r, hr, fun s hs => encode_injective (hs.trans hr.symm)⟩

theorem exists_argument_iff {encoding : UInt32} :
    (∃ position, (argument position).encode = encoding) ↔ encoding.toNat ≤ 4294967287 := by
  constructor
  · rintro ⟨position, rfl⟩
    exact isArgument_iff_encode_le.1 rfl
  · intro small
    obtain ⟨r, rfl⟩ := exists_encode_eq encoding
    rw [← isArgument_iff_encode_le] at small
    cases r with
    | argument position => exact ⟨position, rfl⟩
    | _ => cases small

end Root

theorem AccessPath.compare_eq_lt_iff {a b : AccessPath} :
    compare a b = .lt ↔ a.root.encode < b.root.encode ∨
      a.root = b.root ∧ List.Lex (fun e f => compare e f = .lt) a.path b.path := by
  show (compare a.root b.root).then (compare a.path b.path) = .lt ↔ _
  rw [Ordering.then_eq_lt, Root.compare_eq_lt_iff, Std.LawfulEqOrd.compare_eq_iff_eq,
    compare_eq_lt_iff_lex]

/-- Frames, locations and kinds are keyed by lawful orders.  A frame is compared by kind, port,
position and callee, a location by the encoding of its root and then at the first difference of the
paths, and a kind by its base and its transforms, where recorded sources are compared as kinds
again.

A root is decoded from its encoding, every number of 32 bits is the encoding of one root, and those
of the arguments end with the last position. -/
theorem key_orders_lawful :
    (IsKeyOrder Frame ∧ ∀ f g : Frame, compare f g =
      (compare f.kind.encode g.kind.encode).then ((compare f.port g.port).then
        ((compare f.position g.position).then (compare f.callee g.callee)))) ∧
    (IsKeyOrder AccessPath ∧ ∀ a b : AccessPath, compare a b = .lt ↔
      a.root.encode < b.root.encode ∨
        a.root = b.root ∧ List.Lex (fun e f => compare e f = .lt) a.path b.path) ∧
    (IsKeyOrder Kind ∧ ∀ k l : Kind, compare k l =
      (compare k.isTransformed l.isTransformed).then ((compare k.base l.base).then
        ((compare k.localTransforms l.localTransforms).then
          (compare k.globalTransforms l.globalTransforms)))) ∧
    (∀ k l : Kind, compare (Transform.ofKind k) (Transform.ofKind l) = compare k l) ∧
    (∀ r : Root, Root.decode r.encode = some r) ∧
    (∀ encoding : UInt32, ∃! r : Root, r.encode = encoding) ∧
    ∀ encoding : UInt32,
      (∃ position, (Root.argument position).encode = encoding) ↔ encoding.toNat ≤ 4294967287 := by
  exact ⟨⟨isKeyOrder, fun _ _ => rfl⟩, ⟨isKeyOrder, fun _ _ => AccessPath.compare_eq_lt_iff⟩,
    ⟨isKeyOrder, fun _ _ => rfl⟩, Transform.compare_ofKind, Root.decode_encode,
    Root.existsUnique_encode_eq, fun _ => Root.exists_argument_iff⟩

end TaintFlow
