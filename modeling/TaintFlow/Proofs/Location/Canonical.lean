import TaintFlow.Proofs.Location.Printable

/-!
# Canonical ports

Other analyzers see a location of a method as one field of an anchor.  The name of the field is the
text of the root as they number it: in a method that is not static they count the receiver as the
argument before the first.

The numbering never leaves the range of arguments, so the check that an argument root is built with
always passes (`Root.checkedCanonicalFor_eq`).  It can be undone (`Root.ofCanonical_canonicalFor`),
so it keeps roots apart.  Their texts do so too (`Root.toText_injective`): all of them are read back
but that of the receiver, and that one is not read at all.  So two locations have the same canonical
port exactly when they have the same root (`AccessPath.canonical_port_laws`).
-/

namespace TaintFlow

namespace Root

variable {m : Method} {r s : Root}

/-! ## The texts of roots -/

/-- A root that can be configured shares its text with no other root. -/
theorem eq_of_toText_eq (hs : s ≠ .canonicalThis) (same : r.toText = s.toText) : r = s := by
  have read := ofText_toText hs
  rw [← same] at read
  by_cases hr : r = .canonicalThis
  · -- The text of the receiver is refused.
    subst hr
    cases read
  · rw [ofText_toText hr] at read
    cases read
    rfl

theorem toText_injective : Function.Injective toText := by
  intro r s same
  by_cases hs : s = .canonicalThis
  · by_cases hr : r = .canonicalThis
    · rw [hr, hs]
    · exact (eq_of_toText_eq hr same.symm).symm
  · exact eq_of_toText_eq hs same

/-! ## The numbering of other analyzers -/

theorem canonicalFor_of_isStatic (static : m.isStatic = true) : r.canonicalFor m = r := by
  cases r with
  | argument position => simp only [canonicalFor, static, if_true]
  | _ => rfl

theorem canonicalFor_of_not_isArgument (other : r.isArgument = false) : r.canonicalFor m = r := by
  cases r with
  | argument position => cases other
  | _ => rfl

theorem canonicalFor_receiver (bound : m.isStatic = false) :
    (argument 0).canonicalFor m = .canonicalThis := by
  simp [canonicalFor, bound]

theorem canonicalFor_succ (bound : m.isStatic = false) {n : Nat} (h : n + 1 < 4294967288) :
    (argument ⟨n + 1, h⟩).canonicalFor m = .argument ⟨n, Nat.lt_of_succ_lt h⟩ := by
  simp [canonicalFor, bound]

/-- The numbering, with the check that an argument root is built with. -/
def checkedCanonicalFor (m : Method) : Root → Checked Root
  | .argument position =>
      if m.isStatic then .ok (.argument position)
      else
        match position.val with
        | 0 => .ok .canonicalThis
        | n + 1 => ofPosition n
  | r => .ok r

theorem checkedCanonicalFor_eq (m : Method) (r : Root) :
    r.checkedCanonicalFor m = .ok (r.canonicalFor m) := by
  cases r with
  | argument position =>
      obtain ⟨n, small⟩ := position
      rw [checkedCanonicalFor]
      split
      next static => rw [canonicalFor_of_isStatic static]
      next bound =>
        rw [Bool.not_eq_true] at bound
        cases n with
        | zero => exact congrArg _ (canonicalFor_receiver bound).symm
        | succ n =>
            rw [canonicalFor_succ bound]
            exact dif_pos (Nat.lt_of_succ_lt small)
  | _ => rfl

/-- The root of a method that is not static which other analyzers number as `r`. -/
def ofCanonical : Root → Checked Root
  | .canonicalThis => ofPosition 0
  | .argument position => ofPosition (position.val + 1)
  | r => .ok r

theorem ofCanonical_canonicalFor (bound : m.isStatic = false) (hr : r ≠ .canonicalThis) :
    (r.canonicalFor m).ofCanonical = .ok r := by
  cases r with
  | argument position =>
      obtain ⟨n, small⟩ := position
      cases n with
      | zero =>
          have receiver : (argument ⟨0, small⟩).canonicalFor m = .canonicalThis :=
            canonicalFor_receiver bound
          rw [receiver, ofCanonical]
          exact dif_pos small
      | succ n =>
          rw [canonicalFor_succ bound]
          exact dif_pos small
  | canonicalThis => exact absurd rfl hr
  | _ => rfl

theorem canonicalFor_inj (hr : r ≠ .canonicalThis) (hs : s ≠ .canonicalThis) :
    r.canonicalFor m = s.canonicalFor m ↔ r = s := by
  refine ⟨fun same => ?_, congrArg _⟩
  cases bound : m.isStatic with
  | true => rwa [canonicalFor_of_isStatic bound, canonicalFor_of_isStatic bound] at same
  | false =>
      have undone := congrArg ofCanonical same
      rw [ofCanonical_canonicalFor bound hr, ofCanonical_canonicalFor bound hs] at undone
      exact Except.ok.inj undone

end Root

namespace AccessPath

variable {m : Method} {a b : AccessPath}

/-- The canonical port, with the check that an argument root is built with. -/
def checkedCanonicalFor (m : Method) (a : AccessPath) : Checked AccessPath :=
  return ⟨.anchor, [.field (← a.root.checkedCanonicalFor m).toText]⟩

theorem checkedCanonicalFor_eq (m : Method) (a : AccessPath) :
    a.checkedCanonicalFor m = .ok (a.canonicalFor m) := by
  rw [checkedCanonicalFor, Root.checkedCanonicalFor_eq]
  rfl

/-- The name of the field is the text of a root, so it ends where it should. -/
theorem printable_canonicalFor (m : Method) (a : AccessPath) : (a.canonicalFor m).Printable := by
  refine ⟨Root.noConfusion, fun e he => ?_⟩
  rw [List.mem_singleton.1 he]
  exact Root.wellFormed_toText _

/-- Canonical ports are the same when the roots are numbered alike. -/
theorem canonicalFor_eq_iff :
    a.canonicalFor m = b.canonicalFor m ↔ a.root.canonicalFor m = b.root.canonicalFor m := by
  constructor
  · intro same
    have name := Element.field.inj (List.cons.inj (AccessPath.mk.inj same).2).1
    exact Root.toText_injective name
  · intro same
    rw [canonicalFor, canonicalFor, same]

/-- The canonical port of a location of a root that can be configured.  The checked numbering
returns it, it is one field of an anchor, and it is read back from its text.

Two locations have the same canonical port exactly when they have the same root.  In a method that
is not static the receiver is written as the argument before the first, every other argument with
the position before its own, and what is no argument with its own text, and no two of these texts
are the same. -/
theorem canonical_port_laws (m : Method) {a b : AccessPath} (ha : a.root ≠ .canonicalThis)
    (hb : b.root ≠ .canonicalThis) :
    a.checkedCanonicalFor m = .ok (a.canonicalFor m) ∧
    (∃ name, a.canonicalFor m = ⟨.anchor, [.field name]⟩) ∧
    ofText (a.canonicalFor m).toText = .ok (a.canonicalFor m) ∧
    (a.canonicalFor m = b.canonicalFor m ↔ a.root = b.root) ∧
    (m.isStatic = false → ∀ path,
      canonicalFor m ⟨.argument 0, path⟩ = ⟨.anchor, [.field "Argument(-1)"]⟩ ∧
      (∀ n (h : n + 1 < 4294967288), canonicalFor m ⟨.argument ⟨n + 1, h⟩, path⟩ =
        ⟨.anchor, [.field ("Argument(" ++ toString n ++ ")")]⟩) ∧
      (∀ r : Root, r.isArgument = false →
        canonicalFor m ⟨r, path⟩ = ⟨.anchor, [.field r.toText]⟩) ∧
      ∀ r s : Root, r ≠ .canonicalThis → s ≠ .canonicalThis → r ≠ s →
        (r.canonicalFor m).toText ≠ (s.canonicalFor m).toText) := by
  refine ⟨checkedCanonicalFor_eq m a, ⟨_, rfl⟩, ofText_toText (printable_canonicalFor m a),
    canonicalFor_eq_iff.trans (Root.canonicalFor_inj ha hb), fun bound path => ⟨?_, ?_, ?_, ?_⟩⟩
  · rw [canonicalFor, Root.canonicalFor_receiver bound]
    rfl
  · intro n h
    rw [canonicalFor, Root.canonicalFor_succ bound]
    rfl
  · intro r other
    rw [canonicalFor, Root.canonicalFor_of_not_isArgument other]
  · intro r s hr hs differ same
    exact differ ((Root.canonicalFor_inj hr hs).1 (Root.toText_injective same))

/-- A method that is not static. -/
def sampleMethod : Method := ⟨"Lsource;.get:()I", false⟩

/-- The port of all that is reachable from an argument. -/
def sampleArgumentPort (position : ArgumentPosition) : AccessPath :=
  (ofRoot (.argument position)).canonicalFor sampleMethod

/-- The argument with the largest position is read back from its port, and its port is not that of
the receiver. -/
theorem canonical_port_laws_samples :
    sampleArgumentPort 4294967287 = ⟨.anchor, [.field "Argument(4294967286)"]⟩ ∧
      (sampleArgumentPort 4294967287).toText = "Anchor.Argument(4294967286)" ∧
      ofText "Anchor.Argument(4294967286)" = .ok (sampleArgumentPort 4294967287) ∧
      sampleArgumentPort 4294967287 ≠ sampleArgumentPort 0 := by
  obtain ⟨_, _, read, same, _⟩ := canonical_port_laws sampleMethod
    (a := ofRoot (.argument 4294967287)) (b := ofRoot (.argument 0)) Root.noConfusion
    Root.noConfusion
  refine ⟨rfl, rfl, read, fun collide => ?_⟩
  exact absurd (same.1 collide) (by decide)

end AccessPath

end TaintFlow
