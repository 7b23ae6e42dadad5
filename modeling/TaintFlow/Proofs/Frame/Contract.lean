import TaintFlow.Proofs.Frame.Propagation
import TaintFlow.Proofs.Location.Canonical

/-!
# The contract of propagation

What a caller must not ask of a frame is `Frame.Refuses`: a bare propagation does not move, a frame
on a bare anchor needs a callee and a port, and only a declaration takes a callee without a port.
Propagation fails exactly then, and `Frame.Breaks` names the contract that a failure is about.

On the way to the next frame two more checks are passed, that of the position of an argument and
that of the place of a callee.  Neither of them ever fails: a position is only ever lowered, and a
callee is only handed on by a frame that a call site follows (`FrameKind.isCallSite_propagate`).
-/

namespace TaintFlow

namespace FrameKind

variable {k : FrameKind}

/-- What follows a stage that is no declaration is a call site. -/
theorem isCallSite_propagate (moves : k ≠ .propagation) (later : k.isDeclaration = false) :
    k.propagate.isCallSite = true := by
  cases k with
  | propagation => exact absurd rfl moves
  | stage s traced =>
      cases s with
      | declaration => cases later
      | origin => rfl
      | callSite => rfl

end FrameKind

namespace Frame

variable {f g : Frame} {hop : Hop}

/-- The calls that propagation does not allow. -/
def Refuses (f : Frame) (hop : Hop) : Prop :=
  f.kind = .propagation ∨
  (f.port = some (.ofRoot .anchor) ∧ (hop.callee = none ∨ hop.port = none)) ∨
  (f.kind.isDeclaration = false ∧ hop.callee.isSome = true ∧ hop.port = none)

instance : Decidable (f.Refuses hop) := inferInstanceAs (Decidable (_ ∨ _ ∧ _ ∨ _ ∧ _ ∧ _))

/-- The contract that a call breaks.  They are checked in this order. -/
inductive Breaks (f : Frame) (hop : Hop) : Contract → Prop where
  | bare (kind : f.kind = .propagation) : Breaks f hop .propagatedPropagation
  | onAnchor (moves : f.kind ≠ .propagation) (port : f.port = some (.ofRoot .anchor))
      (missing : hop.callee = none ∨ hop.port = none) : Breaks f hop .anchorLeafWithoutCallee
  | withoutPort (moves : f.kind ≠ .propagation) (off : f.port ≠ some (.ofRoot .anchor))
      (later : f.kind.isDeclaration = false) {m : Method} (callee : hop.callee = some m)
      (port : hop.port = none) : Breaks f hop (.calleeWithoutPort m.toText)

/-! ## The checks on the way -/

theorem make_eq_error_iff {callee : Option Method} {kind : FrameKind} {port : Option AccessPath}
    {position : Option Position} {e : Failure} :
    make callee kind port position = .error e ↔ ∃ m, callee = some m ∧
      ((port = none ∧ e = .contract (.calleeWithoutPort m.toText)) ∨
        (port ≠ none ∧ kind.isCallSite = false ∧
          e = .contract (.calleeOffCallSite m.toText kind.toText))) := by
  cases callee with
  | none => simp [make]
  | some m =>
      rw [make]
      split
      next given =>
        rw [Option.isSome_iff_ne_none] at given
        split
        next site => simp [given, site]
        next off => simp [given, off, @eq_comm _ e]
      next missing =>
        rw [Bool.not_eq_true, Option.isSome_eq_false_iff, Option.isNone_iff_eq_none] at missing
        simp [missing, @eq_comm _ e]

theorem portFor_eq_error_iff {e : Failure} :
    f.portFor hop = .error e ↔ f.port = some (.ofRoot .anchor) ∧
      (hop.callee = none ∨ hop.port = none) ∧ e = .contract .anchorLeafWithoutCallee := by
  rw [portFor]
  split
  next onAnchor =>
    rw [isOnAnchor_iff] at onAnchor
    cases hop.callee <;> cases hop.port <;> simp [onAnchor, eq_comm]
  next off =>
    rw [isOnAnchor_iff] at off
    simp [off]

/-- Behind a port that was accepted, the only callee that is refused is one without a port. -/
theorem make_propagate_eq_error_iff (moves : f.kind ≠ .propagation) {port : Option AccessPath}
    {e : Failure} :
    make (if f.kind.isDeclaration then none else hop.callee) f.kind.propagate port hop.position =
        .error e ↔
      f.kind.isDeclaration = false ∧ ∃ m, hop.callee = some m ∧ port = none ∧
        e = .contract (.calleeWithoutPort m.toText) := by
  rw [make_eq_error_iff]
  cases later : f.kind.isDeclaration with
  | true => simp
  | false => simp [FrameKind.isCallSite_propagate moves later]

/-! ## The failures of propagation -/

theorem propagate_eq_error_iff {e : Failure} :
    f.propagate hop.callee hop.port hop.position = .error e ↔
      ∃ broken, f.Breaks hop broken ∧ e = .contract broken := by
  rw [propagate_eq]
  split
  next bare =>
    constructor
    · intro h
      cases h
      exact ⟨_, .bare bare, rfl⟩
    · rintro ⟨broken, breaks, rfl⟩
      cases breaks with
      | bare => rfl
      | onAnchor moves => exact absurd bare moves
      | withoutPort moves => exact absurd bare moves
  next moves =>
    rw [Checked.bind_eq_error_iff, portFor_eq_error_iff]
    simp only [make_propagate_eq_error_iff moves, portFor_eq_ok_iff]
    constructor
    · rintro (⟨onAnchor, missing, rfl⟩ | ⟨port, ⟨off, onAnchor⟩, later, m, callee, rfl, rfl⟩)
      · exact ⟨_, .onAnchor moves onAnchor missing, rfl⟩
      · -- The port that was rewritten is there, so this one is as it was given.
        by_cases anchor : f.port = some (.ofRoot .anchor)
        · obtain ⟨_, _, _, _, absurd⟩ := onAnchor anchor
          cases absurd
        · exact ⟨_, .withoutPort moves anchor later callee (off anchor).symm, rfl⟩
    · rintro ⟨broken, breaks, rfl⟩
      cases breaks with
      | bare kind => exact absurd kind moves
      | onAnchor _ onAnchor missing => exact Or.inl ⟨onAnchor, missing, rfl⟩
      | withoutPort _ off later callee port =>
          refine Or.inr ⟨none, ⟨fun _ => port.symm, fun anchor => absurd anchor off⟩, later, ?_⟩
          exact ⟨_, callee, rfl, rfl⟩

/-- A call that is not allowed breaks a contract, and no other call does. -/
theorem exists_breaks_iff : (∃ broken, f.Breaks hop broken) ↔ f.Refuses hop := by
  constructor
  · rintro ⟨broken, breaks⟩
    cases breaks with
    | bare kind => exact Or.inl kind
    | onAnchor _ port missing => exact Or.inr (Or.inl ⟨port, missing⟩)
    | withoutPort _ _ later callee port =>
        exact Or.inr (Or.inr ⟨later, Option.isSome_iff_exists.2 ⟨_, callee⟩, port⟩)
  · intro refuses
    by_cases bare : f.kind = .propagation
    · exact ⟨_, .bare bare⟩
    rcases refuses with kind | ⟨port, missing⟩ | ⟨later, callee, port⟩
    · exact absurd kind bare
    · exact ⟨_, .onAnchor bare port missing⟩
    · -- On a bare anchor it is the missing port that is found first.
      by_cases anchor : f.port = some (.ofRoot .anchor)
      · exact ⟨_, .onAnchor bare anchor (Or.inr port)⟩
      · obtain ⟨m, callee⟩ := Option.isSome_iff_exists.1 callee
        exact ⟨_, .withoutPort bare anchor later callee port⟩

theorem exists_propagate_eq_error_iff :
    (∃ e, f.propagate hop.callee hop.port hop.position = .error e) ↔ f.Refuses hop := by
  simp only [propagate_eq_error_iff, ← exists_breaks_iff]
  constructor
  · rintro ⟨_, broken, breaks, rfl⟩
    exact ⟨broken, breaks⟩
  · rintro ⟨broken, breaks⟩
    exact ⟨_, broken, breaks, rfl⟩

/-- Every frame is one that is accepted from its parts.  Propagation fails exactly when it is called
as it must not be, and then with the first contract that the call breaks.  In every other case it
returns a frame that follows, and the shift of an argument does not fail for any callee and port. -/
theorem propagate_contract (f : Frame) (hop : Hop) :
    make f.callee f.kind f.port f.position = .ok f ∧
    ((∃ e, f.propagate hop.callee hop.port hop.position = .error e) ↔ f.Refuses hop) ∧
    (∀ e, f.propagate hop.callee hop.port hop.position = .error e ↔
      ∃ broken, f.Breaks hop broken ∧ e = .contract broken) ∧
    (¬f.Refuses hop →
      ∃ g, f.propagate hop.callee hop.port hop.position = .ok g ∧ f.Follows hop g) ∧
    ∀ m port, hop.callee = some m → hop.port = some port →
      port.checkedCanonicalFor m = .ok (port.canonicalFor m) := by
  refine ⟨make_eq_ok_iff.2 ⟨rfl, rfl, rfl, rfl⟩, exists_propagate_eq_error_iff,
    fun e => propagate_eq_error_iff, fun allowed => ?_, fun m port _ _ => ?_⟩
  · cases result : f.propagate hop.callee hop.port hop.position with
    | error e => exact absurd (exists_propagate_eq_error_iff.1 ⟨e, result⟩) allowed
    | ok g => exact ⟨g, rfl, (propagate_eq_ok_iff.1 result).2⟩
  · exact AccessPath.checkedCanonicalFor_eq m port

/-- A call with a callee that is not static. -/
def callWith (port : Option AccessPath) : Hop := ⟨some AccessPath.sampleMethod, port, none⟩

/-- A frame at a stage, with nothing attached but a port. -/
def staged (stage : Stage) (port : Option AccessPath) : Frame :=
  withoutCallee (.stage stage false) port none

/-- An origin does not take a callee without a port.  A declaration takes one, but behind a bare
anchor it needs the port, and there the last argument can be shifted. -/
theorem propagate_contract_samples :
    (staged .origin none).propagate (callWith none).callee none none =
      .error (.contract (.calleeWithoutPort "Lsource;.get:()I")) ∧
    (∃ g, (staged .declaration none).propagate (callWith none).callee none none = .ok g ∧
      g.callee = none) ∧
    (∃ e, (staged .declaration (some (.ofRoot .anchor))).propagate
      (callWith none).callee none none = .error e) ∧
    ∃ g, (staged .declaration (some (.ofRoot .anchor))).propagate (callWith none).callee
        (some (.ofRoot (.argument 4294967287))) none = .ok g ∧
      g.port = some ⟨.anchor, [.field "Argument(4294967286)"]⟩ := by
  obtain ⟨_, _, fails, _⟩ := propagate_contract (staged .origin none) (callWith none)
  obtain ⟨_, _, _, returns, _⟩ := propagate_contract (staged .declaration none) (callWith none)
  obtain ⟨_, refused, _⟩ :=
    propagate_contract (staged .declaration (some (.ofRoot .anchor))) (callWith none)
  obtain ⟨_, _, _, shifted, _⟩ := propagate_contract
    (staged .declaration (some (.ofRoot .anchor)))
    (callWith (some (.ofRoot (.argument 4294967287))))
  refine ⟨(fails _).2 ⟨_, .withoutPort (by decide) (by decide) rfl rfl rfl, rfl⟩, ?_,
    refused.2 (by decide), ?_⟩
  · obtain ⟨g, propagated, follows⟩ := returns (by decide)
    exact ⟨g, propagated, follows.callee⟩
  · obtain ⟨g, propagated, follows⟩ := shifted (by decide)
    obtain ⟨m, port, callee, given, written⟩ := follows.portOnAnchor rfl
    cases callee
    cases given
    exact ⟨g, propagated, written⟩

end Frame

end TaintFlow
