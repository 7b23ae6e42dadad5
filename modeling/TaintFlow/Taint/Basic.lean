import TaintFlow.Frame.Basic
import TaintFlow.Kind.Order
import TaintFlow.Order.SortedMap
import TaintFlow.Order.SortedSet

/-!
# Taint

Taint says which kinds reached a location, through which frames, and from which origins.  It is a
map from frames to the kinds of the frame, each with its set of origins, and no frame is without
kinds.

What a taint holds is what `Taint.origins?` returns: `Taint.ext_origins` says that taints with the
same origins are equal, and `origins?_add` and its companions say what each operation does to them.
A kind may be held without any origin, which is not the same as not being held.
-/

namespace TaintFlow

/-- The kinds of one frame, each with the origins at which it was introduced. -/
abbrev KindOrigins := SortedMap Kind (SortedSet String)

/-- Kinds by frame. -/
structure Taint where
  frames : SortedMap Frame KindOrigins
  /-- No frame is without kinds. -/
  nonempty : ∀ frame kinds, frames.get? frame = some kinds → kinds.isEmpty = false

namespace Taint

instance : DecidableEq Taint := fun a b =>
  decidable_of_iff (a.frames = b.frames) (by cases a; cases b; simp)

/-- The origins of a kind on a frame, if it is held there. -/
def origins? (t : Taint) (frame : Frame) (kind : Kind) : Option (SortedSet String) :=
  (t.frames.get? frame).bind (·.get? kind)

/-- No taint. -/
def bottom : Taint := ⟨.empty, by simp⟩

def isBottom (t : Taint) : Bool := t.frames.isEmpty

/-- The kinds of a frame, unless there are none. -/
def nonempty? (kinds : KindOrigins) : Option KindOrigins :=
  if kinds.isEmpty then none else some kinds

theorem isEmpty_of_nonempty? {kinds kinds' : KindOrigins} (h : nonempty? kinds = some kinds') :
    kinds'.isEmpty = false := by
  simp only [nonempty?] at h
  split at h
  next => simp at h
  next full =>
    obtain rfl := Option.some.inj h
    simpa using full

theorem isEmpty_upsert {kinds : KindOrigins} {kind : Kind}
    {f : Option (SortedSet String) → SortedSet String} :
    (kinds.upsert kind f).isEmpty = false := by
  rw [Bool.eq_false_iff, ne_eq, SortedMap.isEmpty_iff]
  intro h
  simpa using h kind

theorem isEmpty_unionWith {kinds kinds' : KindOrigins}
    {f : SortedSet String → SortedSet String → SortedSet String} (h : kinds.isEmpty = false) :
    (kinds.unionWith f kinds').isEmpty = false := by
  rw [Bool.eq_false_iff, ne_eq, SortedMap.isEmpty_iff] at h ⊢
  intro h'
  refine h fun kind => ?_
  have := h' kind
  rw [SortedMap.get?_unionWith] at this
  cases hk : kinds.get? kind with
  | none => rfl
  | some o => cases ho : kinds'.get? kind <;> simp [hk, ho] at this

/-- Holds `kind` on `frame`, with `origins` beside those that it has there already. -/
def add (t : Taint) (frame : Frame) (kind : Kind) (origins : List String) : Taint where
  frames := t.frames.upsert frame fun kinds =>
    (kinds.getD .empty).upsert kind fun old => (old.getD .empty).union (.ofList origins)
  nonempty := by
    intro f kinds h
    rw [SortedMap.get?_upsert] at h
    split at h
    · obtain rfl := Option.some.inj h
      exact isEmpty_upsert
    · exact t.nonempty f kinds h

/-- One kind on one frame. -/
def ofFrame (frame : Frame) (kind : Kind) (origins : List String) : Taint :=
  bottom.add frame kind origins

/-- The frames in order. -/
def frameList (t : Taint) : List Frame := t.frames.keys

/-- Every kind, on any frame. -/
def kinds (t : Taint) : SortedSet Kind :=
  .ofList (t.frames.entries.flatMap fun e => e.2.keys)

/-- Is a kind held on any frame? -/
def containsKind (t : Taint) (kind : Kind) : Bool :=
  t.frames.entries.any fun e => (e.2.get? kind).isSome

/-- A test of a kind, with the callee and the port of the frame on which it is held. -/
abbrev Test := Option Method → Option AccessPath → Kind → Bool

/-- The kinds that pass a test. -/
def filter (t : Taint) (p : Test) : Taint where
  frames := t.frames.filterMap fun frame kinds =>
    nonempty? (kinds.filter fun kind _ => p frame.callee frame.port kind)
  nonempty := by
    intro f kinds h
    simp only [SortedMap.get?_filterMap, Option.bind_eq_some_iff] at h
    obtain ⟨_, _, h⟩ := h
    exact isEmpty_of_nonempty? h

/-- Does `b` hold every kind of `a`, on the same frame and with all its origins? -/
def leq (a b : Taint) : Bool :=
  a.frames.entries.all fun e =>
    match b.frames.get? e.1 with
    | none => false
    | some kinds =>
        e.2.entries.all fun e =>
          match kinds.get? e.1 with
          | none => false
          | some origins => e.2.subset origins

/-- Does each of two taints hold what the other one holds? -/
def equals (a b : Taint) : Bool := a.leq b && b.leq a

/-- What either taint holds. -/
def join (a b : Taint) : Taint where
  frames := a.frames.unionWith (SortedMap.unionWith SortedSet.union) b.frames
  nonempty := by
    intro f kinds h
    rw [SortedMap.get?_unionWith] at h
    cases ha : a.frames.get? f with
    | none => exact b.nonempty f kinds (by simpa [ha] using h)
    | some k =>
        have full := a.nonempty f k ha
        cases hb : b.frames.get? f with
        | none =>
            rw [ha, hb] at h
            obtain rfl := Option.some.inj h
            exact full
        | some k' =>
            rw [ha, hb] at h
            obtain rfl := Option.some.inj h
            exact isEmpty_unionWith full

/-- What both taints hold.  A kind that both hold without a common origin is kept without one. -/
def meet (a b : Taint) : Taint where
  frames := a.frames.interWith (fun kinds kinds' =>
    nonempty? (kinds.interWith (fun o o' => some (o.inter o')) kinds')) b.frames
  nonempty := by
    intro f kinds h
    simp only [SortedMap.get?_interWith, Option.bind_eq_some_iff] at h
    obtain ⟨_, _, _, _, h⟩ := h
    exact isEmpty_of_nonempty? h

/-- Chains of taints over the frames, kinds and origins of a program are finite, so the join widens
enough. -/
def widen (a b : Taint) : Taint := a.join b

/-- The meet narrows enough, for the same reason. -/
def narrow (a b : Taint) : Taint := a.meet b

/-! ## What the operations do to the origins -/

/-- Taints with the same origins are equal. -/
theorem ext_origins {a b : Taint}
    (h : ∀ frame kind, a.origins? frame kind = b.origins? frame kind) : a = b := by
  suffices a.frames = b.frames by
    cases a
    cases b
    simp_all
  ext1 f
  have hf := h f
  simp only [origins?] at hf
  cases ha : a.frames.get? f with
  | none =>
      cases hb : b.frames.get? f with
      | none => rfl
      | some kinds =>
          have full := b.nonempty f kinds hb
          rw [ha, hb] at hf
          rw [SortedMap.isEmpty_iff.2 fun k => (hf k).symm] at full
          simp at full
  | some kinds =>
      cases hb : b.frames.get? f with
      | none =>
          have full := a.nonempty f kinds ha
          rw [ha, hb] at hf
          rw [SortedMap.isEmpty_iff.2 fun k => hf k] at full
          simp at full
      | some kinds' =>
          rw [ha, hb] at hf
          exact congrArg some (SortedMap.ext hf)

@[simp] theorem origins?_bottom {frame : Frame} {kind : Kind} :
    bottom.origins? frame kind = none := rfl

theorem isBottom_iff {t : Taint} :
    t.isBottom = true ↔ ∀ frame kind, t.origins? frame kind = none := by
  rw [isBottom, SortedMap.isEmpty_iff]
  constructor
  · intro h frame kind
    simp [origins?, h frame]
  · intro h frame
    cases hf : t.frames.get? frame with
    | none => rfl
    | some kinds =>
        have full := t.nonempty frame kinds hf
        rw [SortedMap.isEmpty_iff.2 fun k => by simpa [origins?, hf] using h frame k] at full
        simp at full

theorem origins?_add {t : Taint} {frame f : Frame} {kind k : Kind} {origins : List String} :
    (t.add frame kind origins).origins? f k =
      if f = frame ∧ k = kind then
        some (((t.origins? frame kind).getD .empty).union (.ofList origins))
      else t.origins? f k := by
  simp only [add, origins?, SortedMap.get?_upsert]
  by_cases hf : f = frame
  · subst hf
    by_cases hk : k = kind
    · subst hk
      cases t.frames.get? f <;> simp
    · cases t.frames.get? f <;> simp [hk]
  · simp [hf]

theorem bind_nonempty? {kinds : KindOrigins} {kind : Kind} :
    (nonempty? kinds).bind (·.get? kind) = kinds.get? kind := by
  simp only [nonempty?]
  split
  next none => simp [SortedMap.isEmpty_iff.1 none kind]
  next => rfl

theorem origins?_filter {t : Taint} {p : Test} {frame : Frame} {kind : Kind} :
    (t.filter p).origins? frame kind =
      if p frame.callee frame.port kind then t.origins? frame kind else none := by
  simp only [filter, origins?, SortedMap.get?_filterMap]
  cases t.frames.get? frame with
  | none => simp
  | some kinds =>
      simp only [Option.bind_some, bind_nonempty?, SortedMap.filter, SortedMap.get?_filterMap]
      cases kinds.get? kind <;> simp

theorem origins?_join {a b : Taint} {frame : Frame} {kind : Kind} :
    (a.join b).origins? frame kind =
      match a.origins? frame kind, b.origins? frame kind with
      | none, o => o
      | some o, none => some o
      | some o, some o' => some (o.union o') := by
  simp only [join, origins?, SortedMap.get?_unionWith]
  cases a.frames.get? frame with
  | none => rfl
  | some kinds =>
      cases b.frames.get? frame with
      | none => cases hk : kinds.get? kind <;> simp [hk]
      | some kinds' =>
          simp only [Option.bind_some, SortedMap.get?_unionWith]
          cases kinds.get? kind <;> cases kinds'.get? kind <;> rfl

theorem origins?_meet {a b : Taint} {frame : Frame} {kind : Kind} :
    (a.meet b).origins? frame kind =
      (a.origins? frame kind).bind fun o => (b.origins? frame kind).map o.inter := by
  simp only [meet, origins?, SortedMap.get?_interWith]
  cases a.frames.get? frame with
  | none => rfl
  | some kinds =>
      cases b.frames.get? frame with
      | none => cases hk : kinds.get? kind <;> simp [hk]
      | some kinds' =>
          simp only [Option.bind_some, bind_nonempty?, SortedMap.get?_interWith]
          cases kinds.get? kind with
          | none => rfl
          | some o => cases kinds'.get? kind <;> rfl

end Taint

end TaintFlow
