import TaintFlow.Taint.Basic

/-!
# The facts of a taint

A taint is a map of maps of sets, and what it says are facts of two forms: a kind is held on a
frame, and a kind that is held there was introduced at an origin.  A kind may be held without any
origin, so neither form can be left out.

Taints with the same facts are equal (`Taint.ext_facts`), a taint is below another when its facts
are (`Taint.leq_iff`), and the operations on taints are those on sets of facts (`Taint.mem_add`,
`Taint.mem_join`, `Taint.mem_meet`).  That a taint without the facts of a frame does not have the
frame either is what its invariant says, and where the order needs it.
-/

namespace TaintFlow

/-- What a taint can say. -/
inductive Taint.Fact where
  /-- The kind is held on the frame. -/
  | held (frame : Frame) (kind : Kind)
  /-- The kind is held on the frame, and was introduced at the origin. -/
  | introduced (frame : Frame) (kind : Kind) (origin : String)

namespace Taint

/-- Does a taint say that a fact is so? -/
def Says (t : Taint) : Fact → Prop
  | .held frame kind => ∃ origins, t.origins? frame kind = some origins
  | .introduced frame kind origin =>
      ∃ origins, t.origins? frame kind = some origins ∧ origin ∈ origins

instance : Membership Fact Taint := ⟨Says⟩

theorem held_mem_iff {t : Taint} {frame : Frame} {kind : Kind} :
    .held frame kind ∈ t ↔ ∃ origins, t.origins? frame kind = some origins := Iff.rfl

theorem introduced_mem_iff {t : Taint} {frame : Frame} {kind : Kind} {origin : String} :
    .introduced frame kind origin ∈ t ↔
      ∃ origins, t.origins? frame kind = some origins ∧ origin ∈ origins := Iff.rfl

/-- Taints with the same facts are equal. -/
theorem ext_facts {a b : Taint} (h : ∀ f, f ∈ a ↔ f ∈ b) : a = b := by
  refine ext_origins fun frame kind => ?_
  have held := h (.held frame kind)
  simp only [held_mem_iff] at held
  cases ha : a.origins? frame kind with
  | none =>
      cases hb : b.origins? frame kind with
      | none => rfl
      | some o => simp [ha, hb] at held
  | some o =>
      cases hb : b.origins? frame kind with
      | none => simp [ha, hb] at held
      | some o' =>
          refine congrArg some (SortedSet.ext fun origin => ?_)
          simpa [introduced_mem_iff, ha, hb] using h (.introduced frame kind origin)

/-! ## The operations -/

@[simp] theorem not_mem_bottom {f : Fact} : f ∉ bottom := by
  cases f with
  | held => rintro ⟨_, h⟩; cases h
  | introduced => rintro ⟨_, h, _⟩; cases h

/-- The taint without facts is the one that is bottom. -/
theorem isBottom_iff_eq {t : Taint} : t.isBottom = true ↔ t = bottom := by
  rw [isBottom_iff]
  constructor
  · intro h
    exact ext_origins h
  · rintro rfl frame kind
    exact origins?_bottom

theorem mem_join {a b : Taint} {f : Fact} : f ∈ a.join b ↔ f ∈ a ∨ f ∈ b := by
  cases f with
  | held frame kind =>
      simp only [held_mem_iff, origins?_join]
      cases a.origins? frame kind <;> cases b.origins? frame kind <;> simp
  | introduced frame kind origin =>
      simp only [introduced_mem_iff, origins?_join]
      cases a.origins? frame kind <;> cases b.origins? frame kind <;> simp

theorem mem_meet {a b : Taint} {f : Fact} : f ∈ a.meet b ↔ f ∈ a ∧ f ∈ b := by
  cases f with
  | held frame kind =>
      simp only [held_mem_iff, origins?_meet]
      cases a.origins? frame kind <;> cases b.origins? frame kind <;> simp
  | introduced frame kind origin =>
      simp only [introduced_mem_iff, origins?_meet]
      cases a.origins? frame kind <;> cases b.origins? frame kind <;> simp

theorem mem_add {t : Taint} {frame : Frame} {kind : Kind} {origins : List String} {f : Fact} :
    f ∈ t.add frame kind origins ↔
      f ∈ t ∨ f = .held frame kind ∨ ∃ origin ∈ origins, f = .introduced frame kind origin := by
  cases f with
  | held frame' kind' =>
      simp only [held_mem_iff, origins?_add]
      by_cases same : frame' = frame ∧ kind' = kind <;> simp [same]
  | introduced frame' kind' origin =>
      simp only [introduced_mem_iff, origins?_add]
      by_cases same : frame' = frame ∧ kind' = kind
      · obtain ⟨rfl, rfl⟩ := same
        cases t.origins? frame' kind' <;> simp
      · have other : ∀ o, Fact.introduced frame' kind' origin ≠ .introduced frame kind o := by
          rintro o ⟨⟩
          exact same ⟨rfl, rfl⟩
        simp [same, other]

/-! ## The order -/

theorem origins?_eq_some_iff {t : Taint} {frame : Frame} {kind : Kind}
    {origins : SortedSet String} :
    t.origins? frame kind = some origins ↔
      ∃ kinds, t.frames.get? frame = some kinds ∧ kinds.get? kind = some origins :=
  Option.bind_eq_some_iff

theorem leq_iff_origins {a b : Taint} :
    a.leq b = true ↔ ∀ frame kind origins, a.origins? frame kind = some origins →
      ∃ origins', b.origins? frame kind = some origins' ∧ ∀ o ∈ origins, o ∈ origins' := by
  rw [leq, SortedMap.all_entries_iff]
  constructor
  · intro h frame kind origins held
    obtain ⟨kinds, hkinds, hkind⟩ := origins?_eq_some_iff.1 held
    have h := h frame kinds hkinds
    cases hb : b.frames.get? frame with
    | none => simp [hb] at h
    | some kinds' =>
        rw [hb] at h
        have h := SortedMap.all_entries_iff.1 h kind origins hkind
        cases hkind' : kinds'.get? kind with
        | none => simp [hkind'] at h
        | some origins' =>
            refine ⟨origins', origins?_eq_some_iff.2 ⟨kinds', hb, hkind'⟩, ?_⟩
            simpa [hkind', SortedSet.subset_iff] using h
  · intro h frame kinds hkinds
    have h : ∀ kind origins, kinds.get? kind = some origins → _ := fun kind origins hkind =>
      h frame kind origins (origins?_eq_some_iff.2 ⟨kinds, hkinds, hkind⟩)
    -- The frame has a kind, so the other taint has the frame.
    obtain ⟨kind, origins, hkind⟩ :=
      SortedMap.exists_get?_of_isEmpty_eq_false (a.nonempty frame kinds hkinds)
    obtain ⟨_, held', _⟩ := h kind origins hkind
    obtain ⟨kinds', hb, _⟩ := origins?_eq_some_iff.1 held'
    rw [hb]
    refine SortedMap.all_entries_iff.2 fun kind origins hkind => ?_
    obtain ⟨origins', held', subset⟩ := h kind origins hkind
    have hkind' : kinds'.get? kind = some origins' := by simpa [origins?, hb] using held'
    rw [hkind']
    exact SortedSet.subset_iff.2 subset

/-- A taint is below another one exactly when its facts are facts of the other. -/
theorem leq_iff {a b : Taint} : a.leq b = true ↔ ∀ f ∈ a, f ∈ b := by
  rw [leq_iff_origins]
  constructor
  · intro h f hf
    cases f with
    | held frame kind =>
        obtain ⟨origins, held⟩ := hf
        obtain ⟨origins', held', _⟩ := h frame kind origins held
        exact ⟨origins', held'⟩
    | introduced frame kind origin =>
        obtain ⟨origins, held, mem⟩ := hf
        obtain ⟨origins', held', subset⟩ := h frame kind origins held
        exact ⟨origins', held', subset origin mem⟩
  · intro h frame kind origins held
    obtain ⟨origins', held'⟩ := h (.held frame kind) ⟨origins, held⟩
    refine ⟨origins', held', fun origin mem => ?_⟩
    obtain ⟨other, heldOther, mem'⟩ := h (.introduced frame kind origin) ⟨origins, held, mem⟩
    obtain rfl := Option.some.inj (held'.symm.trans heldOther)
    exact mem'

/-! ## Entries -/

/-- A kind on a frame, with the origins that are added for it. -/
abbrev Entry := Frame × Kind × List String

/-- Adds the entries of a list one after the other. -/
def addAll (t : Taint) (l : List Entry) : Taint := l.foldl (fun t e => t.add e.1 e.2.1 e.2.2) t

theorem mem_addAll {t : Taint} {l : List Entry} {f : Fact} :
    f ∈ t.addAll l ↔ f ∈ t ∨ ∃ e ∈ l,
      f = .held e.1 e.2.1 ∨ ∃ origin ∈ e.2.2, f = .introduced e.1 e.2.1 origin := by
  induction l generalizing t with
  | nil => simp [addAll]
  | cons e rest ih =>
      have step : t.addAll (e :: rest) = (t.add e.1 e.2.1 e.2.2).addAll rest := rfl
      rw [step, ih, mem_add]
      simp only [List.mem_cons, exists_eq_or_imp, or_assoc]

/-- The kinds of a taint on their frames, in order, with all their origins. -/
def entryList (t : Taint) : List Entry :=
  t.frames.entries.flatMap fun e => e.2.entries.map fun k => (e.1, k.1, k.2.toList)

theorem mem_entryList_iff {t : Taint} {frame : Frame} {kind : Kind} {l : List String} :
    (frame, kind, l) ∈ t.entryList ↔
      ∃ origins, t.origins? frame kind = some origins ∧ origins.toList = l := by
  simp only [entryList, List.mem_flatMap, List.mem_map, Prod.mk.injEq, Prod.exists,
    ← SortedMap.get?_eq_some_iff, origins?_eq_some_iff]
  constructor
  · rintro ⟨_, kinds, hkinds, _, origins, hkind, rfl, rfl, rfl⟩
    exact ⟨origins, ⟨kinds, hkinds, hkind⟩, rfl⟩
  · rintro ⟨origins, ⟨kinds, hkinds, hkind⟩, rfl⟩
    exact ⟨frame, kinds, hkinds, kind, origins, hkind, rfl, rfl, rfl⟩

/-- A taint comes from the empty one by adding its own entries. -/
theorem addAll_entryList (t : Taint) : bottom.addAll t.entryList = t := by
  refine ext_facts fun f => ?_
  rw [mem_addAll]
  constructor
  · rintro (absurd | ⟨⟨frame, kind, l⟩, he, h⟩)
    · exact (not_mem_bottom absurd).elim
    obtain ⟨origins, held, rfl⟩ := mem_entryList_iff.1 he
    rcases h with rfl | ⟨origin, mem, rfl⟩
    · exact ⟨origins, held⟩
    · exact ⟨origins, held, mem⟩
  · intro h
    right
    cases f with
    | held frame kind =>
        obtain ⟨origins, held⟩ := h
        exact ⟨_, mem_entryList_iff.2 ⟨origins, held, rfl⟩, Or.inl rfl⟩
    | introduced frame kind origin =>
        obtain ⟨origins, held, mem⟩ := h
        exact ⟨_, mem_entryList_iff.2 ⟨origins, held, rfl⟩, Or.inr ⟨origin, mem, rfl⟩⟩

end Taint

end TaintFlow
