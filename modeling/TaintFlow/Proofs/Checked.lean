import Mathlib.Data.List.Forall2
import TaintFlow.Event

/-!
# Results of checked and logged operations

How a computation that succeeds is taken apart.  `Checked.bind_eq_ok_iff` does it for two steps, and
`Checked.mapM_eq_ok_iff` for one step at every element of a list: the step succeeds everywhere, and
the results stand in the order of the elements.

The value of a logged operation does not depend on what was reported before it, so the value of an
`Attempt` is that of a `Checked` computation with the same steps.
-/

namespace TaintFlow

/-! ## Checked operations -/

namespace Checked

variable {ε α β : Type}

@[simp] theorem bind_ok (a : α) (f : α → Except ε β) : (.ok a : Except ε α) >>= f = f a := rfl

@[simp] theorem bind_error (e : ε) (f : α → Except ε β) :
    (.error e : Except ε α) >>= f = .error e := rfl

@[simp] theorem pure_eq_ok (a : α) : (pure a : Except ε α) = .ok a := rfl

/-- Two steps succeed when the first one does and the second one does with its result. -/
theorem bind_eq_ok_iff {x : Except ε α} {f : α → Except ε β} {b : β} :
    x >>= f = .ok b ↔ ∃ a, x = .ok a ∧ f a = .ok b := by
  cases x with
  | error e =>
      constructor
      · intro h
        cases h
      · rintro ⟨a, h, _⟩
        cases h
  | ok a =>
      constructor
      · intro h
        exact ⟨a, rfl, h⟩
      · rintro ⟨a', h, hb⟩
        cases h
        exact hb

/-- Two steps fail when the first one does, or when the second one does with its result. -/
theorem bind_eq_error_iff {x : Except ε α} {f : α → Except ε β} {e : ε} :
    x >>= f = .error e ↔ x = .error e ∨ ∃ a, x = .ok a ∧ f a = .error e := by
  cases x with
  | error e' => simp
  | ok a => simp

/-- A check and a step succeed when both do. -/
theorem seq_eq_ok_iff {x : Except ε Unit} {f : Unit → Except ε β} {b : β} :
    x >>= f = .ok b ↔ x = .ok () ∧ f () = .ok b := by
  rw [bind_eq_ok_iff]
  constructor
  · rintro ⟨⟨⟩, h⟩
    exact h
  · intro h
    exact ⟨(), h⟩

/-- An operation that a test refuses fails exactly when the test does. -/
theorem ite_eq_error_iff {refused : Prop} [Decidable refused] {e e' : ε} {a : α} :
    (if refused then .error e else .ok a : Except ε α) = .error e' ↔ refused ∧ e' = e := by
  split
  next h => simp [h, eq_comm]
  next h => simp [h]

/-- A step at every element succeeds when it does at each of them. -/
theorem mapM_eq_ok_iff {f : α → Except ε β} {as : List α} {bs : List β} :
    as.mapM f = .ok bs ↔ List.Forall₂ (fun a b => f a = .ok b) as bs := by
  induction as generalizing bs with
  | nil =>
      rw [List.mapM_nil, pure_eq_ok, List.forall₂_nil_left_iff, Except.ok.injEq]
      exact eq_comm
  | cons a as ih =>
      rw [List.mapM_cons, bind_eq_ok_iff]
      constructor
      · rintro ⟨b, hb, h⟩
        obtain ⟨rest, hrest, h⟩ := bind_eq_ok_iff.1 h
        rw [pure_eq_ok, Except.ok.injEq] at h
        subst h
        exact .cons hb (ih.1 hrest)
      · intro h
        cases h with
        | cons hb hrest => exact ⟨_, hb, bind_eq_ok_iff.2 ⟨_, ih.2 hrest, rfl⟩⟩

/-- A step at the keys of a list succeeds when it does at each of them, and each result stands
beside its key. -/
theorem mapM_key_eq_ok_iff {γ : Type} {f : α → Except ε β} {l : List (α × γ)}
    {entries : List (α × β)} :
    (l.mapM fun m => do return (m.1, ← f m.1)) = .ok entries ↔
      entries.map Prod.fst = l.map Prod.fst ∧ ∀ e ∈ entries, f e.1 = .ok e.2 := by
  induction l generalizing entries with
  | nil =>
      rw [List.mapM_nil, pure_eq_ok, Except.ok.injEq, List.map_nil, List.map_eq_nil_iff]
      constructor
      · rintro rfl
        exact ⟨rfl, List.forall_mem_nil _⟩
      · rintro ⟨rfl, _⟩
        rfl
  | cons m l ih =>
      rw [List.mapM_cons, bind_eq_ok_iff]
      simp only [bind_eq_ok_iff, pure_eq_ok, Except.ok.injEq]
      constructor
      · rintro ⟨_, ⟨value, hvalue, rfl⟩, rest, hrest, rfl⟩
        obtain ⟨keys, values⟩ := ih.1 hrest
        exact ⟨congrArg (m.1 :: ·) keys, List.forall_mem_cons.2 ⟨hvalue, values⟩⟩
      · rintro ⟨keys, values⟩
        cases entries with
        | nil => cases keys
        | cons e entries =>
            obtain ⟨key, value⟩ := e
            obtain ⟨rfl, restKeys⟩ := List.cons.inj keys
            obtain ⟨hvalue, restValues⟩ := List.forall_mem_cons.1 values
            exact ⟨_, ⟨value, hvalue, rfl⟩, entries, ih.2 ⟨restKeys, restValues⟩, rfl⟩

theorem mapM_map {γ : Type} {f : β → Except ε γ} {g : α → β} {h : α → γ} {l : List α}
    (step : ∀ a ∈ l, f (g a) = .ok (h a)) : (l.map g).mapM f = .ok (l.map h) := by
  rw [mapM_eq_ok_iff, List.forall₂_map_left_iff, List.forall₂_map_right_iff, List.forall₂_same]
  exact step

theorem mapM_flatMap {γ : Type} {f : β → Except ε γ} {g : α → List β} {h : α → List γ} {l : List α}
    (step : ∀ a ∈ l, (g a).mapM f = .ok (h a)) : (l.flatMap g).mapM f = .ok (l.flatMap h) := by
  induction l with
  | nil => rfl
  | cons a l ih =>
      obtain ⟨first, rest⟩ := List.forall_mem_cons.1 step
      rw [List.flatMap_cons, List.flatMap_cons, List.mapM_append, first, ih rest]
      rfl

/-- Every result of a step at the elements of a list is its result at one of them. -/
theorem exists_of_mem_mapM {f : α → Except ε β} {as : List α} {bs : List β}
    (h : as.mapM f = .ok bs) {b : β} (hb : b ∈ bs) : ∃ a ∈ as, f a = .ok b := by
  have paired := mapM_eq_ok_iff.1 h
  clear h
  induction paired with
  | nil => cases hb
  | cons first _ ih =>
      rcases List.mem_cons.1 hb with rfl | hb
      · exact ⟨_, List.mem_cons_self .., first⟩
      · obtain ⟨a, ha, hab⟩ := ih hb
        exact ⟨a, List.mem_cons_of_mem _ ha, hab⟩

/-- If a step returns the elements with `p`, each from its image under `g`, then the step at every
element of a list returns the lists of such elements, each from its list of images. -/
theorem mapM_eq_ok_iff_of_inverse {f : α → Except ε β} {p : β → Prop} {g : β → α}
    (h : ∀ {a b}, f a = .ok b ↔ p b ∧ a = g b) {as : List α} {bs : List β} :
    as.mapM f = .ok bs ↔ (∀ b ∈ bs, p b) ∧ as = bs.map g := by
  rw [mapM_eq_ok_iff]
  constructor
  · intro paired
    induction paired with
    | nil => exact ⟨List.forall_mem_nil p, rfl⟩
    | cons first _ ih =>
        obtain ⟨hp, rfl⟩ := h.1 first
        obtain ⟨rest, rfl⟩ := ih
        exact ⟨List.forall_mem_cons.2 ⟨hp, rest⟩, rfl⟩
  · rintro ⟨hp, rfl⟩
    rw [List.forall₂_map_left_iff, List.forall₂_same]
    exact fun b hb => h.2 ⟨hp b hb, rfl⟩

end Checked

/-! ## Logged operations -/

namespace Logged

variable {α β : Type}

/-- A step at every element returns what it returns at each of them. -/
theorem value_mapM (f : α → Logged β) (l : List α) :
    (l.mapM f).value = l.map fun a => (f a).value := by
  induction l with
  | nil => rw [List.mapM_nil, value_pure, List.map_nil]
  | cons a l ih => rw [List.mapM_cons, value_bind, value_bind, value_pure, ih, List.map_cons]

/-- A step at every element reports what it reports at one of them. -/
theorem mem_events_forM {f : α → Logged PUnit} {l : List α} {event : Event} :
    event ∈ (l.forM f).events ↔ ∃ a ∈ l, event ∈ (f a).events := by
  induction l with
  | nil => simp [List.forM]
  | cons a l ih =>
      rw [List.forM, events_bind, List.mem_append, ih]
      simp

end Logged

/-! ## Logged operations that can fail -/

namespace Attempt

variable {α β : Type}

/-- What an operation returns, without what it reports. -/
def value (x : Attempt α) : Checked α := (ExceptT.run x).value

/-- What an operation reports. -/
def events (x : Attempt α) : List Event := (ExceptT.run x).events

@[simp] theorem value_ofChecked (x : Checked α) : (ofChecked x).value = x := rfl

@[simp] theorem value_ofLogged (x : Logged α) : (ofLogged x).value = .ok x.value := rfl

@[simp] theorem value_report (event : Event) : (report event).value = .ok () := rfl

@[simp] theorem value_pure (a : α) : (pure a : Attempt α).value = .ok a := rfl

@[simp] theorem value_throw (e : Failure) : (throw e : Attempt α).value = .error e := rfl

theorem value_bind (x : Attempt α) (f : α → Attempt β) :
    (x >>= f).value = x.value >>= fun a => (f a).value := by
  show (ExceptT.bindCont f (ExceptT.run x).value).value = _
  unfold value
  cases (ExceptT.run x).value with
  | ok a => rfl
  | error e => rfl

@[simp] theorem events_ofLogged (x : Logged α) : (ofLogged x).events = x.events := by
  show (Except.ok <$> x : Logged (Except Failure α)).events = x.events
  rw [map_eq_pure_bind, Logged.events_bind, Logged.events_pure, List.append_nil]

/-- An operation that succeeds and reports nothing only hands on its result. -/
theorem ofChecked_ok_bind (a : α) (f : α → Attempt β) : ofChecked (.ok a) >>= f = f a := rfl

end Attempt

end TaintFlow
