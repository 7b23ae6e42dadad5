/-!
# Finite maps in increasing order of key

A `SortedMap` lists its entries with strictly increasing keys.  What a map holds is what `get?`
returns: `SortedMap.ext` says that maps with the same `get?` are equal, and `get?_upsert`,
`get?_filterMap` and `get?_unionWith` say what each operation does to it.  The map of a list has the
keys of the list, each with one of its values (`mem_keys_ofList`, `mem_of_get?_ofList`).
-/

namespace TaintFlow

/-- A finite map, listed with strictly increasing keys. -/
structure SortedMap (α β : Type) [Ord α] where
  /-- Keys with their values, from the smallest key to the largest. -/
  entries : List (α × β)
  /-- Every key is smaller than all that follow it. -/
  sorted : entries.Pairwise fun a b => compare a.1 b.1 = .lt

namespace SortedMap

variable {α β γ : Type} [Ord α]

instance [DecidableEq α] [DecidableEq β] : DecidableEq (SortedMap α β) := fun m n =>
  decidable_of_iff (m.entries = n.entries) (by cases m; cases n; simp)

/-- The map without entries. -/
def empty : SortedMap α β := ⟨[], .nil⟩

def isEmpty (m : SortedMap α β) : Bool := m.entries.isEmpty

def size (m : SortedMap α β) : Nat := m.entries.length

/-- The keys from the smallest to the largest. -/
def keys (m : SortedMap α β) : List α := m.entries.map Prod.fst

/-- The values in the order of their keys. -/
def values (m : SortedMap α β) : List β := m.entries.map Prod.snd

/-- The value of the first entry whose key the order does not tell apart from `k`. -/
def lookupIn (k : α) : List (α × β) → Option β
  | [] => none
  | (k', v) :: rest => if compare k k' = .eq then some v else lookupIn k rest

/-- The value of a key. -/
def get? (m : SortedMap α β) (k : α) : Option β := lookupIn k m.entries

/-- Sets the value of `k` to `f` of what it was, keeping the order of the keys. -/
def upsertInto (k : α) (f : Option β → β) : List (α × β) → List (α × β)
  | [] => [(k, f none)]
  | (k', v) :: rest =>
      match compare k k' with
      | .lt => (k, f none) :: (k', v) :: rest
      | .eq => (k', f (some v)) :: rest
      | .gt => (k', v) :: upsertInto k f rest

/-- Replaces or drops every value, keeping the order of the keys. -/
def filterMapIn (f : α → β → Option γ) : List (α × β) → List (α × γ)
  | [] => []
  | (k, v) :: rest =>
      match f k v with
      | none => filterMapIn f rest
      | some w => (k, w) :: filterMapIn f rest

theorem key_of_mem_upsertInto {k : α} {f : Option β → β} {l : List (α × β)} {e : α × β}
    (h : e ∈ upsertInto k f l) : e.1 = k ∨ ∃ e' ∈ l, e'.1 = e.1 := by
  induction l with
  | nil =>
      simp only [upsertInto, List.mem_singleton] at h
      subst h
      exact .inl rfl
  | cons head rest ih =>
      obtain ⟨k', v⟩ := head
      simp only [upsertInto] at h
      split at h
      next =>
        rcases List.mem_cons.1 h with rfl | h
        · exact .inl rfl
        · exact .inr ⟨e, h, rfl⟩
      next =>
        rcases List.mem_cons.1 h with rfl | h
        · exact .inr ⟨(k', v), by simp, rfl⟩
        · exact .inr ⟨e, by simp [h], rfl⟩
      next =>
        rcases List.mem_cons.1 h with rfl | h
        · exact .inr ⟨(k', v), by simp, rfl⟩
        · rcases ih h with same | ⟨e', he', same⟩
          · exact .inl same
          · exact .inr ⟨e', by simp [he'], same⟩

omit [Ord α] in
theorem key_of_mem_filterMapIn {f : α → β → Option γ} {l : List (α × β)} {e : α × γ}
    (h : e ∈ filterMapIn f l) : ∃ e' ∈ l, e'.1 = e.1 := by
  induction l with
  | nil => simp [filterMapIn] at h
  | cons head rest ih =>
      obtain ⟨k, v⟩ := head
      simp only [filterMapIn] at h
      split at h
      next =>
        obtain ⟨e', he', same⟩ := ih h
        exact ⟨e', by simp [he'], same⟩
      next =>
        rcases List.mem_cons.1 h with rfl | h
        · exact ⟨(k, v), by simp, rfl⟩
        · obtain ⟨e', he', same⟩ := ih h
          exact ⟨e', by simp [he'], same⟩

theorem filterMapIn_sorted (f : α → β → Option γ) {l : List (α × β)}
    (h : l.Pairwise fun a b => compare a.1 b.1 = .lt) :
    (filterMapIn f l).Pairwise fun a b => compare a.1 b.1 = .lt := by
  induction l with
  | nil => simp [filterMapIn]
  | cons head rest ih =>
      obtain ⟨k, v⟩ := head
      obtain ⟨first, others⟩ := List.pairwise_cons.1 h
      simp only [filterMapIn]
      split
      next => exact ih others
      next =>
        refine List.pairwise_cons.2 ⟨fun e he => ?_, ih others⟩
        obtain ⟨e', he', same⟩ := key_of_mem_filterMapIn he
        exact same ▸ first e' he'

/-- Replaces or drops every value. -/
def filterMap (f : α → β → Option γ) (m : SortedMap α β) : SortedMap α γ :=
  ⟨filterMapIn f m.entries, filterMapIn_sorted f m.sorted⟩

/-- The entries that pass a test. -/
def filter (p : α → β → Bool) (m : SortedMap α β) : SortedMap α β :=
  m.filterMap fun k v => if p k v then some v else none

/-- Keeps the keys that both maps have, where `f` may still drop the pair of values. -/
def interWith {β' : Type} (f : β → β' → Option γ) (m : SortedMap α β) (n : SortedMap α β') :
    SortedMap α γ :=
  m.filterMap fun k v => (n.get? k).bind (f v)

@[simp] theorem get?_empty {k : α} : (empty : SortedMap α β).get? k = none := rfl

theorem lookupIn_eq_none {k : α} {l : List (α × β)} (h : ∀ e ∈ l, compare k e.1 ≠ .eq) :
    lookupIn k l = none := by
  induction l with
  | nil => rfl
  | cons head rest ih =>
      simp only [lookupIn]
      rw [if_neg (h head (by simp))]
      exact ih fun e he => h e (by simp [he])

section Lawful

variable [Std.LawfulEqOrd α]

theorem lookupIn_eq_some_iff {k : α} {v : β} {l : List (α × β)}
    (h : l.Pairwise fun a b => compare a.1 b.1 = .lt) :
    lookupIn k l = some v ↔ (k, v) ∈ l := by
  induction l with
  | nil => simp [lookupIn]
  | cons head rest ih =>
      obtain ⟨k', v'⟩ := head
      obtain ⟨first, others⟩ := List.pairwise_cons.1 h
      simp only [lookupIn, List.mem_cons, Prod.mk.injEq]
      split
      next same =>
        have same := Std.LawfulEqCmp.eq_of_compare same
        subst same
        have absent : (k, v) ∉ rest := fun he => by simpa using first _ he
        simp [absent, eq_comm]
      next other =>
        have other : k ≠ k' := fun e => other (by simp [e])
        simp [other, ih others]

theorem get?_eq_some_iff {m : SortedMap α β} {k : α} {v : β} :
    m.get? k = some v ↔ (k, v) ∈ m.entries :=
  lookupIn_eq_some_iff m.sorted

theorem get?_eq_none_iff {m : SortedMap α β} {k : α} : m.get? k = none ↔ k ∉ m.keys := by
  rw [Option.eq_none_iff_forall_ne_some]
  simp [get?_eq_some_iff, keys]

theorem isSome_get?_iff {m : SortedMap α β} {k : α} : (m.get? k).isSome = true ↔ k ∈ m.keys := by
  rw [Option.isSome_iff_exists]
  simp [get?_eq_some_iff, keys]

theorem isEmpty_iff {m : SortedMap α β} : m.isEmpty = true ↔ ∀ k, m.get? k = none := by
  simp only [get?_eq_none_iff, keys, isEmpty, List.isEmpty_iff]
  constructor
  · intro h k
    simp [h]
  · intro h
    rw [List.eq_nil_iff_forall_not_mem]
    intro e he
    exact h e.1 (List.mem_map_of_mem he)

theorem exists_get?_of_isEmpty_eq_false {m : SortedMap α β} (h : m.isEmpty = false) :
    ∃ k v, m.get? k = some v := by
  obtain ⟨l, sorted⟩ := m
  cases l with
  | nil => cases h
  | cons e rest => exact ⟨e.1, e.2, get?_eq_some_iff.2 (List.mem_cons_self ..)⟩

theorem all_entries_iff {m : SortedMap α β} {p : α × β → Bool} :
    m.entries.all p = true ↔ ∀ k v, m.get? k = some v → p (k, v) = true := by
  simp only [List.all_eq_true, get?_eq_some_iff, Prod.forall]

theorem lookupIn_filterMapIn {f : α → β → Option γ} {l : List (α × β)} {k : α}
    (h : l.Pairwise fun a b => compare a.1 b.1 = .lt) :
    lookupIn k (filterMapIn f l) = (lookupIn k l).bind (f k) := by
  induction l with
  | nil => rfl
  | cons head rest ih =>
      obtain ⟨k', v⟩ := head
      obtain ⟨first, others⟩ := List.pairwise_cons.1 h
      simp only [filterMapIn, lookupIn, Std.LawfulEqCmp.compare_eq_iff_eq]
      by_cases same : k = k'
      · subst same
        have absent : lookupIn k rest = none := lookupIn_eq_none fun e he => by simp [first e he]
        cases hv : f k v with
        | none => simp [ih others, absent, hv]
        | some w => simp [lookupIn, hv]
      · cases hv : f k' v with
        | none => simp [same, ih others]
        | some w => simp [lookupIn, same, ih others]

@[simp] theorem get?_filterMap {m : SortedMap α β} {f : α → β → Option γ} {k : α} :
    (m.filterMap f).get? k = (m.get? k).bind (f k) :=
  lookupIn_filterMapIn m.sorted

@[simp] theorem get?_interWith {β' : Type} {f : β → β' → Option γ} {m : SortedMap α β}
    {n : SortedMap α β'} {k : α} :
    (m.interWith f n).get? k = (m.get? k).bind fun v => (n.get? k).bind (f v) := by
  simp [interWith]

end Lawful

section Ordered

variable [Std.TransOrd α]

theorem upsertInto_sorted (k : α) (f : Option β → β) {l : List (α × β)}
    (h : l.Pairwise fun a b => compare a.1 b.1 = .lt) :
    (upsertInto k f l).Pairwise fun a b => compare a.1 b.1 = .lt := by
  induction l with
  | nil => simp [upsertInto]
  | cons head rest ih =>
      obtain ⟨k', v⟩ := head
      obtain ⟨first, others⟩ := List.pairwise_cons.1 h
      simp only [upsertInto]
      split
      next before =>
        refine List.pairwise_cons.2 ⟨fun e he => ?_, h⟩
        rcases List.mem_cons.1 he with rfl | he
        · exact before
        · exact Std.TransCmp.lt_trans before (first e he)
      next => exact List.pairwise_cons.2 ⟨first, others⟩
      next after =>
        refine List.pairwise_cons.2 ⟨fun e he => ?_, ih others⟩
        rcases key_of_mem_upsertInto he with same | ⟨e', he', same⟩
        · exact same ▸ Std.OrientedCmp.lt_of_gt after
        · exact same ▸ first e' he'

/-- Sets the value of `k` to `f` of what it was. -/
def upsert (k : α) (f : Option β → β) (m : SortedMap α β) : SortedMap α β :=
  ⟨upsertInto k f m.entries, upsertInto_sorted k f m.sorted⟩

/-- Sets the value of `k`. -/
def insert (k : α) (v : β) (m : SortedMap α β) : SortedMap α β := m.upsert k fun _ => v

/-- The map of a list of entries, where the last entry of a key wins. -/
def ofList (l : List (α × β)) : SortedMap α β := l.foldl (fun m e => m.insert e.1 e.2) empty

/-- Keeps the keys that either map has, and combines the values of those that both have. -/
def unionWith (f : β → β → β) (m n : SortedMap α β) : SortedMap α β :=
  n.entries.foldl (fun m e => m.upsert e.1 fun | none => e.2 | some v => f v e.2) m

variable [Std.LawfulEqOrd α]

theorem lookupIn_upsertInto [DecidableEq α] {k x : α} {f : Option β → β} {l : List (α × β)}
    (h : l.Pairwise fun a b => compare a.1 b.1 = .lt) :
    lookupIn x (upsertInto k f l) = if x = k then some (f (lookupIn k l)) else lookupIn x l := by
  induction l with
  | nil => simp [upsertInto, lookupIn]
  | cons head rest ih =>
      obtain ⟨k', v⟩ := head
      obtain ⟨first, others⟩ := List.pairwise_cons.1 h
      simp only [upsertInto]
      split
      next before =>
        have absent : lookupIn k rest = none :=
          lookupIn_eq_none fun e he => by
            simp [Std.TransCmp.lt_trans before (first e he)]
        have other : k ≠ k' := fun e => by simp [e] at before
        simp [lookupIn, absent, other]
      next same =>
        have same := Std.LawfulEqCmp.eq_of_compare same
        subst same
        simp only [lookupIn, Std.LawfulEqCmp.compare_eq_iff_eq, ite_true]
        split <;> rfl
      next after =>
        have other : k ≠ k' := fun e => by simp [e] at after
        simp only [lookupIn, Std.LawfulEqCmp.compare_eq_iff_eq, ih others, if_neg other]
        split
        next same => simp [same, Ne.symm other]
        next => rfl

@[simp] theorem get?_upsert [DecidableEq α] {m : SortedMap α β} {k x : α} {f : Option β → β} :
    (m.upsert k f).get? x = if x = k then some (f (m.get? k)) else m.get? x :=
  lookupIn_upsertInto m.sorted

@[simp] theorem get?_insert [DecidableEq α] {m : SortedMap α β} {k x : α} {v : β} :
    (m.insert k v).get? x = if x = k then some v else m.get? x := by
  simp [insert]

theorem get?_foldl_upsert {f : β → β → β} {l : List (α × β)} {m : SortedMap α β} {k : α}
    (h : l.Pairwise fun a b => compare a.1 b.1 = .lt) :
    (l.foldl (fun m e => m.upsert e.1 fun | none => e.2 | some v => f v e.2) m).get? k =
      match m.get? k, lookupIn k l with
      | none, w => w
      | some v, none => some v
      | some v, some w => some (f v w) := by
  classical
  induction l generalizing m with
  | nil => cases hm : m.get? k <;> simp [lookupIn, hm]
  | cons head rest ih =>
      obtain ⟨k', w⟩ := head
      obtain ⟨first, others⟩ := List.pairwise_cons.1 h
      rw [List.foldl_cons, ih others]
      simp only [get?_upsert, lookupIn, Std.LawfulEqCmp.compare_eq_iff_eq]
      by_cases same : k = k'
      · subst same
        have absent : lookupIn k rest = none := lookupIn_eq_none fun e he => by simp [first e he]
        cases m.get? k <;> simp [absent]
      · simp [same]

/-- A union holds the combined value of the keys that both maps have, and the value of the one map
for the others. -/
theorem get?_unionWith {f : β → β → β} {m n : SortedMap α β} {k : α} :
    (m.unionWith f n).get? k =
      match m.get? k, n.get? k with
      | none, w => w
      | some v, none => some v
      | some v, some w => some (f v w) :=
  get?_foldl_upsert n.sorted

omit [Std.LawfulEqOrd α] in
theorem nodup_keys (m : SortedMap α β) : m.keys.Nodup := by
  refine List.pairwise_map.2 (m.sorted.imp fun {a b} before same => ?_)
  simp [same] at before

omit [Std.LawfulEqOrd α] in
theorem nodup_entries (m : SortedMap α β) : m.entries.Nodup :=
  (List.pairwise_map.1 m.nodup_keys).imp fun other same => other (congrArg Prod.fst same)

/-- Maps that hold the same values are equal. -/
@[ext] theorem ext {m n : SortedMap α β} (h : ∀ k, m.get? k = n.get? k) : m = n := by
  have perm : m.entries.Perm n.entries := by
    refine (List.perm_ext_iff_of_nodup m.nodup_entries n.nodup_entries).2 fun e => ?_
    rw [← get?_eq_some_iff (k := e.1) (v := e.2), ← get?_eq_some_iff (k := e.1) (v := e.2), h]
  have same : m.entries = n.entries := by
    refine perm.eq_of_pairwise (fun e f _ _ before after => ?_) m.sorted n.sorted
    exact absurd (Std.TransCmp.lt_trans before after) (by simp)
  cases m
  cases n
  rwa [SortedMap.mk.injEq]

/-- What a map holds after a list of insertions was there before or is in the list. -/
theorem mem_of_get?_foldl_insert {l : List (α × β)} {m : SortedMap α β} {k : α} {v : β}
    (h : (l.foldl (fun m e => m.insert e.1 e.2) m).get? k = some v) :
    m.get? k = some v ∨ (k, v) ∈ l := by
  classical
  induction l generalizing m with
  | nil => exact Or.inl h
  | cons e l ih =>
      rcases ih h with h | h
      · rw [get?_insert] at h
        split at h
        next same =>
          cases h
          exact Or.inr (by simp [same])
        next => exact Or.inl h
      · exact Or.inr (List.mem_cons_of_mem _ h)

theorem mem_of_get?_ofList {l : List (α × β)} {k : α} {v : β}
    (h : (ofList l).get? k = some v) : (k, v) ∈ l := by
  rcases mem_of_get?_foldl_insert h with h | h
  · cases h
  · exact h

theorem isSome_get?_foldl_insert {l : List (α × β)} {m : SortedMap α β} {k : α} :
    ((l.foldl (fun m e => m.insert e.1 e.2) m).get? k).isSome = true ↔
      (m.get? k).isSome = true ∨ k ∈ l.map Prod.fst := by
  classical
  induction l generalizing m with
  | nil => simp
  | cons e l ih =>
      rw [List.foldl_cons, ih, get?_insert, List.map_cons, List.mem_cons]
      split
      next same => simp [same]
      next other => simp [other]

theorem mem_keys_ofList {l : List (α × β)} {k : α} : k ∈ (ofList l).keys ↔ k ∈ l.map Prod.fst := by
  rw [← isSome_get?_iff, ofList, isSome_get?_foldl_insert]
  show false = true ∨ _ ↔ _
  simp

theorem exists_mem_of_mem_values_ofList {l : List (α × β)} {v : β} (h : v ∈ (ofList l).values) :
    ∃ k, (k, v) ∈ l := by
  obtain ⟨⟨k, _⟩, hentry, rfl⟩ := List.mem_map.1 h
  exact ⟨k, mem_of_get?_ofList (get?_eq_some_iff.2 hentry)⟩

/-- A map is that of a list which lists all its keys, each with its value. -/
theorem ofList_eq_of_get? {l : List (α × β)} {m : SortedMap α β}
    (values : ∀ e ∈ l, m.get? e.1 = some e.2) (keys : ∀ k ∈ m.keys, k ∈ l.map Prod.fst) :
    ofList l = m := by
  refine ext fun k => ?_
  cases held : (ofList l).get? k with
  | some v => exact (values _ (mem_of_get?_ofList held)).symm
  | none =>
      rw [get?_eq_none_iff, mem_keys_ofList] at held
      exact (get?_eq_none_iff.2 fun hk => held (keys k hk)).symm

omit [Std.TransOrd α] in
/-- A list of keys of a map has the values that the map holds for them. -/
theorem exists_entries {m : SortedMap α β} {keys : List α} (h : ∀ k ∈ keys, k ∈ m.keys) :
    ∃ l : List (α × β), l.map Prod.fst = keys ∧ ∀ e ∈ l, m.get? e.1 = some e.2 := by
  induction keys with
  | nil => exact ⟨[], rfl, List.forall_mem_nil _⟩
  | cons k keys ih =>
      obtain ⟨first, rest⟩ := List.forall_mem_cons.1 h
      obtain ⟨v, hv⟩ := Option.isSome_iff_exists.1 (isSome_get?_iff.2 first)
      obtain ⟨l, hkeys, values⟩ := ih rest
      exact ⟨(k, v) :: l, congrArg (k :: ·) hkeys, List.forall_mem_cons.2 ⟨hv, values⟩⟩

end Ordered

end SortedMap

end TaintFlow
