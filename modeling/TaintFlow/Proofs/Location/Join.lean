import Mathlib.Order.Bounds.Basic
import TaintFlow.Location.AccessPath
import TaintFlow.Proofs.Checked

/-!
# Joins of locations

A location covers another one of its root when the path of the other begins with its own.  So the
shorter of two paths covers more, and what covers two locations has a common prefix of their paths.
Their join has the longest one, which makes it their least upper bound.

A solver keeps one location and joins others to it until nothing changes.  `AccessPath.joinRun`
lists the values that such a run goes through.  A value that changes gets shorter, so a run from `a`
changes its value no more often than the path of `a` is long.  Where it ends depends on the
locations alone and not on their order: at the longest common prefix of all of them.
-/

namespace TaintFlow

/-! ## Common prefixes -/

namespace Path

/-- The paths with which a common prefix begins are those with which both paths begin. -/
theorem prefix_commonPrefix_iff {p q r : Path} :
    r <+: p.commonPrefix q ↔ r <+: p ∧ r <+: q := by
  induction p generalizing q r with
  | nil =>
      simp only [commonPrefix, List.prefix_nil, iff_self_and]
      rintro rfl
      exact List.nil_prefix
  | cons e p ih =>
      cases q with
      | nil =>
          simp only [commonPrefix, List.prefix_nil, iff_and_self]
          rintro rfl
          exact List.nil_prefix
      | cons f q =>
          cases r with
          | nil => simp
          | cons g r =>
              rw [commonPrefix]
              split
              next same =>
                subst same
                simp only [List.cons_prefix_cons, ih]
                exact and_and_left
              next differ =>
                simp only [List.cons_prefix_cons, List.prefix_nil, reduceCtorEq, false_iff]
                rintro ⟨⟨rfl, _⟩, rfl, _⟩
                exact differ rfl

theorem prefix_foldl_commonPrefix_iff {p r : Path} {l : List Path} :
    r <+: l.foldl commonPrefix p ↔ ∀ q ∈ p :: l, r <+: q := by
  induction l generalizing p with
  | nil => simp
  | cons q l ih =>
      rw [List.foldl_cons, ih]
      simp only [List.forall_mem_cons, prefix_commonPrefix_iff, and_assoc]

/-- All paths of a list begin with `p`, and with no longer path. -/
structure IsLongestCommonPrefix (p : Path) (l : List Path) : Prop where
  common (q : Path) : q ∈ l → p <+: q
  longest (r : Path) : (∀ q ∈ l, r <+: q) → r <+: p

theorem isLongestCommonPrefix_foldl (p : Path) (l : List Path) :
    IsLongestCommonPrefix (l.foldl commonPrefix p) (p :: l) where
  common := prefix_foldl_commonPrefix_iff.1 (List.prefix_refl _)
  longest _ common := prefix_foldl_commonPrefix_iff.2 common

/-- The order of the paths does not matter, nor how often one of them is in the list. -/
theorem IsLongestCommonPrefix.unique {p p' : Path} {l l' : List Path}
    (h : p.IsLongestCommonPrefix l) (h' : p'.IsLongestCommonPrefix l')
    (same : ∀ q, q ∈ l ↔ q ∈ l') : p = p' := by
  have below : p <+: p' := h'.longest p fun q hq => h.common q ((same q).2 hq)
  have above : p' <+: p := h.longest p' fun q hq => h'.common q ((same q).1 hq)
  exact below.eq_of_length_le above.length_le

end Path

namespace AccessPath

variable {a b c u : AccessPath} {l values : List AccessPath}

/-! ## The order -/

theorem leq_iff : a.leq b = true ↔ a.root = b.root ∧ b.path <+: a.path := by
  rw [leq, Bool.and_eq_true, decide_eq_true_iff, List.isPrefixOf_iff_prefix]

instance : LE AccessPath := ⟨fun a b => a.leq b = true⟩

theorem le_iff : a ≤ b ↔ a.root = b.root ∧ b.path <+: a.path := leq_iff

instance : PartialOrder AccessPath where
  le_refl _ := le_iff.2 ⟨rfl, List.prefix_refl _⟩
  le_trans _ _ _ hab hbc :=
    le_iff.2 ⟨(le_iff.1 hab).1.trans (le_iff.1 hbc).1, (le_iff.1 hbc).2.trans (le_iff.1 hab).2⟩
  le_antisymm a b hab hba := by
    obtain ⟨root, covers⟩ := le_iff.1 hab
    have path := (le_iff.1 hba).2.eq_of_length_le covers.length_le
    cases a
    cases b
    cases root
    cases path
    rfl

/-! ## Joins -/

theorem join_eq_ok_iff :
    a.join b = .ok c ↔ a.root = b.root ∧ c = ⟨a.root, a.path.commonPrefix b.path⟩ := by
  rw [join]
  split
  next same => simp [same, eq_comm]
  next differ => simp [differ]

theorem join_eq_error_iff {e : Failure} :
    a.join b = .error e ↔ a.root ≠ b.root ∧ e = .contract .joinOfRoots := by
  rw [join]
  split
  next same => simp [same]
  next differ => simp [differ, eq_comm]

/-- A join covers both locations, and is covered by everything that does. -/
theorem isLUB_of_join (joined : a.join b = .ok c) : IsLUB {a, b} c := by
  obtain ⟨same, rfl⟩ := join_eq_ok_iff.1 joined
  obtain ⟨left, right⟩ := Path.prefix_commonPrefix_iff.1 (List.prefix_refl _)
  constructor
  · rintro d (rfl | rfl)
    · exact le_iff.2 ⟨rfl, left⟩
    · exact le_iff.2 ⟨same.symm, right⟩
  · intro d above
    obtain ⟨rootA, pathA⟩ := le_iff.1 (above (Set.mem_insert a {b}))
    obtain ⟨_, pathB⟩ := le_iff.1 (above (Set.mem_insert_of_mem a rfl))
    exact le_iff.2 ⟨rootA, Path.prefix_commonPrefix_iff.2 ⟨pathA, pathB⟩⟩

/-- A location that a join changes gets a shorter path. -/
theorem length_lt_of_join (joined : a.join b = .ok c) (changed : a ≠ c) :
    c.path.length < a.path.length := by
  obtain ⟨root, path⟩ := le_iff.1 ((isLUB_of_join joined).1 (Set.mem_insert a {b}))
  refine Nat.lt_of_le_of_ne path.length_le fun same => changed ?_
  cases a
  cases c
  cases root
  cases path.eq_of_length same
  rfl

/-! ## Runs -/

/-- The values of a run that starts at `a` and joins the locations of a list to it. -/
def joinRun (a : AccessPath) : List AccessPath → Checked (List AccessPath)
  | [] => .ok [a]
  | b :: rest => do
      let c ← a.join b
      return a :: (← c.joinRun rest)

/-- How often a value of a run differs from the one before it. -/
def changes (values : List AccessPath) : Nat :=
  (values.zip values.tail).countP fun x => x.1 ≠ x.2

theorem changes_cons_cons :
    changes (a :: b :: values) = (if a = b then 0 else 1) + changes (b :: values) := by
  by_cases same : a = b <;> simp [changes, same, Nat.add_comm]

theorem joinRun_cons_eq_ok_iff :
    a.joinRun (b :: l) = .ok values ↔
      ∃ c rest, a.join b = .ok c ∧ c.joinRun l = .ok rest ∧ values = a :: rest := by
  rw [joinRun, Checked.bind_eq_ok_iff]
  constructor
  · rintro ⟨c, hc, h⟩
    obtain ⟨rest, hrest, h⟩ := Checked.bind_eq_ok_iff.1 h
    cases h
    exact ⟨c, rest, hc, hrest, rfl⟩
  · rintro ⟨c, rest, hc, hrest, rfl⟩
    exact ⟨c, hc, Checked.bind_eq_ok_iff.2 ⟨rest, hrest, rfl⟩⟩

/-- A run begins with the location that it starts at. -/
theorem exists_tail_of_joinRun (ran : a.joinRun l = .ok values) : ∃ rest, values = a :: rest := by
  cases l with
  | nil =>
      cases ran
      exact ⟨[], rfl⟩
  | cons b l =>
      obtain ⟨_, rest, _, _, rfl⟩ := joinRun_cons_eq_ok_iff.1 ran
      exact ⟨rest, rfl⟩

/-- Nothing but a location of another root stops a run. -/
theorem exists_joinRun (roots : ∀ b ∈ l, b.root = a.root) : ∃ values, a.joinRun l = .ok values := by
  induction l generalizing a with
  | nil => exact ⟨[a], rfl⟩
  | cons b l ih =>
      obtain ⟨first, others⟩ := List.forall_mem_cons.1 roots
      obtain ⟨rest, ran⟩ := ih (a := ⟨a.root, a.path.commonPrefix b.path⟩) others
      have joined := join_eq_ok_iff.2 ⟨first.symm, rfl⟩
      exact ⟨a :: rest, joinRun_cons_eq_ok_iff.2 ⟨_, rest, joined, ran, rfl⟩⟩

/-- A run ends with what all its paths have in common. -/
theorem getLast?_of_joinRun (ran : a.joinRun l = .ok values) :
    values.getLast? = some ⟨a.root, (l.map path).foldl Path.commonPrefix a.path⟩ := by
  induction l generalizing a values with
  | nil =>
      cases ran
      rfl
  | cons b l ih =>
      obtain ⟨c, rest, joined, later, rfl⟩ := joinRun_cons_eq_ok_iff.1 ran
      obtain ⟨tail, rfl⟩ := exists_tail_of_joinRun later
      obtain ⟨_, rfl⟩ := join_eq_ok_iff.1 joined
      rw [List.getLast?_cons_cons, ih later]
      rfl

/-- Each change of a run takes at least one element away. -/
theorem changes_add_length_le_of_joinRun (ran : a.joinRun l = .ok values)
    (last : values.getLast? = some u) : changes values + u.path.length ≤ a.path.length := by
  induction l generalizing a values with
  | nil =>
      cases ran
      cases last
      exact Nat.le_of_eq (Nat.zero_add _)
  | cons b l ih =>
      obtain ⟨c, rest, joined, later, rfl⟩ := joinRun_cons_eq_ok_iff.1 ran
      obtain ⟨tail, rfl⟩ := exists_tail_of_joinRun later
      rw [List.getLast?_cons_cons] at last
      have rest := ih later last
      rw [changes_cons_cons]
      split
      next same =>
        subst same
        omega
      next changed =>
        have shorter := length_lt_of_join joined changed
        omega

/-! ## The laws -/

/-- Covering is a partial order.  The join of two locations of a root is their least upper bound,
and only locations of different roots have none.

A run that joins locations of one root does not fail.  It ends with the longest common prefix of
all paths, and its value changes at most once for each element that is taken away.  A run over the
same locations ends with the same value, wherever it starts and in whatever order it joins the
others. -/
theorem covering_join_laws :
    (∀ a b c : AccessPath,
      a.leq a = true ∧ (a.leq b = true → b.leq c = true → a.leq c = true) ∧
        (a.leq b = true ∧ b.leq a = true ↔ a = b)) ∧
    (∀ a b : AccessPath, a.root = b.root →
      ∃ u, a.join b = .ok u ∧ u.root = a.root ∧ IsLUB {a, b} u) ∧
    (∀ (a b : AccessPath) (e : Failure),
      a.join b = .error e ↔ a.root ≠ b.root ∧ e = .contract .joinOfRoots) ∧
    ∀ (a : AccessPath) (l : List AccessPath), (∀ b ∈ l, b.root = a.root) →
      ∃ values u, a.joinRun l = .ok values ∧ values.getLast? = some u ∧ u.root = a.root ∧
        u.path.IsLongestCommonPrefix ((a :: l).map path) ∧
        changes values + u.path.length ≤ a.path.length ∧
        ∀ a' l', (∀ b, b ∈ a' :: l' ↔ b ∈ a :: l) →
          ∃ values', a'.joinRun l' = .ok values' ∧ values'.getLast? = some u := by
  refine ⟨fun a b c => ⟨le_refl a, ?trans, ?antisymm⟩, ?join, ?fails, ?run⟩
  case trans =>
    intro hab hbc
    exact (le_trans hab hbc : a ≤ c)
  case antisymm => exact (le_antisymm_iff (a := a) (b := b)).symm
  case join =>
    intro a b same
    have joined := join_eq_ok_iff.2 ⟨same, rfl⟩
    exact ⟨_, joined, rfl, isLUB_of_join joined⟩
  case fails =>
    intro a b e
    exact join_eq_error_iff
  case run =>
    intro a l roots
    obtain ⟨values, ran⟩ := exists_joinRun roots
    have last := getLast?_of_joinRun ran
    have longest := Path.isLongestCommonPrefix_foldl a.path (l.map path)
    refine ⟨values, _, ran, last, rfl, longest, changes_add_length_le_of_joinRun ran last, ?_⟩
    intro a' l' same
    have all : ∀ b ∈ a :: l, b.root = a.root := List.forall_mem_cons.2 ⟨rfl, roots⟩
    obtain ⟨root, roots'⟩ : a'.root = a.root ∧ ∀ b ∈ l', b.root = a.root :=
      List.forall_mem_cons.1 fun b hb => all b ((same b).1 hb)
    obtain ⟨values', ran'⟩ := exists_joinRun fun b hb => (roots' b hb).trans root.symm
    have longest' := Path.isLongestCommonPrefix_foldl a'.path (l'.map path)
    have samePaths : ∀ q, q ∈ (a' :: l').map path ↔ q ∈ (a :: l).map path := by
      simp only [List.mem_map, same, implies_true]
    refine ⟨values', ran', ?_⟩
    rw [getLast?_of_joinRun ran', root, longest'.unique longest samePaths]

/-- The fields of the return value, outermost first. -/
def sampleFields (names : List String) : AccessPath := ⟨.returnValue, names.map .field⟩

/-- Both runs end at the return value itself, after one change and after two. -/
theorem covering_join_laws_samples :
    IsLUB {sampleFields ["x", "y"], sampleFields ["x", "z"]} (sampleFields ["x"]) ∧
      (sampleFields ["x", "y", "z"]).leq (sampleFields []) = true ∧
      (∃ values, (sampleFields ["x", "y"]).joinRun [sampleFields [], sampleFields ["x", "z"]] =
          .ok values ∧
        values.getLast? = some (sampleFields []) ∧ changes values = 1) ∧
      ∃ values, (sampleFields ["x", "z"]).joinRun
          [sampleFields ["x", "y"], sampleFields [], sampleFields ["x", "y"]] = .ok values ∧
        values.getLast? = some (sampleFields []) ∧ changes values = 2 := by
  obtain ⟨order, join, _, run⟩ := covering_join_laws
  obtain ⟨_, joined, _, least⟩ := join (sampleFields ["x", "y"]) (sampleFields ["x", "z"]) rfl
  obtain ⟨_, trans, _⟩ := order (sampleFields ["x", "y", "z"]) (sampleFields ["x"])
    (sampleFields [])
  obtain ⟨values, u, ran, last, _, _, _, anyOrder⟩ :=
    run (sampleFields ["x", "y"]) [sampleFields [], sampleFields ["x", "z"]]
      (by simp [sampleFields])
  cases joined
  cases ran
  cases last
  obtain ⟨values, ran, last⟩ := anyOrder (sampleFields ["x", "z"])
    [sampleFields ["x", "y"], sampleFields [], sampleFields ["x", "y"]] (by simp; tauto)
  cases ran
  exact ⟨least, trans rfl rfl, ⟨_, rfl, rfl, by decide⟩, _, rfl, last, by decide⟩

end AccessPath

end TaintFlow
