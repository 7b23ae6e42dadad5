import Mathlib.Data.List.Infix
import TaintFlow.Heuristics
import TaintFlow.Proofs.Location.Join

/-!
# Truncated and resolved locations

A solver cuts the paths of the ports that it keeps, joins locations, and resolves paths where the
constants of a call are known.  This module says in which order that may be done.

A cut keeps the beginning of a path, and so does a join, so cutting before a join is cutting after
it (`Path.truncate_commonPrefix`).  Resolution replaces the elements one by one
(`Path.value_resolve`), so it does not matter either whether the rest is cut before or after.  But
it can make different elements equal.  Resolved paths then have more in common than their resolved
common prefix, so the join of resolved locations is only below the resolved join
(`Path.resolve_commonPrefix_prefix`).
-/

namespace TaintFlow

/-! ## Resolved elements -/

namespace Element

/-- The element that an element stands for at a call with these constants. -/
def resolved (constants : List (Option String)) : Element → Element
  | .valueOf position => (indexOfConstant constants position).value
  | e => e

/-- What the value of an argument is replaced by is an index or any index. -/
theorem resolved_ne_valueOf (constants : List (Option String)) (e : Element)
    (position : ArgumentPosition) : e.resolved constants ≠ .valueOf position := by
  cases e with
  | valueOf argument =>
      rw [resolved, indexOfConstant]
      split
      next => exact Element.noConfusion
      next => exact Element.noConfusion
      next => exact Element.noConfusion
  | field | index | anyIndex => exact Element.noConfusion

end Element

/-! ## Paths -/

namespace Path

variable (constants : List (Option String)) {p q : Path}

/-- A path is known from the paths that it begins with. -/
theorem eq_of_prefix_iff (h : ∀ r, r <+: p ↔ r <+: q) : p = q := by
  have below : p <+: q := (h p).1 (List.prefix_refl p)
  have above : q <+: p := (h q).2 (List.prefix_refl q)
  exact below.eq_of_length_le above.length_le

theorem truncate_commonPrefix (size : Nat) :
    (p.commonPrefix q).truncate size = (p.truncate size).commonPrefix (q.truncate size) := by
  refine eq_of_prefix_iff fun r => ?_
  simp only [truncate, prefix_commonPrefix_iff, List.prefix_take_iff]
  exact and_and_right

theorem value_resolve (p : Path) :
    (p.resolve constants).value = p.map (Element.resolved constants) := by
  rw [resolve, Logged.value_mapM]
  refine List.map_congr_left fun e _ => ?_
  cases e with
  | valueOf position => rfl
  | field | index | anyIndex => rfl

theorem length_resolve (p : Path) :
    (p.resolve constants).value.length = p.length := by
  rw [value_resolve, List.length_map]

theorem ne_valueOf_of_mem_resolve {e : Element} (he : e ∈ (p.resolve constants).value)
    (position : ArgumentPosition) : e ≠ .valueOf position := by
  rw [value_resolve] at he
  obtain ⟨e', _, rfl⟩ := List.mem_map.1 he
  exact Element.resolved_ne_valueOf constants e' position

theorem resolve_prefix_resolve (h : p <+: q) :
    (p.resolve constants).value <+: (q.resolve constants).value := by
  rw [value_resolve, value_resolve]
  exact h.map _

theorem resolve_truncate (p : Path) (size : Nat) :
    ((p.truncate size).resolve constants).value = (p.resolve constants).value.truncate size := by
  rw [value_resolve, value_resolve]
  exact List.map_take

/-- What two paths have in common stays common when they are resolved. -/
theorem resolve_commonPrefix_prefix :
    ((p.commonPrefix q).resolve constants).value <+:
      (p.resolve constants).value.commonPrefix (q.resolve constants).value := by
  obtain ⟨left, right⟩ := prefix_commonPrefix_iff.1 (List.prefix_refl (p.commonPrefix q))
  exact prefix_commonPrefix_iff.2
    ⟨resolve_prefix_resolve constants left, resolve_prefix_resolve constants right⟩

end Path

/-! ## Locations -/

namespace AccessPath

/-- What it means to cut all paths to one size.  A cut location covers the location, its path has
this size unless it was shorter, and it is not cut any further.  Cuts keep the order and joins. -/
structure IsCut (size : Nat) (cut : AccessPath → AccessPath) : Prop where
  covers (a : AccessPath) : a.leq (cut a) = true
  length (a : AccessPath) : (cut a).path.length = min a.path.length size
  idempotent (a : AccessPath) : cut (cut a) = cut a
  monotone (a b : AccessPath) : a.leq b = true → (cut a).leq (cut b) = true
  join (a b : AccessPath) : a.root = b.root →
    ∃ u, a.join b = .ok u ∧ (cut a).join (cut b) = .ok (cut u)

theorem isCut_truncate (size : Nat) : IsCut size fun a => a.truncate size where
  covers a := leq_iff.2 ⟨rfl, List.take_prefix size a.path⟩
  length a := by
    rw [Nat.min_comm]
    exact List.length_take
  idempotent a := by
    refine congrArg (AccessPath.mk a.root) ?_
    show (a.path.take size).take size = a.path.take size
    rw [List.take_take, Nat.min_self]
  monotone a b h := by
    obtain ⟨root, path⟩ := leq_iff.1 h
    exact leq_iff.2 ⟨root, path.take size⟩
  join a b same := by
    refine ⟨_, join_eq_ok_iff.2 ⟨same, rfl⟩, join_eq_ok_iff.2 ⟨same, ?_⟩⟩
    exact congrArg (AccessPath.mk a.root) (Path.truncate_commonPrefix size)

/-- A location with its path resolved. -/
def resolved (constants : List (Option String)) (a : AccessPath) : AccessPath :=
  { a with path := (a.path.resolve constants).value }

/-- The resolved join covers what is resolved first and joined then. -/
theorem join_resolved_leq (constants : List (Option String)) {a b u : AccessPath}
    (joined : a.join b = .ok u) :
    ∃ v, (a.resolved constants).join (b.resolved constants) = .ok v ∧
      v.leq (u.resolved constants) = true := by
  obtain ⟨same, rfl⟩ := join_eq_ok_iff.1 joined
  refine ⟨_, join_eq_ok_iff.2 ⟨same, rfl⟩, leq_iff.2 ⟨rfl, ?_⟩⟩
  exact Path.resolve_commonPrefix_prefix constants

/-! ## The laws -/

/-- Truncation cuts all paths to its bound, and so does the truncation of a port by the bound of its
role.  Resolution keeps the length of a path and the order by prefixes, leaves no element that
refers to an argument, and commutes with truncation.  With joins it commutes by halves: the join of
two resolved locations is below the resolved join. -/
theorem truncation_and_resolution_laws :
    (∀ size : Nat, IsCut size fun a => a.truncate size) ∧
    (∀ (h : Heuristics) (role : PortRole),
      IsCut (h.maxPortSize role).toNat fun a => h.truncatePort a role) ∧
    ∀ constants : List (Option String),
      (∀ p : Path, (p.resolve constants).value.length = p.length ∧
        ∀ e ∈ (p.resolve constants).value, ∀ position, e ≠ .valueOf position) ∧
      (∀ p q : Path, p <+: q → (p.resolve constants).value <+: (q.resolve constants).value) ∧
      (∀ (p : Path) (size : Nat),
        ((p.truncate size).resolve constants).value =
          (p.resolve constants).value.truncate size) ∧
      ∀ a b : AccessPath, a.root = b.root →
        ∃ u v, a.join b = .ok u ∧ (a.resolved constants).join (b.resolved constants) = .ok v ∧
          v.leq (u.resolved constants) = true := by
  refine ⟨isCut_truncate, fun h role => isCut_truncate _, fun constants => ⟨?_, ?_, ?_, ?_⟩⟩
  · intro p
    exact ⟨Path.length_resolve constants p, fun e => Path.ne_valueOf_of_mem_resolve constants⟩
  · intro p q
    exact Path.resolve_prefix_resolve constants
  · intro p size
    exact Path.resolve_truncate constants p size
  · intro a b same
    have joined := join_eq_ok_iff.2 ⟨same, rfl⟩
    obtain ⟨v, joinedAfter, below⟩ := join_resolved_leq constants joined
    exact ⟨_, v, joined, joinedAfter, below⟩

/-- The return value at one index. -/
def indexed (e : Element) : AccessPath := ⟨.returnValue, [e]⟩

/-- The index by an argument whose value is the other index: resolved they are the same, and before
they have nothing in common.  A join of fields may be cut before or after, and the order of two
ports of sinks is kept. -/
theorem truncation_and_resolution_laws_samples :
    (∃ u v, (indexed (.valueOf 0)).join (indexed (.index "key")) = .ok u ∧
      ((indexed (.valueOf 0)).resolved [some "key"]).join
        ((indexed (.index "key")).resolved [some "key"]) = .ok v ∧
      v.leq (u.resolved [some "key"]) = true ∧ v = indexed (.index "key") ∧
      u.resolved [some "key"] = ofRoot .returnValue) ∧
    (∃ u, (sampleFields ["x", "y"]).join (sampleFields ["x", "z"]) = .ok u ∧
      ((sampleFields ["x", "y"]).truncate 1).join ((sampleFields ["x", "z"]).truncate 1) =
        .ok (u.truncate 1)) ∧
    (Heuristics.default.truncatePort (sampleFields ["x", "y"]) .sink).leq
      (Heuristics.default.truncatePort (sampleFields ["x"]) .sink) = true := by
  obtain ⟨cut, cutPort, resolution⟩ := truncation_and_resolution_laws
  obtain ⟨_, _, _, join⟩ := resolution [some "key"]
  refine ⟨?_, (cut 1).join (sampleFields ["x", "y"]) (sampleFields ["x", "z"]) rfl,
    (cutPort .default .sink).monotone (sampleFields ["x", "y"]) (sampleFields ["x"]) rfl⟩
  obtain ⟨u, v, joined, joinedAfter, below⟩ :=
    join (indexed (.valueOf 0)) (indexed (.index "key")) rfl
  cases joined
  cases joinedAfter
  exact ⟨_, _, rfl, rfl, below, rfl, rfl⟩

end AccessPath

end TaintFlow
