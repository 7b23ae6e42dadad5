import Mathlib.Data.List.Induction
import TaintFlow.Issue.Groups
import TaintFlow.Proofs.Issue.Lattice

/-!
# What the groups of issues hold

Issues are joined into the groups of their keys one after the other, each group starting at bottom.
The members of a group are the issues with its key that are not bottom (`IssueGroups.members`), and
what a group comes to is its first member with the joined taints of all of them
(`IssueGroups.merged`).  The other issues leave no trace but an entry for their key.

`IssueGroups.Holds` is the invariant of the groups.  One issue keeps it and cannot make the join
fail (`IssueGroups.Holds.add`), so every list of issues can be grouped (`IssueGroups.holds_ofList`).
The taints of a group depend on the set of its members only, so lists with the same issues in
another order give equal groups (`IssueGroups.ofList_exact`).
-/

namespace TaintFlow

namespace IssueGroups

variable {key : GroupKey} {l l' : List Issue} {i : Issue} {groups : IssueGroups}

/-! ## Members of a group -/

/-- The issues of a group that are not bottom. -/
def members (key : GroupKey) (issues : List Issue) : List Issue :=
  issues.filter fun i => !i.isBottom && i.groupKey = key

theorem mem_members_iff : i ∈ members key l ↔ i ∈ l ∧ i.isBottom = false ∧ i.groupKey = key := by
  simp [members]

theorem members_concat (key : GroupKey) (l : List Issue) (i : Issue) :
    members key (l ++ [i]) =
      if i.isBottom = false ∧ i.groupKey = key then members key l ++ [i] else members key l := by
  rw [members, List.filter_append]
  split
  next member =>
    rw [List.filter_cons_of_pos (by simpa using member)]
    rfl
  next other =>
    rw [List.filter_cons_of_neg (by simpa using other)]
    exact List.append_nil _

/-- What the members of a group are joined to. -/
def merged : List Issue → Issue
  | [] => .bottom
  | first :: rest =>
      { first with
        sources := Taint.joinAll ((first :: rest).map Issue.sources)
        sinks := Taint.joinAll ((first :: rest).map Issue.sinks) }

theorem sources_merged (l : List Issue) :
    (merged l).sources = Taint.joinAll (l.map Issue.sources) := by
  cases l <;> rfl

theorem sinks_merged (l : List Issue) : (merged l).sinks = Taint.joinAll (l.map Issue.sinks) := by
  cases l <;> rfl

theorem position_merged (nonempty : l ≠ []) :
    ∃ first, l.head? = some first ∧ (merged l).position = first.position := by
  cases l with
  | nil => exact absurd rfl nonempty
  | cons first rest => exact ⟨first, rfl, rfl⟩

/-- A group without members comes to bottom, and no other does. -/
theorem isBottom_merged (full : ∀ i ∈ l, i.isBottom = false) : (merged l).isBottom = l.isEmpty := by
  cases l with
  | nil => rfl
  | cons first rest =>
      have mem : first ∈ first :: rest := List.mem_cons_self ..
      obtain ⟨sources, sinks, rule, position⟩ := Issue.isBottom_eq_false_iff.1 (full first mem)
      refine Issue.isBottom_eq_false_iff.2 ⟨?_, ?_, rule, position⟩
      · exact Taint.isBottom_eq_false_of_le (Taint.le_joinAll (List.mem_map_of_mem mem)) sources
      · exact Taint.isBottom_eq_false_of_le (Taint.le_joinAll (List.mem_map_of_mem mem)) sinks

theorem inGroup_merged (h : ∀ i ∈ l, i.groupKey = key) : (merged l).InGroup key := by
  cases l with
  | nil => exact Or.inl rfl
  | cons first rest => exact Or.inr (h first (List.mem_cons_self ..))

theorem merged_singleton (i : Issue) : merged [i] = i := by
  have whole : ∀ t : Taint, Taint.joinAll [t] = t := fun t => sup_bot_eq t
  show { i with sources := Taint.joinAll [i.sources], sinks := Taint.joinAll [i.sinks] } = i
  rw [whole, whole]

theorem merged_concat (first : Issue) (rest : List Issue) (i : Issue) :
    merged (first :: rest ++ [i]) = (merged (first :: rest)).combined Taint.join i := by
  rw [List.cons_append, merged, merged, Issue.combined, ← List.cons_append, List.map_append,
    List.map_append, List.map_singleton, List.map_singleton, Taint.joinAll_concat,
    Taint.joinAll_concat]

/-- One more issue with the key is joined as another member, unless it is bottom. -/
theorem join_merged (hl : ∀ j ∈ l, j.isBottom = false ∧ j.groupKey = key)
    (hi : i.groupKey = key) :
    (merged l).join i = .ok (merged (if i.isBottom = false then l ++ [i] else l)) := by
  have inGroup : (merged l).InGroup key := inGroup_merged fun j hj => (hl j hj).2
  rw [Issue.join, Issue.unite_eq, if_neg (inGroup.not_clash (Or.inr hi)), Issue.united,
    isBottom_merged fun j hj => (hl j hj).1]
  cases i.isBottom with
  | true => rfl
  | false =>
      cases l with
      | nil => exact congrArg Except.ok (merged_singleton i).symm
      | cons first rest =>
          rw [if_neg Bool.noConfusion, if_pos rfl, List.isEmpty_cons, if_neg Bool.noConfusion,
            merged_concat]

/-! ## One issue -/

theorem get?_cons {key' : GroupKey} {group : Issue} :
    get? ((key, group) :: groups) key' = if key' = key then some group else groups.get? key' := by
  rw [get?, List.lookup_cons]
  by_cases h : key' = key
  · simp [h]
  · rw [if_neg h, beq_eq_false_iff_ne.2 h]
    rfl

theorem get?_eq_none_iff : groups.get? key = none ↔ key ∉ groups.map Prod.fst := by
  induction groups with
  | nil => simp [get?]
  | cons entry rest ih =>
      obtain ⟨entryKey, group⟩ := entry
      rw [get?_cons, List.map_cons, List.mem_cons, not_or, ← ih]
      split
      next h => simp [h]
      next h => simp [h]

/-- An issue is joined into the entry of its key, which is made when it is missing. -/
theorem add_eq_ok (nodup : (groups.map Prod.fst).Nodup) {joined : Issue}
    (h : ((groups.get? i.groupKey).getD .bottom).join i = .ok joined) :
    ∃ groups', groups.add i = .ok groups' ∧ (groups'.map Prod.fst).Nodup ∧
      ∀ key, groups'.get? key = if key = i.groupKey then some joined else groups.get? key := by
  induction groups with
  | nil =>
      have first : Issue.bottom.join i = .ok joined := h
      refine ⟨[(i.groupKey, joined)], ?_, by simp, fun key => get?_cons⟩
      rw [add, first]
      rfl
  | cons entry rest ih =>
      obtain ⟨entryKey, group⟩ := entry
      rw [get?_cons] at h
      by_cases same : i.groupKey = entryKey
      · rw [if_pos same, Option.getD_some] at h
        refine ⟨(entryKey, joined) :: rest, ?_, nodup, fun key => ?_⟩
        · rw [add, if_pos same.symm, h]
          rfl
        · rw [get?_cons, get?_cons, same]
          split <;> rfl
      · rw [if_neg same] at h
        obtain ⟨new, nodupRest⟩ := List.nodup_cons.1 nodup
        obtain ⟨rest', added, nodup', entries⟩ := ih nodupRest h
        refine ⟨(entryKey, group) :: rest', ?_, List.nodup_cons.2 ⟨?_, nodup'⟩, fun key => ?_⟩
        · rw [add, if_neg (Ne.symm same), added]
          rfl
        · rw [← get?_eq_none_iff, entries, if_neg (Ne.symm same)]
          exact get?_eq_none_iff.2 new
        · rw [get?_cons, get?_cons, entries]
          by_cases here : key = entryKey
          · rw [if_pos here, if_pos here, if_neg (here ▸ Ne.symm same)]
          · rw [if_neg here, if_neg here]

/-! ## Lists of issues -/

/-- Groups have one entry for every key of a list of issues, with what its members come to. -/
structure Holds (groups : IssueGroups) (issues : List Issue) : Prop where
  nodup : (groups.map Prod.fst).Nodup
  get?_eq (key : GroupKey) : groups.get? key =
    if key ∈ issues.map Issue.groupKey then some (merged (members key issues)) else none

namespace Holds

theorem eq_merged (holds : groups.Holds l) {group : Issue} (h : groups.get? key = some group) :
    group = merged (members key l) := by
  rw [holds.get?_eq] at h
  split at h
  next => exact (Option.some.inj h).symm
  next => cases h

theorem mem_keys_iff (holds : groups.Holds l) :
    key ∈ groups.map Prod.fst ↔ key ∈ l.map Issue.groupKey := by
  rw [← not_iff_not, ← get?_eq_none_iff, holds.get?_eq]
  split
  next h => simp [h]
  next h => simp [h]

/-- The next issue with a key meets what the members so far come to. -/
theorem getD_get? (holds : groups.Holds l) (key : GroupKey) :
    (groups.get? key).getD .bottom = merged (members key l) := by
  rw [holds.get?_eq]
  split
  next => rfl
  next absent =>
    have empty : members key l = [] := by
      rw [List.eq_nil_iff_forall_not_mem]
      intro i hi
      obtain ⟨present, _, rfl⟩ := mem_members_iff.1 hi
      exact absent (List.mem_map_of_mem present)
    rw [empty]
    rfl

theorem add (holds : groups.Holds l) (i : Issue) :
    ∃ groups', groups.add i = .ok groups' ∧ groups'.Holds (l ++ [i]) := by
  have joined : ((groups.get? i.groupKey).getD .bottom).join i =
      .ok (merged (members i.groupKey (l ++ [i]))) := by
    rw [holds.getD_get?, join_merged (fun j hj => (mem_members_iff.1 hj).2) rfl, members_concat]
    simp only [and_true]
  obtain ⟨groups', added, nodup, entries⟩ := add_eq_ok holds.nodup joined
  refine ⟨groups', added, nodup, fun key => ?_⟩
  rw [entries, holds.get?_eq]
  by_cases here : key = i.groupKey
  · simp [here]
  · have others : members key (l ++ [i]) = members key l := by
      rw [members_concat, if_neg fun member => here member.2.symm]
    simp [here, others]

end Holds

/-- Every list of issues can be grouped. -/
theorem holds_ofList (issues : List Issue) :
    ∃ groups, ofList issues = .ok groups ∧ groups.Holds issues := by
  -- The issue that comes last is joined last, so the list is taken apart at its end.
  induction issues using List.reverseRecOn with
  | nil => exact ⟨[], rfl, List.nodup_nil, fun _ => rfl⟩
  | append_singleton rest i ih =>
      obtain ⟨groups, grouped, holds⟩ := ih
      obtain ⟨groups', added, holds'⟩ := holds.add i
      refine ⟨groups', ?_, holds'⟩
      rw [ofList] at grouped ⊢
      rw [List.foldlM_append, grouped, Checked.bind_ok, List.foldlM_cons, added]
      rfl

/-! ## Groups in any order -/

/-- Issues of one group come to the same in every order, but for the position. -/
theorem equals_merged (perm : l.Perm l') (hl : ∀ i ∈ l, i.isBottom = false ∧ i.groupKey = key) :
    (merged l).equals (merged l') = .ok true := by
  have hl' : ∀ i ∈ l', i.isBottom = false ∧ i.groupKey = key :=
    fun i hi => hl i (perm.mem_iff.2 hi)
  have isBottom : (merged l).isBottom = l.isEmpty := isBottom_merged fun i hi => (hl i hi).1
  have isBottom' : (merged l').isBottom = l.isEmpty := by
    rw [isBottom_merged fun i hi => (hl' i hi).1, perm.isEmpty_eq]
  have inGroup : (merged l).InGroup key := inGroup_merged fun i hi => (hl i hi).2
  have inGroup' : (merged l').InGroup key := inGroup_merged fun i hi => (hl' i hi).2
  have sources : (merged l).sources = (merged l').sources := by
    rw [sources_merged, sources_merged, Taint.joinAll_perm (perm.map _)]
  have sinks : (merged l).sinks = (merged l').sinks := by
    rw [sinks_merged, sinks_merged, Taint.joinAll_perm (perm.map _)]
  rw [Issue.equals_eq, if_neg (inGroup.not_clash inGroup'), Except.ok.injEq, decide_eq_true_iff,
    Issue.below_and_below_iff, isBottom, isBottom']
  cases l.isEmpty with
  | true => exact Or.inl ⟨rfl, rfl⟩
  | false => exact Or.inr ⟨rfl, rfl, sources, sinks⟩

/-- Every list of issues can be grouped.  There is one group for every key of the list, with the
joined taints of its members, and at the position of the first one.  In another order the same
issues come to equal groups. -/
theorem ofList_exact (issues : List Issue) :
    ∃ groups, ofList issues = .ok groups ∧
      (groups.map Prod.fst).Nodup ∧
      (∀ key, key ∈ groups.map Prod.fst ↔ ∃ i ∈ issues, i.groupKey = key) ∧
      (∀ key group, groups.get? key = some group →
        group.sources = Taint.joinAll ((members key issues).map Issue.sources) ∧
        group.sinks = Taint.joinAll ((members key issues).map Issue.sinks) ∧
        (members key issues = [] → group.sources = .bottom ∧ group.sinks = .bottom) ∧
        (group.isBottom = true ↔ members key issues = []) ∧
        (group.isBottom = false → group.groupKey = key ∧
          ∃ first, (members key issues).head? = some first ∧ group.position = first.position)) ∧
      ∀ issues', issues.Perm issues' → ∃ groups', ofList issues' = .ok groups' ∧
        (∀ key, key ∈ groups'.map Prod.fst ↔ key ∈ groups.map Prod.fst) ∧
        ∀ key group group', groups.get? key = some group → groups'.get? key = some group' →
          group.equals group' = .ok true := by
  obtain ⟨groups, grouped, holds⟩ := holds_ofList issues
  have hmembers : ∀ key, ∀ i ∈ members key issues, i.isBottom = false ∧ i.groupKey = key :=
    fun key i hi => (mem_members_iff.1 hi).2
  refine ⟨groups, grouped, holds.nodup, ?_, ?_, ?_⟩
  · intro key
    rw [holds.mem_keys_iff, List.mem_map]
  · intro key group found
    obtain rfl := holds.eq_merged found
    have bottomIff : (merged (members key issues)).isBottom = true ↔ members key issues = [] := by
      rw [isBottom_merged fun i hi => (hmembers key i hi).1, List.isEmpty_iff]
    refine ⟨sources_merged _, sinks_merged _, ?_, bottomIff, ?_⟩
    · intro empty
      rw [empty]
      exact ⟨rfl, rfl⟩
    · intro full
      have inGroup : (merged (members key issues)).InGroup key :=
        inGroup_merged fun i hi => (hmembers key i hi).2
      have nonempty : members key issues ≠ [] := by
        rw [ne_eq, ← bottomIff, full]
        exact Bool.noConfusion
      exact ⟨inGroup.resolve_left (by simp [full]), position_merged nonempty⟩
  · intro issues' perm
    obtain ⟨groups', grouped', holds'⟩ := holds_ofList issues'
    refine ⟨groups', grouped', ?_, ?_⟩
    · intro key
      rw [holds'.mem_keys_iff, holds.mem_keys_iff, (perm.map _).mem_iff]
    · intro key group group' found found'
      rw [holds.eq_merged found, holds'.eq_merged found']
      exact equals_merged (perm.filter _) (hmembers key)

/-- Two issues of a group, among one without sinks that has their key and one of another group. -/
def sampleIssues : List Issue :=
  [{ Issue.sampleIssue "o" "X" 1 with sinks := .bottom }, Issue.sampleIssue "n" "X" 2,
    Issue.sampleHalf, Issue.sampleIssue "m" "X" 3]

theorem ofList_exact_samples :
    ∃ groups group rest, ofList sampleIssues = .ok groups ∧
      groups.get? (Issue.sampleIssue "m" "X" 3).groupKey = some group ∧
      group.sources = Taint.sampleTaint "A" ["m", "n"] ∧ group.sinks = Taint.sampleTaint "X" [] ∧
      group.position = some (.ofLine none 2) ∧
      groups.get? Issue.sampleHalf.groupKey = some rest ∧ rest.sources = .bottom ∧
      ∃ groups' group', ofList sampleIssues.reverse = .ok groups' ∧
        groups'.get? (Issue.sampleIssue "m" "X" 3).groupKey = some group' ∧
        group.equals group' = .ok true := by
  obtain ⟨groups, grouped, _, keys, entries, orders⟩ := ofList_exact sampleIssues
  obtain ⟨groups', grouped', keys', same⟩ := orders _ (List.reverse_perm _).symm
  have found : ∀ {g : IssueGroups} {key}, key ∈ g.map Prod.fst → ∃ group, g.get? key = some group :=
    fun present => Option.ne_none_iff_exists'.1 fun absent => get?_eq_none_iff.1 absent present
  have full := (keys _).2 ⟨Issue.sampleIssue "m" "X" 3, by decide, rfl⟩
  have half := (keys _).2 ⟨Issue.sampleHalf, by decide, rfl⟩
  obtain ⟨group, hgroup⟩ := found full
  obtain ⟨rest, hrest⟩ := found half
  obtain ⟨group', hgroup'⟩ := found ((keys' _).2 full)
  obtain ⟨sources, sinks, _, bottomIff, whole⟩ := entries _ _ hgroup
  obtain ⟨_, _, bottoms, _⟩ := entries _ _ hrest
  obtain ⟨_, first, hfirst, position⟩ :=
    whole (Bool.eq_false_iff.2 fun bottom => absurd (bottomIff.1 bottom) (by decide))
  refine ⟨groups, group, rest, grouped, hgroup, sources.trans (by decide),
    sinks.trans (by decide), ?_, hrest, (bottoms (by decide)).1, groups', group', grouped', hgroup',
    same _ _ _ hgroup hgroup'⟩
  cases hfirst
  exact position

end IssueGroups

end TaintFlow
