import Mathlib.Data.List.Induction
import TaintFlow.Proofs.Checked
import TaintFlow.RuleSet.Basic

/-!
# What a rule set holds

Rules are added one after the other, and a rule whose code is taken is dropped.  `Rule.kept` says
which rules of a list stay: those of which no earlier one has the code (`Rule.mem_kept_iff`).

`RuleSet.Holds` is the invariant of a rule set.  It finds the kept rules by their codes, and each of
its four indexes lists under a flow the kept rules that it was given for that flow, as often as it
was given them.  One addition keeps the invariant (`RuleSet.Holds.add`), so every rule set that was
built from a list of rules has it (`RuleSet.Built.holds`).
-/

namespace TaintFlow

/-! ## Kept rules -/

namespace Rule

/-- The rules of a list without those whose code an earlier rule has. -/
def kept : List Rule → List Rule
  | [] => []
  | r :: rest => r :: (kept rest).filter fun other => other.code ≠ r.code

/-- A rule is kept at a place of the list where its code is new. -/
theorem mem_kept_iff {r : Rule} {l : List Rule} :
    r ∈ kept l ↔
      ∃ earlier later, l = earlier ++ r :: later ∧ ∀ other ∈ earlier, other.code ≠ r.code := by
  induction l with
  | nil => simp [kept]
  | cons first rest ih =>
      rw [kept, List.mem_cons, List.mem_filter, ih]
      constructor
      · rintro (rfl | ⟨⟨earlier, later, hl, hnew⟩, hfirst⟩)
        · exact ⟨[], rest, rfl, by simp⟩
        · refine ⟨first :: earlier, later, by rw [hl, List.cons_append], ?_⟩
          intro other hother
          rcases List.mem_cons.1 hother with rfl | hother
          · exact Ne.symm (by simpa using hfirst)
          · exact hnew other hother
      · intro new
        obtain ⟨earlier, later, hl, hnew⟩ := new
        cases earlier with
        | nil =>
            rw [List.nil_append] at hl
            injection hl with hfirst _
            exact Or.inl hfirst.symm
        | cons other earlier =>
            rw [List.cons_append] at hl
            injection hl with hfirst hrest
            subst hfirst
            refine Or.inr ⟨⟨earlier, later, hrest, ?_⟩, ?_⟩
            · intro other hother
              exact hnew other (List.mem_cons_of_mem _ hother)
            · simpa using Ne.symm (hnew first (List.mem_cons_self ..))

theorem mem_of_mem_kept {r : Rule} {l : List Rule} (h : r ∈ kept l) : r ∈ l := by
  obtain ⟨earlier, later, rfl, _⟩ := mem_kept_iff.1 h
  simp

/-- No two kept rules have the same code. -/
theorem kept_pairwise (l : List Rule) : (kept l).Pairwise fun r other => r.code ≠ other.code := by
  induction l with
  | nil => exact .nil
  | cons first rest ih =>
      rw [kept, List.pairwise_cons]
      constructor
      · intro other hother
        have := (List.mem_filter.1 hother).2
        exact Ne.symm (by simpa using this)
      · exact ih.filter _

/-- Adding a rule at the end keeps it exactly when its code is new. -/
theorem kept_concat (l : List Rule) (r : Rule) :
    kept (l ++ [r]) = if r.code ∈ l.map code then kept l else kept l ++ [r] := by
  induction l with
  | nil => rfl
  | cons first rest ih =>
      rw [List.cons_append, kept, ih, List.map_cons, kept]
      by_cases hfirst : r.code = first.code
      · rw [if_pos (List.mem_cons.2 (Or.inl hfirst))]
        split
        next => rfl
        next => simp [List.filter_append, hfirst]
      · by_cases hrest : r.code ∈ rest.map code
        · rw [if_pos hrest, if_pos (List.mem_cons_of_mem _ hrest)]
        · have hnew : r.code ∉ first.code :: rest.map code := by
            rw [List.mem_cons, not_or]
            exact ⟨hfirst, hrest⟩
          rw [if_neg hrest, if_neg hnew]
          simp [List.filter_append, hfirst]

/-- The kept rules have the codes of all rules. -/
theorem mem_codes_kept {l : List Rule} {c : Int64} : c ∈ (kept l).map code ↔ c ∈ l.map code := by
  induction l with
  | nil => rfl
  | cons first rest ih =>
      rw [kept, List.map_cons, List.map_cons, List.mem_cons, List.mem_cons, ← ih]
      by_cases hfirst : c = first.code
      · simp [hfirst]
      · have filtered : c ∈ ((kept rest).filter fun other => other.code ≠ first.code).map code ↔
            c ∈ (kept rest).map code := by
          simp only [List.mem_map, List.mem_filter]
          constructor
          · intro kept
            obtain ⟨r, ⟨hr, _⟩, hcode⟩ := kept
            exact ⟨r, hr, hcode⟩
          · intro found
            obtain ⟨r, hr, hcode⟩ := found
            exact ⟨r, ⟨hr, by simpa [hcode] using hfirst⟩, hcode⟩
        rw [filtered]

end Rule

/-! ## The four indexes -/

/-- What the indexes of a rule set are asked. -/
inductive Question where
  | fulfilled
  | halfFulfilled
  | exploitable
  | completed

namespace Question

/-- The index that answers a question. -/
def index : Question → RuleSet → RuleIndex
  | .fulfilled => RuleSet.fulfilled
  | .halfFulfilled => RuleSet.halfFulfilled
  | .exploitable => RuleSet.exploitable
  | .completed => RuleSet.completed

/-- The flows for which a rule is an answer. -/
def flows : Question → Rule → List Flow
  | .fulfilled => Rule.fulfillingFlows
  | .halfFulfilled => Rule.halfFulfillingFlows
  | .exploitable => Rule.exploitableFlows
  | .completed => Rule.completingFlows

theorem index_empty (q : Question) : q.index .empty = .empty := by
  cases q <;> rfl

theorem index_insert (q : Question) (rules : RuleSet) (r : Rule) :
    q.index (rules.insert r) = (q.index rules).addAll (q.flows r) r := by
  cases q <;> rfl

end Question

/-! ## The invariant -/

namespace RuleSet

/-- A rule set holds `rules` when it finds them by their codes, and lists each of them under its
flows in the order of the list. -/
structure Holds (set : RuleSet) (rules : List Rule) : Prop where
  byCode (code : Int64) : set.byCode.get? code = rules.find? fun r => r.code = code
  lookup (q : Question) (f : Flow) :
    (q.index set).lookup f = rules.flatMap fun r => List.replicate ((q.flows r).count f) r

theorem holds_empty : Holds empty [] where
  byCode _ := rfl
  lookup q f := by rw [q.index_empty]; rfl

/-- The addition of a rule with a new code appends it. -/
theorem Holds.insert {set : RuleSet} {rules : List Rule} (h : set.Holds rules) {r : Rule}
    (new : set.byCode.get? r.code = none) : (set.insert r).Holds (rules ++ [r]) where
  byCode code := by
    have hset : (set.insert r).byCode = set.byCode.insert r.code r := rfl
    rw [hset, SortedMap.get?_insert, List.find?_append, h.byCode]
    split
    next same =>
        subst same
        rw [h.byCode] at new
        simp [new]
    next other => simp [Ne.symm other]
  lookup q f := by
    rw [q.index_insert, RuleIndex.lookup_addAll, h.lookup, List.flatMap_append]
    simp

theorem value_add (set : RuleSet) (r : Rule) :
    (set.add r).value = if (set.byCode.get? r.code).isSome then set else set.insert r := by
  rw [add]
  cases set.byCode.get? r.code <;> rfl

/-- The taken codes are those of the rules that were added. -/
theorem Holds.isSome_byCode_iff {set : RuleSet} {l : List Rule} (h : set.Holds (Rule.kept l))
    {code : Int64} : (set.byCode.get? code).isSome = true ↔ code ∈ l.map Rule.code := by
  rw [h.byCode, List.find?_isSome, ← Rule.mem_codes_kept, List.mem_map]
  simp

/-- One addition. -/
theorem Holds.add {set : RuleSet} {l : List Rule} (h : set.Holds (Rule.kept l)) (r : Rule) :
    (set.add r).value.Holds (Rule.kept (l ++ [r])) := by
  rw [value_add, Rule.kept_concat]
  by_cases taken : r.code ∈ l.map Rule.code
  · rw [if_pos (h.isSome_byCode_iff.2 taken), if_pos taken]
    exact h
  · have free : ¬(set.byCode.get? r.code).isSome = true := fun found =>
      taken (h.isSome_byCode_iff.1 found)
    rw [if_neg free, if_neg taken]
    exact h.insert (by simpa using free)

/-! ## Sets that were built from a list of rules -/

/-- `Built l set` says that `set` was made from no rules by adding those of `l` in order, one by
one, all at once, or as they were read from JSON. -/
inductive Built : List Rule → RuleSet → Prop where
  | empty : Built [] .empty
  | add {l : List Rule} {set : RuleSet} (built : Built l set) (r : Rule) :
      Built (l ++ [r]) (set.add r).value
  | ofList (l : List Rule) : Built l (RuleSet.ofList l).value
  | ofJson {v : Json} {items : List Json} {l : List Rule} {set : RuleSet}
      (array : v.itemsOrNull = .ok items) (read : items.mapM Rule.ofJson = .ok l)
      (loaded : (RuleSet.ofJson v).value = .ok set) : Built l set

theorem value_ofList_concat (l : List Rule) (r : Rule) :
    (ofList (l ++ [r])).value = ((ofList l).value.add r).value := by
  rw [ofList, List.foldlM_append]
  rfl

theorem holds_ofList (l : List Rule) : (ofList l).value.Holds (Rule.kept l) := by
  induction l using List.reverseRecOn with
  | nil => exact holds_empty
  | append_singleton l r ih =>
      rw [value_ofList_concat]
      exact ih.add r

/-- Reading fails at the first item that is no rule, and else adds the rules that the items are. -/
theorem value_ofJson (v : Json) :
    (RuleSet.ofJson v).value = do
      let items ← v.itemsOrNull
      let l ← items.mapM Rule.ofJson
      return (ofList l).value := by
  have steps : ∀ (items : List Json) (set : RuleSet),
      Attempt.value (items.foldlM (fun set item => do
        let r ← Attempt.ofChecked (Rule.ofJson item)
        Attempt.ofLogged (set.add r)) set) =
      (do
        let l ← items.mapM Rule.ofJson
        return (l.foldlM add set).value) := by
    intro items
    induction items with
    | nil =>
        intro set
        rfl
    | cons item items ih =>
        intro set
        rw [List.foldlM_cons, Attempt.value_bind, Attempt.value_bind, List.mapM_cons]
        cases hr : Rule.ofJson item with
        | error e => rfl
        | ok r =>
            simp only [Attempt.value_ofChecked, Attempt.value_ofLogged, Checked.bind_ok]
            rw [ih, bind_assoc]
            cases items.mapM Rule.ofJson <;> rfl
  rw [RuleSet.ofJson, Attempt.value_bind, Attempt.value_ofChecked]
  exact congrArg _ (funext fun items => steps items empty)

/-- The rules that were read from JSON. -/
theorem built_of_ofJson {v : Json} {set : RuleSet} (h : (RuleSet.ofJson v).value = .ok set) :
    ∃ items l, v.itemsOrNull = .ok items ∧ items.mapM Rule.ofJson = .ok l ∧ Built l set := by
  have hv := h
  rw [value_ofJson] at hv
  obtain ⟨items, hitems, hv⟩ := Checked.bind_eq_ok_iff.1 hv
  obtain ⟨l, hl, _⟩ := Checked.bind_eq_ok_iff.1 hv
  exact ⟨items, l, hitems, hl, .ofJson hitems hl h⟩

/-- A rule set that was built from a list holds the kept rules of the list. -/
theorem Built.holds {l : List Rule} {set : RuleSet} (built : Built l set) :
    set.Holds (Rule.kept l) := by
  induction built with
  | empty => exact holds_empty
  | add _ r ih => exact ih.add r
  | ofList l => exact holds_ofList l
  | ofJson array read loaded =>
      rw [value_ofJson, array, Checked.bind_ok, read, Checked.bind_ok, Checked.pure_eq_ok,
        Except.ok.injEq] at loaded
      rw [← loaded]
      exact holds_ofList _

end RuleSet

end TaintFlow
