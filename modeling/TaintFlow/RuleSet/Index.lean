import TaintFlow.Rule.Basic

/-!
# Indexes of rules

An index lists, for each flow from a source kind to a sink kind, the rules that the flow concerns,
in the order in which they were added.  `RuleIndex.lookup_addAll` says what an index holds after a
rule was added for a list of flows: the rule once for each time that the flow is in the list.
-/

namespace TaintFlow

/-- A source kind that reaches a sink kind. -/
structure Flow where
  source : Kind
  sink : Kind
  deriving DecidableEq

namespace Flow

instance : Ord Flow := ⟨compareLex (compareOn source) (compareOn sink)⟩

instance : Std.TransOrd Flow := inferInstanceAs (Std.TransCmp (compareLex _ _))

instance : Std.LawfulEqOrd Flow where
  eq_of_compare {a b} h := by
    have h : compareLex _ _ a b = .eq := h
    simp only [compareLex_eq_eq, compareOn, Std.LawfulEqCmp.compare_eq_iff_eq] at h
    cases a
    cases b
    simp_all

/-- The sink with the transforms of the whole flow: those of the source backwards, then those of the
sink.  Rules are indexed under sinks of this form. -/
def wholeSink (f : Flow) : Kind :=
  f.sink.withTransforms (f.source.transforms.reverse ++ f.sink.transforms) []

end Flow

/-- The rules of each flow. -/
abbrev RuleIndex := SortedMap Flow (List Rule)

namespace RuleIndex

/-- The rules of a flow, in the order in which they were added. -/
def lookup (i : RuleIndex) (f : Flow) : List Rule := (i.get? f).getD []

/-- Adds a rule to a flow. -/
def add (i : RuleIndex) (f : Flow) (r : Rule) : RuleIndex :=
  i.upsert f fun rules => rules.getD [] ++ [r]

/-- Adds a rule to each of a list of flows. -/
def addAll (i : RuleIndex) (flows : List Flow) (r : Rule) : RuleIndex :=
  flows.foldl (fun i f => i.add f r) i

@[simp] theorem lookup_empty {f : Flow} : lookup .empty f = [] := rfl

theorem lookup_add {i : RuleIndex} {f g : Flow} {r : Rule} :
    (i.add f r).lookup g = if g = f then i.lookup g ++ [r] else i.lookup g := by
  simp only [lookup, add, SortedMap.get?_upsert]
  by_cases h : g = f
  · subst h
    simp
  · simp [h]

theorem lookup_addAll {i : RuleIndex} {flows : List Flow} {g : Flow} {r : Rule} :
    (i.addAll flows r).lookup g = i.lookup g ++ List.replicate (flows.count g) r := by
  induction flows generalizing i with
  | nil => simp [addAll]
  | cons f flows ih =>
      have step : i.addAll (f :: flows) r = (i.add f r).addAll flows r := rfl
      rw [step, ih, lookup_add, List.count_cons]
      by_cases h : g = f
      · subst h
        simp [List.replicate_succ]
      · have other : ¬ f = g := fun e => h e.symm
        simp [h, other]

end RuleIndex

end TaintFlow
