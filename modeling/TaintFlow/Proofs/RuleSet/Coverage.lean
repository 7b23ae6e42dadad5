import TaintFlow.Proofs.Rule.Coverage
import TaintFlow.Proofs.RuleSet.Kept
import TaintFlow.RuleSet.Coverage

/-!
# The coverage of a rule set

A rule set goes through its rules in the order of their codes and keeps the cover of each that has
one.  No two of its rules have the same code, so no cover replaces another, and the cover that is
found under the code of a rule is the cover of that rule (`RuleSet.Built.get?_covered_coverage`).
So the coverage reports the rules that are covered (`RuleSet.Built.covers_iff`).
-/

namespace TaintFlow

/-! ## Rules by code -/

/-- A list without repeated codes has each of its rules under its code. -/
theorem Rule.find?_code_eq_some {l : List Rule} (distinct : l.Pairwise fun r other =>
    r.code ≠ other.code) {r : Rule} (hr : r ∈ l) :
    (l.find? fun other => other.code = r.code) = some r := by
  induction l with
  | nil => cases hr
  | cons first rest ih =>
      obtain ⟨hfirst, hrest⟩ := List.pairwise_cons.1 distinct
      rcases List.mem_cons.1 hr with rfl | hr
      · exact List.find?_cons_of_pos (by simp)
      · rw [List.find?_cons_of_neg (by simpa using hfirst r hr)]
        exact ih hrest hr

namespace RuleSet

variable {set : RuleSet} {rules : List Rule}

theorem Holds.code_of_get? (h : set.Holds rules) {code : Int64} {r : Rule}
    (hr : set.byCode.get? code = some r) : r.code = code := by
  rw [h.byCode] at hr
  simpa using List.find?_some hr

/-- The rules of a set are those that it holds. -/
theorem Holds.mem_toList_iff (h : set.Holds rules) (distinct : rules.Pairwise fun r other =>
    r.code ≠ other.code) {r : Rule} : r ∈ set.toList ↔ r ∈ rules := by
  rw [toList, SortedMap.values, List.mem_map]
  constructor
  · rintro ⟨⟨code, r⟩, hentry, rfl⟩
    have hr := SortedMap.get?_eq_some_iff.2 hentry
    rw [h.byCode] at hr
    exact List.mem_of_find?_eq_some hr
  · intro hr
    refine ⟨(r.code, r), SortedMap.get?_eq_some_iff.1 ?_, rfl⟩
    rw [h.byCode]
    exact Rule.find?_code_eq_some distinct hr

/-- No two rules of a set have the same code. -/
theorem Holds.pairwise_toList (h : set.Holds rules) :
    set.toList.Pairwise fun r other => r.code ≠ other.code := by
  have keyed : ∀ e ∈ set.byCode.entries, e.2.code = e.1 := fun e he =>
    h.code_of_get? (SortedMap.get?_eq_some_iff.2 he)
  refine List.pairwise_map.2 ((List.pairwise_map.1 set.byCode.nodup_keys).imp_of_mem ?_)
  intro e e' he he' different
  rw [keyed e he, keyed e' he']
  exact different

end RuleSet

/-! ## Covers by code -/

namespace Coverage

variable {sources sinks : KindSet} {transforms : TransformSet}

/-- One more rule adds its cover, or its code if it has none. -/
theorem ofRules_concat (l : List Rule) (r : Rule) :
    ofRules sources sinks transforms (l ++ [r]) =
      match r.cover? sources sinks transforms with
      | some cover =>
          { ofRules sources sinks transforms l with
            covered := (ofRules sources sinks transforms l).covered.insert r.code cover }
      | none =>
          { ofRules sources sinks transforms l with
            uncovered := (ofRules sources sinks transforms l).uncovered.insert r.code } := by
  rw [ofRules, List.foldl_append]
  rfl

theorem get?_covered_concat (l : List Rule) (r : Rule) (code : Int64) :
    (ofRules sources sinks transforms (l ++ [r])).covered.get? code =
      match r.cover? sources sinks transforms with
      | some cover =>
          if code = r.code then some cover
          else (ofRules sources sinks transforms l).covered.get? code
      | none => (ofRules sources sinks transforms l).covered.get? code := by
  rw [ofRules_concat]
  cases r.cover? sources sinks transforms with
  | some cover => exact SortedMap.get?_insert
  | none => rfl

/-- The cover under a code is that of the rule which has the code. -/
theorem get?_covered_ofRules {l : List Rule} (distinct : l.Pairwise fun r other =>
    r.code ≠ other.code) (code : Int64) :
    (ofRules sources sinks transforms l).covered.get? code =
      (l.find? fun r => r.code = code).bind fun r => r.cover? sources sinks transforms := by
  induction l using List.reverseRecOn with
  | nil => rfl
  | append_singleton l r ih =>
      obtain ⟨distinct, _, new⟩ := List.pairwise_append.1 distinct
      rw [get?_covered_concat, ih distinct, List.find?_append]
      by_cases same : code = r.code
      · have absent : (l.find? fun other => other.code = code) = none := by
          rw [List.find?_eq_none]
          intro other hother
          simpa [same] using new other hother r (List.mem_singleton_self r)
        rw [absent]
        cases h : r.cover? sources sinks transforms <;> simp [same, h]
      · have other : ¬r.code = code := fun h => same h.symm
        cases r.cover? sources sinks transforms <;> simp [same, other]

end Coverage

/-! ## The coverage of a set -/

namespace RuleSet.Built

variable {l : List Rule} {set : RuleSet} {sources sinks : KindSet} {transforms : TransformSet}

/-- The rules of a set are those that were kept. -/
theorem mem_toList_iff (built : Built l set) {r : Rule} : r ∈ set.toList ↔ r ∈ Rule.kept l :=
  built.holds.mem_toList_iff (Rule.kept_pairwise l)

/-- The cover of a rule in the coverage of its set. -/
theorem get?_covered_coverage (built : Built l set) {r : Rule} (hr : r ∈ Rule.kept l) :
    (set.coverage sources sinks transforms).covered.get? r.code =
      r.cover? sources sinks transforms := by
  have distinct := built.holds.pairwise_toList
  have held := built.mem_toList_iff.2 hr
  rw [coverage, Coverage.get?_covered_ofRules distinct, Rule.find?_code_eq_some distinct held]
  rfl

/-- A rule that is covered has what it uses as its cover. -/
theorem get?_covered_of_isCovered (built : Built l set) {r : Rule} (hr : r ∈ Rule.kept l)
    (covered : r.IsCovered sources sinks transforms) :
    (set.coverage sources sinks transforms).covered.get? r.code =
      some (r.usedPart sources sinks transforms) := by
  rw [built.get?_covered_coverage hr]
  exact Rule.cover?_eq_some_iff.2 ⟨covered, rfl⟩

theorem covers_iff (built : Built l set) {r : Rule} (hr : r ∈ Rule.kept l) :
    (set.coverage sources sinks transforms).covers r.code = true ↔
      r.IsCovered sources sinks transforms := by
  rw [Coverage.covers, built.get?_covered_coverage hr]
  exact Rule.isSome_cover?_iff

end RuleSet.Built

end TaintFlow
