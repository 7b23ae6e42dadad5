import TaintFlow.Proofs.Rule.Json

/-!
# Rules of plain kinds

A rule names the kinds that its sources produce and its sinks consume.  It has plain kinds when none
of them carries a transform (`Rule.HasPlainKinds`).  The constructors of rules do not ask for that,
but kinds are written in JSON by their names, so every rule that was read has plain kinds
(`Rule.hasPlainKinds_of_ofJson`).
-/

namespace TaintFlow

/-! ## Plain kinds -/

namespace Kind

theorem isTransformed_of_isNamed {k : Kind} (h : k.isNamed = true) : k.isTransformed = false := by
  rw [isNamed, Bool.and_eq_true, Bool.not_eq_true'] at h
  exact h.1

/-- The transforms that replace those of a kind leave its base, which is all of a plain kind. -/
theorem withTransforms_eq_iff {k k' : Kind} {l l' : List Transform}
    (plain' : k'.isTransformed = false) :
    k.withTransforms l [] = k'.withTransforms l' [] ↔ k.plain = k' ∧ l = l' := by
  rw [← plain_eq_self_iff] at plain'
  constructor
  · intro h
    injection h with hbase hl _
    rw [plain, hbase]
    exact ⟨plain', hl⟩
  · rintro ⟨rfl, rfl⟩
    rfl

end Kind

/-! ## Plain kinds in a rule -/

/-- A rule has plain kinds when none of its sources and sinks carries a transform. -/
structure Rule.HasPlainKinds (r : Rule) : Prop where
  sources : ∀ k ∈ r.sourceKinds, k.isTransformed = false
  sinks : ∀ k ∈ r.sinkKinds, k.isTransformed = false

instance (r : Rule) : Decidable r.HasPlainKinds :=
  decidable_of_iff ((∀ k ∈ r.sourceKinds, k.isTransformed = false) ∧
      ∀ k ∈ r.sinkKinds, k.isTransformed = false)
    ⟨fun ⟨sources, sinks⟩ => ⟨sources, sinks⟩, fun ⟨sources, sinks⟩ => ⟨sources, sinks⟩⟩

namespace Rule.HasPlainKinds

variable {r : Rule}

theorem sinks_sourceSink (plain : r.HasPlainKinds) {p : SourceSinkPattern}
    (h : r.pattern = .sourceSink p) : ∀ k ∈ p.sinks, k.isTransformed = false := by
  intro k hk
  exact plain.sinks k (by simpa [sinkKinds, h] using hk)

theorem sources_exploitability (plain : r.HasPlainKinds) {p : ExploitabilityPattern}
    (h : r.pattern = .exploitability p) : ∀ k ∈ p.sources, k.isTransformed = false := by
  intro k hk
  exact plain.sources k (by simp [sourceKinds, h, hk])

theorem sinks_exploitability (plain : r.HasPlainKinds) {p : ExploitabilityPattern}
    (h : r.pattern = .exploitability p) : ∀ k ∈ p.sinks, k.isTransformed = false := by
  intro k hk
  exact plain.sinks k (by simpa [sinkKinds, h] using hk)

end Rule.HasPlainKinds

/-! ## Rules that were read -/

theorem KindSet.isTransformed_of_ofField {v : Json} {field : String} {kinds : KindSet}
    (h : ofField v field = .ok kinds) : ∀ k ∈ kinds, k.isTransformed = false := by
  intro k hk
  exact Kind.isTransformed_of_isNamed (isNamed_of_ofField h k hk)

theorem MultiSourcePattern.IsRead.plain {v : Json} {p : MultiSourcePattern} (read : p.IsRead v) :
    ∀ k ∈ p.allSources, k.isTransformed = false := by
  intro k hk
  rw [allSources, SortedSet.mem_ofList, List.mem_flatMap] at hk
  obtain ⟨kinds, hkinds, hk⟩ := hk
  obtain ⟨⟨label, _⟩, hentry, rfl⟩ := List.mem_map.1 hkinds
  obtain ⟨labels, _, hfield⟩ := read.sources label _ (SortedMap.get?_eq_some_iff.2 hentry)
  exact KindSet.isTransformed_of_ofField hfield k hk

namespace Rule

/-- Every rule that was read has plain kinds. -/
theorem hasPlainKinds_of_ofJson {v : Json} {r : Rule} (h : ofJson v = .ok r) : r.HasPlainKinds := by
  have read := isRead_of_ofJson h
  obtain ⟨name, code, description, pattern⟩ := r
  cases pattern with
  | sourceSink p =>
      have read : p.IsRead v := read
      exact ⟨KindSet.isTransformed_of_ofField read.sources,
        KindSet.isTransformed_of_ofField read.sinks⟩
  | multiSource p =>
      have read : p.IsRead v := read
      refine ⟨read.plain, ?_⟩
      intro k hk
      obtain ⟨sink, _, rfl⟩ := List.mem_map.1 (SortedSet.mem_ofList.1 hk)
      rfl
  | exploitability p =>
      have read : p.IsRead v := read
      refine ⟨?_, KindSet.isTransformed_of_ofField read.sinks⟩
      intro k hk
      rcases SortedSet.mem_union.1 hk with hk | hk
      · exact KindSet.isTransformed_of_ofField read.sources k hk
      · exact KindSet.isTransformed_of_ofField read.effectSources k hk

end Rule

end TaintFlow
