import TaintFlow.Proofs.Rule.Reader

/-!
# What the readers of rules return

`Pattern.IsRead` says of a pattern from which members of an object its sets of kinds come, and
`Rule.isRead_of_ofJson` that every rule which was read has such a pattern.

Kinds are written in JSON by their names, so all kinds that a rule reads are named
(`KindSet.isNamed_of_ofField`).
-/

namespace TaintFlow

theorem KindSet.isNamed_of_ofField {v : Json} {field : String} {kinds : KindSet}
    (h : ofField v field = .ok kinds) : ∀ k ∈ kinds, k.isNamed = true :=
  (ofField_eq_ok_iff.1 h).isNamed

/-! ## Patterns that were read -/

/-- The members of `v` from which a source-sink pattern has its kinds. -/
structure SourceSinkPattern.IsRead (v : Json) (p : SourceSinkPattern) : Prop where
  sources : KindSet.ofField v "sources" = .ok p.sources
  sinks : KindSet.ofField v "sinks" = .ok p.sinks

/-- The members of `v` from which a multi-source pattern has its kinds.  There is a partial sink of
either label for each name. -/
structure MultiSourcePattern.IsRead (v : Json) (p : MultiSourcePattern) : Prop where
  sources (label : String) (kinds : KindSet) : p.sources.get? label = some kinds →
    ∃ labels, v.objectField "multi_sources" = .ok labels ∧
      KindSet.ofField (.object labels) label = .ok kinds
  partialSinks : ∃ names : List String,
    ∀ sink, sink ∈ p.partialSinks ↔ sink.name ∈ names ∧ sink.label ∈ p.sources.keys

/-- The members of `v` from which an exploitability pattern has its kinds. -/
structure ExploitabilityPattern.IsRead (v : Json) (p : ExploitabilityPattern) : Prop where
  effectSources : KindSet.ofField v "effect_sources" = .ok p.effectSources
  sources : KindSet.ofField v "sources" = .ok p.sources
  sinks : KindSet.ofField v "sinks" = .ok p.sinks

/-- The members of `v` from which a pattern has its kinds. -/
def Pattern.IsRead (v : Json) : Pattern → Prop
  | .sourceSink p => p.IsRead v
  | .multiSource p => p.IsRead v
  | .exploitability p => p.IsRead v

theorem SourceSinkPattern.DescribedBy.isRead {v : Json} {p : SourceSinkPattern}
    (h : p.DescribedBy v) : p.IsRead v :=
  ⟨KindSet.ofField_eq_ok_iff.2 h.sources, KindSet.ofField_eq_ok_iff.2 h.sinks⟩

theorem MultiSourcePattern.DescribedBy.isRead {v : Json} {p : MultiSourcePattern}
    (h : p.DescribedBy v) : p.IsRead v := by
  obtain ⟨labels, hlabels, _, listed⟩ := h.sources
  obtain ⟨names, _, partialSinks⟩ := h.partialSinks
  refine ⟨fun label kinds hkinds => ?_, names, partialSinks⟩
  have listed := listed label kinds hkinds
  obtain ⟨members, rfl⟩ := Json.exists_members_of_isObject listed.isObject
  exact ⟨members, Json.objectField_eq_ok_iff.2 hlabels, KindSet.ofField_eq_ok_iff.2 listed⟩

theorem ExploitabilityPattern.DescribedBy.isRead {v : Json} {p : ExploitabilityPattern}
    (h : p.DescribedBy v) : p.IsRead v :=
  ⟨KindSet.ofField_eq_ok_iff.2 h.effectSources, KindSet.ofField_eq_ok_iff.2 h.sources,
    KindSet.ofField_eq_ok_iff.2 h.sinks⟩

theorem Rule.isRead_of_ofJson {v : Json} {r : Rule} (h : ofJson v = .ok r) :
    r.pattern.IsRead v := by
  have described := (ofJson_eq_ok_iff.1 h).pattern
  obtain ⟨name, code, description, pattern⟩ := r
  cases pattern with
  | sourceSink p => exact SourceSinkPattern.DescribedBy.isRead described
  | multiSource p => exact MultiSourcePattern.DescribedBy.isRead described
  | exploitability p => exact ExploitabilityPattern.DescribedBy.isRead described

end TaintFlow
