import TaintFlow.Proofs.Rule.Reader

/-!
# The grammar of rules

`Json.IsRule` says which values are rules without naming one: an object with a name, a code and a
description, and beside them the members of one of three shapes.  Exactly these values are read
(`Rule.exists_describedBy_iff`), and a rule that was read is read back from its JSON form
(`Rule.ofJson_toJson`), in which the kinds are sorted and nothing is repeated.
-/

namespace TaintFlow

/-! ## Values that are rules -/

namespace Json

/-- A member lists the names of kinds. -/
def ListsKinds (v : Json) (field : String) : Prop :=
  ∃ names, v.ListsTexts field names ∧ ∀ name ∈ names, Kind.IsName name

/-- A member lists the texts of transforms. -/
def ListsTransforms (v : Json) (field : String) : Prop :=
  ∃ texts, v.ListsTexts field texts ∧ ∀ text ∈ texts, Transform.IsText text

/-- The members that belong to a source-sink rule. -/
structure IsSourceSink (v : Json) : Prop where
  members : v.HasOnly ["name", "code", "description", "sources", "sinks", "transforms", "oncall"]
  sources : v.ListsKinds "sources"
  sinks : v.ListsKinds "sinks"
  transforms : (v.get? "transforms").isSome = true → v.ListsTransforms "transforms"

/-- The members that belong to a multi-source rule, which has two labels. -/
structure IsMultiSource (v : Json) : Prop where
  members : v.HasOnly ["name", "code", "description", "multi_sources", "partial_sinks", "oncall"]
  sources : ∃ labels a b, v.get? "multi_sources" = some labels ∧ a ≠ b ∧ labels.HasOnly [a, b] ∧
    labels.ListsKinds a ∧ labels.ListsKinds b
  partialSinks : ∃ names, v.ListsTexts "partial_sinks" names

/-- The members that belong to an exploitability rule. -/
structure IsExploitability (v : Json) : Prop where
  members : v.HasOnly
    ["name", "code", "description", "effect_sources", "sources", "sinks", "oncall"]
  effectSources : v.ListsKinds "effect_sources"
  sources : v.ListsKinds "sources"
  sinks : v.ListsKinds "sinks"

/-- An object with the members of a rule. -/
structure IsRule (v : Json) : Prop where
  name : ∃ text, v.get? "name" = some (.string text)
  code : ∃ n : Int64, v.get? "code" = some (.integer n.toInt)
  description : ∃ text, v.get? "description" = some (.string text)
  shape : v.IsSourceSink ∨ v.IsMultiSource ∨ v.IsExploitability

end Json

/-! ## From names to kinds -/

theorem KindSet.exists_isListed_iff {v : Json} {field : String} :
    (∃ kinds : KindSet, kinds.IsListed v field) ↔ v.ListsKinds field := by
  constructor
  · rintro ⟨_, names, listed, isName, _⟩
    exact ⟨names, listed, isName⟩
  · rintro ⟨names, listed, isName⟩
    refine ⟨.ofList (names.map Kind.named), names, listed, isName, fun k => ?_⟩
    rw [SortedSet.mem_ofList, List.mem_map]
    exact exists_congr fun name => and_congr_right fun _ => eq_comm

/-- Texts of transforms are those of proper transforms. -/
theorem Transform.exists_texts_iff {texts : List String} :
    (∃ l : List Transform, (∀ t ∈ l, t.Proper) ∧ l.map toText = texts) ↔
      ∀ text ∈ texts, IsText text := by
  constructor
  · rintro ⟨l, proper, rfl⟩ _ htext
    obtain ⟨t, ht, rfl⟩ := List.mem_map.1 htext
    exact isText_iff.2 ⟨t, proper t ht, rfl⟩
  · intro isText
    induction texts with
    | nil => exact ⟨[], List.forall_mem_nil _, rfl⟩
    | cons text texts ih =>
        obtain ⟨first, rest⟩ := List.forall_mem_cons.1 isText
        obtain ⟨t, proper, rfl⟩ := isText_iff.1 first
        obtain ⟨l, properRest, rfl⟩ := ih rest
        exact ⟨t :: l, List.forall_mem_cons.2 ⟨proper, properRest⟩, rfl⟩

theorem Transform.exists_described_iff {v : Json} {field : String} :
    (∃ l : List Transform, (∀ t ∈ l, t.Proper) ∧
        v.get? field = if l.isEmpty then none else some (listToJson l)) ↔
      ((v.get? field).isSome = true → v.ListsTransforms field) := by
  constructor
  · rintro ⟨l, proper, hfield⟩ held
    cases l with
    | nil =>
        rw [hfield] at held
        cases held
    | cons t rest =>
        refine ⟨(t :: rest).map toText, ⟨List.cons_ne_nil _ _, hfield.trans ?_⟩,
          exists_texts_iff.1 ⟨_, proper, rfl⟩⟩
        rw [List.map_map]
        rfl
  · intro lists
    cases hfield : v.get? field with
    | none => exact ⟨[], List.forall_mem_nil _, rfl⟩
    | some list =>
        obtain ⟨texts, ⟨nonempty, found⟩, isText⟩ := lists (by rw [hfield]; rfl)
        obtain ⟨l, proper, rfl⟩ := exists_texts_iff.2 isText
        refine ⟨l, proper, ?_⟩
        rw [if_neg (by simpa using nonempty), ← hfield, found, List.map_map]
        rfl

/-! ## The two labels -/

namespace SortedMap

variable {α β : Type} [Ord α] [Std.TransOrd α]

/-- Maps of two entries have two keys. -/
theorem size_eq_two_iff {m : SortedMap α β} :
    m.size = 2 ↔ ∃ a b, a ≠ b ∧ ∀ k, k ∈ m.keys ↔ k = a ∨ k = b := by
  have size : m.size = m.keys.length := (List.length_map Prod.fst).symm
  rw [size]
  constructor
  · intro two
    obtain ⟨a, b, same⟩ := List.length_eq_two.1 two
    have distinct := m.nodup_keys
    rw [same] at distinct
    refine ⟨a, b, by simpa using distinct, fun k => ?_⟩
    rw [same]
    simp
  · rintro ⟨a, b, distinct, members⟩
    have keys : m.keys.Perm [a, b] :=
      (List.perm_ext_iff_of_nodup m.nodup_keys (by simpa using distinct)).2 fun k => by
        simpa using members k
    exact keys.length_eq

end SortedMap

namespace MultiSourcePattern

/-- Two labels with their kinds make a pattern with a partial sink for each name. -/
theorem exists_of_labels {a b : String} (distinct : a ≠ b) {names : List String}
    (nonempty : names ≠ []) {kindsOf : String → KindSet}
    (nonemptyKinds : ∀ label, label = a ∨ label = b → (kindsOf label).isEmpty = false) :
    ∃ p : MultiSourcePattern, (∀ label, label ∈ p.sources.keys ↔ label = a ∨ label = b) ∧
      (∀ label kinds, p.sources.get? label = some kinds → kinds = kindsOf label) ∧
      ∀ sink, sink ∈ p.partialSinks ↔ sink.name ∈ names ∧ sink.label ∈ p.sources.keys := by
  let sources : SortedMap String KindSet := .ofList [(a, kindsOf a), (b, kindsOf b)]
  have keys : ∀ label, label ∈ sources.keys ↔ label = a ∨ label = b := by
    intro label
    rw [SortedMap.mem_keys_ofList]
    simp
  have values : ∀ label kinds, (label, kinds) ∈ [(a, kindsOf a), (b, kindsOf b)] →
      (label = a ∨ label = b) ∧ kinds = kindsOf label := by
    intro label kinds among
    rcases List.mem_pair.1 among with same | same
    · cases same
      exact ⟨.inl rfl, rfl⟩
    · cases same
      exact ⟨.inr rfl, rfl⟩
  have two : sources.size = 2 := SortedMap.size_eq_two_iff.2 ⟨a, b, distinct, keys⟩
  have hasSources : ∀ kinds ∈ sources.values, kinds.isEmpty = false := by
    intro kinds hkinds
    obtain ⟨label, among⟩ := SortedMap.exists_mem_of_mem_values_ofList hkinds
    obtain ⟨hlabel, rfl⟩ := values label kinds among
    exact nonemptyKinds label hlabel
  obtain ⟨p, made⟩ := exists_make_sinksOf 0 two hasSources nonempty
  obtain ⟨same, sinks⟩ := (make_sinksOf_eq_ok_iff nonempty).1 made
  rw [← same] at keys sinks
  refine ⟨p, keys, fun label kinds hkinds => ?_, sinks⟩
  rw [same] at hkinds
  exact (values label kinds (SortedMap.mem_of_get?_ofList hkinds)).2

end MultiSourcePattern

/-! ## The values that are read -/

namespace Rule

theorem exists_sourceSink_iff {v : Json} :
    (∃ p : SourceSinkPattern, p.DescribedBy v) ↔ v.IsSourceSink := by
  constructor
  · rintro ⟨p, members, sources, sinks, transforms⟩
    exact ⟨members, KindSet.exists_isListed_iff.1 ⟨_, sources⟩,
      KindSet.exists_isListed_iff.1 ⟨_, sinks⟩, Transform.exists_described_iff.1 ⟨_, transforms⟩⟩
  · rintro ⟨members, sources, sinks, transforms⟩
    obtain ⟨sources, hsources⟩ := KindSet.exists_isListed_iff.2 sources
    obtain ⟨sinks, hsinks⟩ := KindSet.exists_isListed_iff.2 sinks
    obtain ⟨transforms, htransforms⟩ := Transform.exists_described_iff.2 transforms
    exact ⟨⟨sources, sinks, transforms, hsources.isEmpty_eq_false, hsinks.isEmpty_eq_false⟩,
      members, hsources, hsinks, htransforms⟩

theorem exists_exploitability_iff {v : Json} :
    (∃ p : ExploitabilityPattern, p.DescribedBy v) ↔ v.IsExploitability := by
  constructor
  · rintro ⟨p, members, effectSources, sources, sinks⟩
    exact ⟨members, KindSet.exists_isListed_iff.1 ⟨_, effectSources⟩,
      KindSet.exists_isListed_iff.1 ⟨_, sources⟩, KindSet.exists_isListed_iff.1 ⟨_, sinks⟩⟩
  · rintro ⟨members, effectSources, sources, sinks⟩
    obtain ⟨effectSources, heffect⟩ := KindSet.exists_isListed_iff.2 effectSources
    obtain ⟨sources, hsources⟩ := KindSet.exists_isListed_iff.2 sources
    obtain ⟨sinks, hsinks⟩ := KindSet.exists_isListed_iff.2 sinks
    exact ⟨⟨effectSources, sources, sinks, heffect.isEmpty_eq_false, hsources.isEmpty_eq_false,
      hsinks.isEmpty_eq_false⟩, members, heffect, hsources, hsinks⟩

theorem exists_multiSource_iff {v : Json} :
    (∃ p : MultiSourcePattern, p.DescribedBy v) ↔ v.IsMultiSource := by
  constructor
  · rintro ⟨p, members, ⟨labels, hlabels, keys, listed⟩, names, hnames, _⟩
    obtain ⟨a, b, distinct, hkeys⟩ := SortedMap.size_eq_two_iff.1 p.two_labels
    have lists : ∀ label, label = a ∨ label = b → labels.ListsKinds label := by
      intro label hlabel
      obtain ⟨kinds, hkinds⟩ := Option.isSome_iff_exists.1
        (SortedMap.isSome_get?_iff.2 ((hkeys label).2 hlabel))
      exact KindSet.exists_isListed_iff.1 ⟨kinds, listed label kinds hkinds⟩
    refine ⟨members, ⟨labels, a, b, hlabels, distinct, fun key hkey => ?_, lists a (.inl rfl),
      lists b (.inr rfl)⟩, names, hnames⟩
    simpa using (hkeys key).1 (keys key hkey)
  · rintro ⟨members, ⟨labels, a, b, hlabels, distinct, keys, listsA, listsB⟩, names, hnames⟩
    have listed : ∀ label, ∃ kinds : KindSet, label = a ∨ label = b →
        kinds.IsListed labels label := by
      intro label
      by_cases among : label = a ∨ label = b
      · have lists : labels.ListsKinds label := by
          rcases among with rfl | rfl
          · exact listsA
          · exact listsB
        obtain ⟨kinds, hkinds⟩ := KindSet.exists_isListed_iff.2 lists
        exact ⟨kinds, fun _ => hkinds⟩
      · exact ⟨∅, fun h => absurd h among⟩
    choose kindsOf hkindsOf using listed
    obtain ⟨p, hkeys, values, sinks⟩ := MultiSourcePattern.exists_of_labels distinct hnames.1
      fun label hlabel => (hkindsOf label hlabel).isEmpty_eq_false
    refine ⟨p, members, ⟨labels, hlabels, fun key hkey => ?_, fun label kinds held => ?_⟩, names,
      hnames, sinks⟩
    · rw [hkeys]
      simpa using keys key hkey
    · rw [values label kinds held]
      exact hkindsOf label ((hkeys label).1 (SortedMap.isSome_get?_iff.1 (by rw [held]; rfl)))

/-- Exactly the values that are rules describe one. -/
theorem exists_describedBy_iff {v : Json} : (∃ r : Rule, r.DescribedBy v) ↔ v.IsRule := by
  constructor
  · rintro ⟨r, name, code, description, described⟩
    refine ⟨⟨_, name⟩, ⟨_, code⟩, ⟨_, description⟩, ?_⟩
    obtain ⟨_, _, _, pattern⟩ := r
    cases pattern with
    | sourceSink p => exact .inl (exists_sourceSink_iff.1 ⟨p, described⟩)
    | multiSource p => exact .inr (.inl (exists_multiSource_iff.1 ⟨p, described⟩))
    | exploitability p => exact .inr (.inr (exists_exploitability_iff.1 ⟨p, described⟩))
  · rintro ⟨⟨name, hname⟩, ⟨code, hcode⟩, ⟨description, hdescription⟩, shape⟩
    have ofPattern : ∀ pattern : Pattern, pattern.DescribedBy v → ∃ r : Rule, r.DescribedBy v :=
      fun pattern described => ⟨⟨name, code, description, pattern⟩, hname, hcode, hdescription,
        described⟩
    rcases shape with sourceSink | multiSource | exploitability
    · obtain ⟨p, described⟩ := exists_sourceSink_iff.2 sourceSink
      exact ofPattern (.sourceSink p) described
    · obtain ⟨p, described⟩ := exists_multiSource_iff.2 multiSource
      exact ofPattern (.multiSource p) described
    · obtain ⟨p, described⟩ := exists_exploitability_iff.2 exploitability
      exact ofPattern (.exploitability p) described

end Rule

end TaintFlow
