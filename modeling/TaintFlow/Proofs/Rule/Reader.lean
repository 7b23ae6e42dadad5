import TaintFlow.Proofs.Kind.Json
import TaintFlow.Rule.Json

/-!
# Which objects describe a rule

A rule is read member by member, and its pattern is made from the sets of kinds that were read.
`Rule.DescribedBy` says of a rule what the members of an object have to be for it, shape by shape,
and `Rule.ofJson_eq_ok_iff` that the reader returns exactly the rules that are described: no check
of the functions that make a pattern refuses what was read.

An object may repeat the name of a kind and may hold its members in any order, so many objects
describe the same rule.
-/

namespace TaintFlow

/-! ## Sets of kinds -/

/-- A member holds an array of these texts, of which there is at least one. -/
def Json.ListsTexts (v : Json) (field : String) (texts : List String) : Prop :=
  texts ≠ [] ∧ v.get? field = some (.array (texts.map .string))

theorem Json.ListsTexts.isSome_get? {v : Json} {field : String} {texts : List String}
    (h : v.ListsTexts field texts) : (v.get? field).isSome = true := by
  rw [h.2]
  rfl

/-- A reader of texts takes them from the strings of an array member. -/
theorem Json.mapM_text_eq_ok_iff {items : List Json} {texts : List String} :
    items.mapM Json.text = .ok texts ↔ items = texts.map .string := by
  have item : ∀ {item : Json} {text : String}, item.text = .ok text ↔
      True ∧ item = .string text := by
    intro item text
    rw [Json.text_eq_ok_iff, true_and]
  rw [Checked.mapM_eq_ok_iff_of_inverse item]
  simp

namespace KindSet

/-- The names that a member lists are those of the kinds in the set. -/
def IsListed (kinds : KindSet) (v : Json) (field : String) : Prop :=
  ∃ names, v.ListsTexts field names ∧ (∀ name ∈ names, Kind.IsName name) ∧
    ∀ k, k ∈ kinds ↔ ∃ name ∈ names, k = .named name

theorem ofItems_eq_ok_iff {items : List Json} {kinds : KindSet} :
    ofItems items = .ok kinds ↔ ∃ names : List String, (∀ name ∈ names, Kind.IsName name) ∧
      items = names.map .string ∧ ∀ k, k ∈ kinds ↔ ∃ name ∈ names, k = .named name := by
  have item : ∀ {item : Json} {k : Kind}, (do Kind.ofText (← item.text)) = Except.ok k ↔
      (∃ name, Kind.IsName name ∧ k = .named name) ∧ item = .string k.toText := by
    intro item k
    simp only [Checked.bind_eq_ok_iff, Json.text_eq_ok_iff, Kind.ofText_eq_ok_iff]
    constructor
    · rintro ⟨name, rfl, isName, rfl⟩
      exact ⟨⟨name, isName, rfl⟩, congrArg Json.string (Kind.toText_named name).symm⟩
    · rintro ⟨⟨name, isName, rfl⟩, rfl⟩
      rw [Kind.toText_named]
      exact ⟨name, rfl, isName, rfl⟩
  rw [ofItems, Checked.bind_eq_ok_iff]
  constructor
  · rintro ⟨list, hlist, h⟩
    cases h
    obtain ⟨named, rfl⟩ := (Checked.mapM_eq_ok_iff_of_inverse item).1 hlist
    refine ⟨list.map Kind.toText, ?_, by simp, fun k => ?_⟩
    · intro name hname
      obtain ⟨k, hk, rfl⟩ := List.mem_map.1 hname
      obtain ⟨name, isName, rfl⟩ := named k hk
      rwa [Kind.toText_named]
    · rw [SortedSet.mem_ofList]
      constructor
      · intro hk
        obtain ⟨name, _, rfl⟩ := named k hk
        exact ⟨name, List.mem_map.2 ⟨_, hk, Kind.toText_named name⟩, rfl⟩
      · rintro ⟨name, hname, rfl⟩
        obtain ⟨k, hk, rfl⟩ := List.mem_map.1 hname
        obtain ⟨name, _, rfl⟩ := named k hk
        rwa [Kind.toText_named]
  · rintro ⟨names, isName, rfl, members⟩
    refine ⟨names.map Kind.named, (Checked.mapM_eq_ok_iff_of_inverse item).2 ⟨?_, ?_⟩, ?_⟩
    · intro k hk
      obtain ⟨name, hname, rfl⟩ := List.mem_map.1 hk
      exact ⟨name, isName name hname, rfl⟩
    · simp [Kind.toText_named]
    · refine congrArg Except.ok (SortedSet.ext fun k => ?_)
      rw [members, SortedSet.mem_ofList, List.mem_map]
      exact exists_congr fun name => and_congr_right fun _ => eq_comm

theorem ofField_eq_ok_iff {v : Json} {field : String} {kinds : KindSet} :
    ofField v field = .ok kinds ↔ kinds.IsListed v field := by
  simp only [ofField, Checked.bind_eq_ok_iff, Json.nonemptyArrayField_eq_ok_iff, ofItems_eq_ok_iff]
  constructor
  · rintro ⟨_, ⟨nonempty, hfield⟩, names, isName, rfl, members⟩
    exact ⟨names, ⟨by simpa using nonempty, hfield⟩, isName, members⟩
  · rintro ⟨names, ⟨nonempty, hfield⟩, isName, members⟩
    exact ⟨_, ⟨by simpa using nonempty, hfield⟩, names, isName, rfl, members⟩

namespace IsListed

variable {kinds : KindSet} {v : Json} {field : String}

theorem isSome_get? (h : kinds.IsListed v field) : (v.get? field).isSome = true := by
  obtain ⟨_, listed, _⟩ := h
  exact listed.isSome_get?

theorem isObject (h : kinds.IsListed v field) : v.isObject = true := by
  obtain ⟨_, ⟨_, found⟩, _⟩ := h
  exact Json.isObject_of_get? found

theorem isEmpty_eq_false (h : kinds.IsListed v field) : kinds.isEmpty = false := by
  obtain ⟨names, ⟨nonempty, _⟩, _, members⟩ := h
  obtain ⟨name, hname⟩ := List.exists_mem_of_ne_nil _ nonempty
  exact SortedSet.isEmpty_eq_false_iff.2 ⟨.named name, (members _).2 ⟨name, hname, rfl⟩⟩

theorem isNamed (h : kinds.IsListed v field) : ∀ k ∈ kinds, k.isNamed = true := by
  obtain ⟨names, _, _, members⟩ := h
  intro k hk
  obtain ⟨name, _, rfl⟩ := (members k).1 hk
  rfl

end IsListed

end KindSet

/-! ## Patterns from their parts -/

theorem SourceSinkPattern.make_eq_ok_iff {code : Int64} {sources sinks : KindSet}
    {transforms : List Transform} {p : SourceSinkPattern} :
    make code sources sinks transforms = .ok p ↔
      p.sources = sources ∧ p.sinks = sinks ∧ p.transforms = transforms := by
  rw [make]
  constructor
  · intro h
    split at h
    next => cases h
    next =>
      split at h
      next => cases h
      next =>
        cases h
        exact ⟨rfl, rfl, rfl⟩
  · rintro ⟨rfl, rfl, rfl⟩
    rw [dif_neg (by simp [p.has_sources]), dif_neg (by simp [p.has_sinks])]

theorem ExploitabilityPattern.make_eq_ok_iff {code : Int64} {effectSources sources sinks : KindSet}
    {p : ExploitabilityPattern} :
    make code effectSources sources sinks = .ok p ↔
      p.effectSources = effectSources ∧ p.sources = sources ∧ p.sinks = sinks := by
  rw [make]
  constructor
  · intro h
    split at h
    next => cases h
    next =>
      split at h
      next => cases h
      next =>
        split at h
        next => cases h
        next =>
          cases h
          exact ⟨rfl, rfl, rfl⟩
  · rintro ⟨rfl, rfl, rfl⟩
    rw [dif_neg (by simp [p.has_effectSources]), dif_neg (by simp [p.has_sources]),
      dif_neg (by simp [p.has_sinks])]

namespace MultiSourcePattern

theorem exists_mem_keys_of_size {sources : SortedMap String KindSet} (two : sources.size = 2) :
    ∃ label, label ∈ sources.keys := by
  refine List.exists_mem_of_ne_nil _ fun none => ?_
  rw [SortedMap.size, List.map_eq_nil_iff.1 none] at two
  cases two

theorem exists_mem_keys (p : MultiSourcePattern) : ∃ label, label ∈ p.sources.keys :=
  exists_mem_keys_of_size p.two_labels

theorem make_eq_ok_iff {code : Int64} {sources : SortedMap String KindSet} {sinks : KindSet}
    {p : MultiSourcePattern} :
    make code sources sinks = .ok p ↔
      p.sources = sources ∧ p.partialSinks = partialSinksOf sinks ∧ sinks.isEmpty = false ∧
        ∀ k ∈ sinks.toList, k.isPartial = true := by
  rw [make]
  constructor
  · intro h
    split at h
    next =>
      split at h
      next =>
        split at h
        next => cases h
        next nonempty =>
          split at h
          next allPartial =>
            cases h
            exact ⟨rfl, rfl, by simpa using nonempty, allPartial⟩
          next => cases h
      next => cases h
    next => cases h
  · rintro ⟨rfl, same, nonempty, allPartial⟩
    rw [dif_pos p.two_labels, dif_pos p.has_sources, dif_neg (by simp [nonempty]),
      dif_pos allPartial]
    cases p
    cases same
    rfl

/-- The partial sinks with these names and labels, as kinds. -/
def sinksOf (names labels : List String) : KindSet :=
  .ofList (names.flatMap fun name => labels.map fun label => Kind.ofPartial ⟨name, label⟩)

theorem mem_sinksOf_iff {names labels : List String} {k : Kind} :
    k ∈ sinksOf names labels ↔
      ∃ sink : PartialSink, (sink.name ∈ names ∧ sink.label ∈ labels) ∧ k = .ofPartial sink := by
  rw [sinksOf, SortedSet.mem_ofList]
  simp only [List.mem_flatMap, List.mem_map]
  constructor
  · rintro ⟨name, hname, label, hlabel, rfl⟩
    exact ⟨⟨name, label⟩, ⟨hname, hlabel⟩, rfl⟩
  · rintro ⟨sink, ⟨hname, hlabel⟩, rfl⟩
    exact ⟨sink.name, hname, sink.label, hlabel, rfl⟩

theorem mem_partialSinksOf_sinksOf {names labels : List String} {sink : PartialSink} :
    sink ∈ partialSinksOf (sinksOf names labels) ↔ sink.name ∈ names ∧ sink.label ∈ labels := by
  rw [partialSinksOf, SortedSet.mem_ofList, List.mem_filterMap]
  simp only [SortedSet.mem_toList, mem_sinksOf_iff]
  constructor
  · rintro ⟨_, ⟨other, among, rfl⟩, same⟩
    cases same
    exact among
  · intro among
    exact ⟨.ofPartial sink, ⟨sink, among, rfl⟩, rfl⟩

/-- A pattern is made of names and labels when it has a partial sink for each pair of them. -/
theorem make_sinksOf_eq_ok_iff {code : Int64} {sources : SortedMap String KindSet}
    {names : List String} (nonempty : names ≠ []) {p : MultiSourcePattern} :
    make code sources (sinksOf names sources.keys) = .ok p ↔ p.sources = sources ∧
      ∀ sink, sink ∈ p.partialSinks ↔ sink.name ∈ names ∧ sink.label ∈ sources.keys := by
  rw [make_eq_ok_iff]
  constructor
  · rintro ⟨sameSources, sameSinks, _⟩
    refine ⟨sameSources, fun sink => ?_⟩
    rw [sameSinks, mem_partialSinksOf_sinksOf]
  · rintro ⟨rfl, members⟩
    obtain ⟨name, hname⟩ := List.exists_mem_of_ne_nil _ nonempty
    obtain ⟨label, hlabel⟩ := p.exists_mem_keys
    refine ⟨rfl, SortedSet.ext fun sink => ?_, ?_, fun k hk => ?_⟩
    · rw [members, mem_partialSinksOf_sinksOf]
    · exact SortedSet.isEmpty_eq_false_iff.2
        ⟨_, mem_sinksOf_iff.2 ⟨⟨name, label⟩, ⟨hname, hlabel⟩, rfl⟩⟩
    · obtain ⟨sink, _, rfl⟩ := mem_sinksOf_iff.1 hk
      rfl

/-- The sources of two labels make a pattern with any names. -/
theorem exists_make_sinksOf (code : Int64) {sources : SortedMap String KindSet}
    (two : sources.size = 2) (hasSources : ∀ kinds ∈ sources.values, kinds.isEmpty = false)
    {names : List String} (nonempty : names ≠ []) :
    ∃ p, make code sources (sinksOf names sources.keys) = .ok p := by
  obtain ⟨name, hname⟩ := List.exists_mem_of_ne_nil _ nonempty
  obtain ⟨label, hlabel⟩ := exists_mem_keys_of_size two
  have hasSinks : (partialSinksOf (sinksOf names sources.keys)).isEmpty = false :=
    SortedSet.isEmpty_eq_false_iff.2
      ⟨⟨name, label⟩, mem_partialSinksOf_sinksOf.2 ⟨hname, hlabel⟩⟩
  refine ⟨⟨sources, _, two, hasSources, hasSinks⟩, (make_sinksOf_eq_ok_iff nonempty).2 ⟨rfl, ?_⟩⟩
  exact fun _ => mem_partialSinksOf_sinksOf

end MultiSourcePattern

/-! ## Described patterns -/

/-- The members of `v` are those of a rule with this source-sink pattern. -/
structure SourceSinkPattern.DescribedBy (v : Json) (p : SourceSinkPattern) : Prop where
  members : v.HasOnly ["name", "code", "description", "sources", "sinks", "transforms", "oncall"]
  sources : p.sources.IsListed v "sources"
  sinks : p.sinks.IsListed v "sinks"
  /-- Without transforms the member is left out. -/
  transforms : (∀ t ∈ p.transforms, t.Proper) ∧ v.get? "transforms" =
    if p.transforms.isEmpty then none else some (Transform.listToJson p.transforms)

/-- The members of `v` are those of a rule with this multi-source pattern. -/
structure MultiSourcePattern.DescribedBy (v : Json) (p : MultiSourcePattern) : Prop where
  members : v.HasOnly ["name", "code", "description", "multi_sources", "partial_sinks", "oncall"]
  /-- The labels are the members of a member. -/
  sources : ∃ labels, v.get? "multi_sources" = some labels ∧ labels.HasOnly p.sources.keys ∧
    ∀ label kinds, p.sources.get? label = some kinds → kinds.IsListed labels label
  /-- There is a partial sink for each name and label. -/
  partialSinks : ∃ names, v.ListsTexts "partial_sinks" names ∧
    ∀ sink, sink ∈ p.partialSinks ↔ sink.name ∈ names ∧ sink.label ∈ p.sources.keys

/-- The members of `v` are those of a rule with this exploitability pattern. -/
structure ExploitabilityPattern.DescribedBy (v : Json) (p : ExploitabilityPattern) : Prop where
  members : v.HasOnly
    ["name", "code", "description", "effect_sources", "sources", "sinks", "oncall"]
  effectSources : p.effectSources.IsListed v "effect_sources"
  sources : p.sources.IsListed v "sources"
  sinks : p.sinks.IsListed v "sinks"

/-- The members of `v` are those of a rule with this pattern. -/
def Pattern.DescribedBy (v : Json) : Pattern → Prop
  | .sourceSink p => p.DescribedBy v
  | .multiSource p => p.DescribedBy v
  | .exploitability p => p.DescribedBy v

/-- The members of `v` are those of this rule. -/
structure Rule.DescribedBy (v : Json) (r : Rule) : Prop where
  name : v.get? "name" = some (.string r.name)
  code : v.get? "code" = some (.integer r.code.toInt)
  description : v.get? "description" = some (.string r.description)
  pattern : r.pattern.DescribedBy v

namespace Rule

/-- A step with the transforms of an object succeeds when it does with those that are described. -/
theorem transforms_bind_eq_ok_iff {α : Type} {v : Json} {f : List Transform → Checked α} {a : α} :
    (match v.get? "transforms" with
      | none => Except.ok [] >>= f
      | some list => Transform.listOfJson list >>= f) = .ok a ↔
    ∃ l : List Transform, ((∀ t ∈ l, t.Proper) ∧ v.get? "transforms" =
      if l.isEmpty then none else some (Transform.listToJson l)) ∧ f l = .ok a := by
  cases v.get? "transforms" with
  | none =>
      rw [Checked.bind_ok]
      constructor
      · intro h
        exact ⟨[], ⟨List.forall_mem_nil _, rfl⟩, h⟩
      · rintro ⟨l, ⟨_, absent⟩, h⟩
        cases l with
        | nil => exact h
        | cons t rest => cases absent
  | some list =>
      rw [Checked.bind_eq_ok_iff]
      refine exists_congr fun l => and_congr_left fun _ => ?_
      rw [Transform.listOfJson_eq_ok_iff]
      cases l with
      | nil => simp
      | cons t rest => simp

theorem sourceSinkOfJson_eq_ok_iff {code : Int64} {v : Json} {p : SourceSinkPattern} :
    sourceSinkOfJson code v = .ok p ↔ p.DescribedBy v := by
  rw [sourceSinkOfJson, Checked.seq_eq_ok_iff, Json.onlyFields_eq_ok_iff]
  simp only [Checked.bind_eq_ok_iff, KindSet.ofField_eq_ok_iff]
  constructor
  · rintro ⟨⟨_, members⟩, _, sources, _, sinks, h⟩
    obtain ⟨_, transforms, h⟩ := transforms_bind_eq_ok_iff.1 h
    obtain ⟨rfl, rfl, rfl⟩ := SourceSinkPattern.make_eq_ok_iff.1 h
    exact ⟨members, sources, sinks, transforms⟩
  · rintro ⟨members, sources, sinks, transforms⟩
    refine ⟨⟨sources.isObject, members⟩, _, sources, _, sinks, ?_⟩
    refine transforms_bind_eq_ok_iff.2 ⟨_, transforms, ?_⟩
    exact SourceSinkPattern.make_eq_ok_iff.2 ⟨rfl, rfl, rfl⟩

theorem exploitabilityOfJson_eq_ok_iff {code : Int64} {v : Json} {p : ExploitabilityPattern} :
    exploitabilityOfJson code v = .ok p ↔ p.DescribedBy v := by
  rw [exploitabilityOfJson, Checked.seq_eq_ok_iff, Json.onlyFields_eq_ok_iff]
  simp only [Checked.bind_eq_ok_iff, KindSet.ofField_eq_ok_iff,
    ExploitabilityPattern.make_eq_ok_iff]
  constructor
  · rintro ⟨⟨_, members⟩, _, effectSources, _, sources, _, sinks, rfl, rfl, rfl⟩
    exact ⟨members, effectSources, sources, sinks⟩
  · rintro ⟨members, effectSources, sources, sinks⟩
    exact ⟨⟨sources.isObject, members⟩, _, effectSources, _, sources, _, sinks, rfl, rfl, rfl⟩

theorem multiSourceOfJson_eq_ok_iff {code : Int64} {v : Json} {p : MultiSourcePattern} :
    multiSourceOfJson code v = .ok p ↔ p.DescribedBy v := by
  rw [multiSourceOfJson, Checked.seq_eq_ok_iff, Json.onlyFields_eq_ok_iff]
  simp only [Checked.bind_eq_ok_iff, Json.objectField_eq_ok_iff, Checked.mapM_key_eq_ok_iff,
    KindSet.ofField_eq_ok_iff]
  constructor
  · rintro ⟨⟨_, members⟩, labels, hlabels, sources, ⟨keys, listed⟩, h⟩
    split at h
    next => cases h
    next =>
      simp only [Checked.bind_eq_ok_iff, Json.nonemptyArrayField_eq_ok_iff,
        Json.mapM_text_eq_ok_iff] at h
      obtain ⟨_, ⟨nonempty, hnames⟩, names, rfl, made⟩ := h
      have nonempty : names ≠ [] := by simpa using nonempty
      obtain ⟨same, partialSinks⟩ := (MultiSourcePattern.make_sinksOf_eq_ok_iff nonempty).1 made
      rw [← same] at partialSinks
      refine ⟨members, ⟨.object labels, hlabels, ?_, ?_⟩, names, ⟨nonempty, hnames⟩, partialSinks⟩
      · intro key hkey
        rw [same, SortedMap.mem_keys_ofList, keys]
        exact Json.isSome_get?_object_iff.1 hkey
      · intro label kinds hkinds
        rw [same] at hkinds
        exact listed _ (SortedMap.mem_of_get?_ofList hkinds)
  · rintro ⟨members, ⟨labels, hlabels, keys, listed⟩, names, hnames, partialSinks⟩
    -- The member of the labels is an object, since at least one label is listed in it.
    obtain ⟨first, hfirst⟩ := p.exists_mem_keys
    obtain ⟨firstKinds, hfirst⟩ := Option.isSome_iff_exists.1 (SortedMap.isSome_get?_iff.2 hfirst)
    have listedFirst := listed first firstKinds hfirst
    obtain ⟨labels, rfl⟩ := Json.exists_members_of_isObject listedFirst.isObject
    obtain ⟨sources, hkeys, hvalues⟩ := SortedMap.exists_entries fun key hkey =>
      keys key (Json.isSome_get?_object_iff.2 hkey)
    -- A label may stand in the object twice, and has the same kinds both times.
    have whole : SortedMap.ofList sources = p.sources := by
      refine SortedMap.ofList_eq_of_get? hvalues fun label hlabel => ?_
      obtain ⟨kinds, hkinds⟩ := Option.isSome_iff_exists.1 (SortedMap.isSome_get?_iff.2 hlabel)
      rw [hkeys, ← Json.isSome_get?_object_iff]
      exact (listed label kinds hkinds).isSome_get?
    refine ⟨⟨Json.isObject_of_get? hlabels, members⟩, labels, hlabels, sources,
      ⟨hkeys, fun e he => listed _ _ (hvalues e he)⟩, ?_⟩
    rw [whole, if_neg (not_not.2 p.two_labels)]
    simp only [Checked.bind_eq_ok_iff, Json.nonemptyArrayField_eq_ok_iff, Json.mapM_text_eq_ok_iff]
    refine ⟨_, ⟨?_, hnames.2⟩, names, rfl, ?_⟩
    · simpa using hnames.1
    · exact (MultiSourcePattern.make_sinksOf_eq_ok_iff hnames.1).2 ⟨rfl, partialSinks⟩

/-- The members that are there tell the shapes apart. -/
theorem patternOfJson_eq_ok_iff {code : Int64} {v : Json} {pattern : Pattern} :
    patternOfJson code v = .ok pattern ↔ pattern.DescribedBy v := by
  dsimp only [patternOfJson]
  constructor
  · intro h
    split at h
    next =>
      obtain ⟨p, hp, h⟩ := Checked.bind_eq_ok_iff.1 h
      cases h
      exact exploitabilityOfJson_eq_ok_iff.1 hp
    next =>
      split at h
      next =>
        obtain ⟨p, hp, h⟩ := Checked.bind_eq_ok_iff.1 h
        cases h
        exact sourceSinkOfJson_eq_ok_iff.1 hp
      next =>
        split at h
        next =>
          obtain ⟨p, hp, h⟩ := Checked.bind_eq_ok_iff.1 h
          cases h
          exact multiSourceOfJson_eq_ok_iff.1 hp
        next => cases h
  · intro described
    cases pattern with
    | exploitability p =>
        have described : p.DescribedBy v := described
        rw [if_pos described.effectSources.isSome_get?,
          exploitabilityOfJson_eq_ok_iff.2 described]
        rfl
    | sourceSink p =>
        have described : p.DescribedBy v := described
        rw [if_neg fun effect => absurd (described.members _ effect) (by decide),
          if_pos (Bool.and_eq_true_iff.2
            ⟨described.sources.isSome_get?, described.sinks.isSome_get?⟩),
          sourceSinkOfJson_eq_ok_iff.2 described]
        rfl
    | multiSource p =>
        have described : p.DescribedBy v := described
        obtain ⟨labels, hlabels, _⟩ := described.sources
        obtain ⟨names, hnames, _⟩ := described.partialSinks
        rw [if_neg fun effect => absurd (described.members _ effect) (by decide),
          if_neg fun both =>
            absurd (described.members _ (Bool.and_eq_true_iff.1 both).1) (by decide),
          if_pos (Bool.and_eq_true_iff.2 ⟨Option.isSome_of_eq_some hlabels, hnames.isSome_get?⟩),
          multiSourceOfJson_eq_ok_iff.2 described]
        rfl

/-- The reader returns exactly the rules that an object describes. -/
theorem ofJson_eq_ok_iff {v : Json} {r : Rule} : ofJson v = .ok r ↔ r.DescribedBy v := by
  simp only [ofJson, Checked.bind_eq_ok_iff, Json.textField_eq_ok_iff, Json.integerField_eq_ok_iff,
    patternOfJson_eq_ok_iff, Checked.pure_eq_ok, Except.ok.injEq]
  constructor
  · rintro ⟨name, hname, code, hcode, description, hdescription, pattern, hpattern, rfl⟩
    exact ⟨hname, hcode, hdescription, hpattern⟩
  · rintro ⟨hname, hcode, hdescription, hpattern⟩
    exact ⟨_, hname, _, hcode, _, hdescription, _, hpattern, rfl⟩

end Rule

end TaintFlow
