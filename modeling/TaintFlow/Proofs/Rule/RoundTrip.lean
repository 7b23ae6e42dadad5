import TaintFlow.Proofs.Rule.Grammar

/-!
# Rules that are read back

The JSON form of a rule lists its kinds in order and once each, and of its partial sinks the names
only.  A rule that was read is nevertheless read back from it: its kinds are named, and it has a
partial sink for each name and label.

`Rule.grammar_and_round_trip` puts together what is read, what it is read as, and that this is kept.
-/

namespace TaintFlow

/-! ## Members of a JSON form -/

theorem Json.get?_object_entries {β : Type} (m : SortedMap String β) (f : β → Json) (key : String) :
    (Json.object (m.entries.map fun e => (e.1, f e.2))).get? key = (m.get? key).map f := by
  rw [get?, SortedMap.get?]
  induction m.entries with
  | nil => rfl
  | cons e l ih =>
      rw [List.map_cons, List.lookup_cons, SortedMap.lookupIn, ih]
      by_cases same : key = e.1
      · rw [if_pos (Std.LawfulEqCmp.compare_eq_iff_eq.2 same), beq_iff_eq.2 same]
        rfl
      · rw [if_neg fun h => same (Std.LawfulEqCmp.compare_eq_iff_eq.1 h),
          beq_eq_false_iff_ne.2 same]

/-- A set of kinds that was read is listed by its JSON form. -/
theorem KindSet.IsListed.of_toJson {kinds : KindSet} {v w : Json} {field member : String}
    (h : kinds.IsListed v field) (written : w.get? member = some kinds.toJson) :
    kinds.IsListed w member := by
  obtain ⟨first, hfirst⟩ := SortedSet.isEmpty_eq_false_iff.1 h.isEmpty_eq_false
  obtain ⟨names, _, isName, members⟩ := h
  have text : ∀ {k}, k ∈ kinds → ∃ name, Kind.IsName name ∧ k = .named name ∧ k.toText = name := by
    intro k hk
    obtain ⟨name, hname, rfl⟩ := (members k).1 hk
    exact ⟨name, isName name hname, rfl, Kind.toText_named name⟩
  refine ⟨kinds.toList.map Kind.toText, ⟨?_, ?_⟩, ?_, fun k => ?_⟩
  · exact List.ne_nil_of_mem (List.mem_map.2 ⟨first, hfirst, rfl⟩)
  · rw [written, toJson, List.map_map]
    rfl
  · intro name hname
    obtain ⟨k, hk, rfl⟩ := List.mem_map.1 hname
    obtain ⟨name, isName, _, same⟩ := text hk
    rwa [same]
  · constructor
    · intro hk
      obtain ⟨name, _, named, same⟩ := text hk
      exact ⟨name, List.mem_map.2 ⟨k, hk, same⟩, named⟩
    · rintro ⟨name, hname, rfl⟩
      obtain ⟨k, hk, rfl⟩ := List.mem_map.1 hname
      obtain ⟨name, _, rfl, same⟩ := text hk
      rwa [same]

/-! ## The JSON form of a described rule -/

namespace Rule

variable {v : Json} {name description : String} {code : Int64}

theorem describedBy_toJson_sourceSink {p : SourceSinkPattern} (h : p.DescribedBy v) :
    p.DescribedBy (toJson ⟨name, code, description, .sourceSink p⟩) := by
  refine ⟨Json.hasOnly_of_subset ?_, h.sources.of_toJson rfl, h.sinks.of_toJson rfl,
    h.transforms.1, ?_⟩
  · dsimp only
    split <;> simp
  · dsimp only [toJson]
    cases p.transforms.isEmpty <;> rfl

theorem describedBy_toJson_exploitability {p : ExploitabilityPattern} (h : p.DescribedBy v) :
    p.DescribedBy (toJson ⟨name, code, description, .exploitability p⟩) :=
  ⟨Json.hasOnly_of_subset (by simp), h.effectSources.of_toJson rfl, h.sources.of_toJson rfl,
    h.sinks.of_toJson rfl⟩

theorem describedBy_toJson_multiSource {p : MultiSourcePattern} (h : p.DescribedBy v) :
    p.DescribedBy (toJson ⟨name, code, description, .multiSource p⟩) := by
  obtain ⟨_, ⟨labels, _, _, listed⟩, names, ⟨nonempty, _⟩, partialSinks⟩ := h
  obtain ⟨label, hlabel⟩ := p.exists_mem_keys
  -- Each name that is left stands on a partial sink of every label.
  have written : ∀ name, name ∈ SortedSet.ofList (p.partialSinks.toList.map PartialSink.name) ↔
      name ∈ names := by
    intro name
    rw [SortedSet.mem_ofList, List.mem_map]
    constructor
    · rintro ⟨sink, hsink, rfl⟩
      exact ((partialSinks sink).1 hsink).1
    · intro hname
      exact ⟨⟨name, label⟩, (partialSinks _).2 ⟨hname, hlabel⟩, rfl⟩
  refine ⟨Json.hasOnly_of_subset (by simp), ⟨_, rfl, ?_, ?_⟩,
    (SortedSet.ofList (p.partialSinks.toList.map PartialSink.name)).toList, ⟨?_, rfl⟩, ?_⟩
  · intro key held
    rw [Json.get?_object_entries, Option.isSome_map] at held
    exact SortedMap.isSome_get?_iff.1 held
  · intro label kinds hkinds
    refine (listed label kinds hkinds).of_toJson ?_
    rw [Json.get?_object_entries, hkinds]
    rfl
  · obtain ⟨name, hname⟩ := List.exists_mem_of_ne_nil _ nonempty
    exact List.ne_nil_of_mem ((written name).2 hname)
  · intro sink
    rw [partialSinks, SortedSet.mem_toList, written]

/-- A rule that an object describes is described by its own JSON form. -/
theorem DescribedBy.toJson {r : Rule} (h : r.DescribedBy v) : r.DescribedBy r.toJson := by
  have described := h.pattern
  obtain ⟨name, code, description, pattern⟩ := r
  cases pattern with
  | sourceSink p =>
      exact ⟨rfl, rfl, rfl, describedBy_toJson_sourceSink described⟩
  | multiSource p => exact ⟨rfl, rfl, rfl, describedBy_toJson_multiSource described⟩
  | exploitability p => exact ⟨rfl, rfl, rfl, describedBy_toJson_exploitability described⟩

/-- A rule that was read is read back from its JSON form. -/
theorem ofJson_toJson {r : Rule} (h : ofJson v = .ok r) : ofJson r.toJson = .ok r :=
  ofJson_eq_ok_iff.2 (ofJson_eq_ok_iff.1 h).toJson

/-! ## The grammar and the round trip -/

/-- A value is read as a rule exactly when it has the members of one.  The rule is the one that they
describe, and it is read back from its JSON form. -/
theorem grammar_and_round_trip (v : Json) :
    ((∃ r, ofJson v = .ok r) ↔ v.IsRule) ∧
      ∀ r, (ofJson v = .ok r ↔ r.DescribedBy v) ∧
        (ofJson v = .ok r → ofJson r.toJson = .ok r) := by
  refine ⟨?_, fun r => ⟨ofJson_eq_ok_iff, ofJson_toJson⟩⟩
  simp only [ofJson_eq_ok_iff, exists_describedBy_iff]

/-- A rule with these members beside its name, code and description. -/
def sampleObject (members : List (String × Json)) : Json :=
  .object ([("name", .string "Rule"), ("code", .integer 7), ("description", .string "")] ++ members)

/-- A multi-source rule that repeats a kind and has its labels out of order. -/
def sampleLabelsJson : Json :=
  sampleObject [("oncall", .null), ("partial_sinks", .array [.string "Y", .string "X:Y"]),
    ("multi_sources", .object [("second", .array [.string "B"]),
      ("first", .array [.string "C", .string "A", .string "C"])])]

/-- The names of partial sinks are arbitrary, and there is one for each name and label.  An
exploitability rule has no transforms, and a name of a kind has no colon. -/
theorem grammar_and_round_trip_samples :
    (sampleLabelsJson.IsRule ∧ ∃ p : MultiSourcePattern,
      ofJson sampleLabelsJson = .ok ⟨"Rule", 7, "", .multiSource p⟩ ∧
        p.sources.keys = ["first", "second"] ∧
        p.partialSinks.toList = [⟨"X:Y", "first"⟩, ⟨"X:Y", "second"⟩, ⟨"Y", "first"⟩,
          ⟨"Y", "second"⟩] ∧
        ofJson (toJson ⟨"Rule", 7, "", .multiSource p⟩) =
          .ok ⟨"Rule", 7, "", .multiSource p⟩) ∧
      Json.IsRule (sampleObject [("sources", .array [.string "B"]),
        ("sinks", .array [.string "X"]),
        ("transforms", .array [.string "U", .string "SourceAsTransform[A]"])]) ∧
      ¬Json.IsRule (sampleObject [("sources", .array [.string "B"]),
        ("sinks", .array [.string "X"]), ("effect_sources", .array [.string "E"]),
        ("transforms", .array [.string "U"])]) ∧
      ¬Json.IsRule (sampleObject [("sources", .array [.string "B:C"]),
        ("sinks", .array [.string "X"])]) := by
  refine ⟨⟨(grammar_and_round_trip _).1.1 ⟨_, rfl⟩, _, rfl, rfl, rfl, ?_⟩,
    (grammar_and_round_trip _).1.1 ⟨_, rfl⟩, fun h => ?_, fun h => ?_⟩
  · exact ((grammar_and_round_trip sampleLabelsJson).2 _).2 rfl
  · obtain ⟨r, hr⟩ := (grammar_and_round_trip _).1.2 h
    cases hr
  · obtain ⟨r, hr⟩ := (grammar_and_round_trip _).1.2 h
    cases hr

end Rule

end TaintFlow
