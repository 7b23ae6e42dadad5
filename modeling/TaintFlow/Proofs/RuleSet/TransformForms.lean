import TaintFlow.Proofs.Kind.Json
import TaintFlow.Proofs.RuleSet.Matching

/-!
# The two written forms of transforms

Rules write their transforms as a JSON array with one text for each, kinds as one text in which
colons stand between them.  Both are read transform by transform, and a text that is read as a
transform may have a colon in it unless it was cut at colons before.  So the forms denote the same
lists except where the name of a declared transform has a colon: such a name is kept by the array
and cut in the text (`Transform.listOfText_listToText_iff`).

A rule that was read is found for kinds that were read when its transforms can be written on a kind.
For the others there are no such kinds (`RuleSet.exists_read_flow_iff`).
-/

namespace TaintFlow

/-! ## Lists of transforms -/

namespace Transform

variable {l : List Transform}

/-- What keeps a proper transform from being read among others is a colon in a declared name. -/
theorem readable_iff_names {t : Transform} (proper : t.Proper) :
    t.Readable ↔ ∀ name, named name = t → ':' ∉ name.toList := by
  rw [readable_iff]
  cases t with
  | named name =>
      constructor
      · rintro ⟨_, colon⟩ _ same
        cases same
        exact colon
      · intro names
        exact ⟨proper, names name rfl⟩
  | source base l g =>
      obtain ⟨name, same, isName⟩ := exists_name_of_proper_source proper
      refine iff_of_true ⟨proper, ?_⟩ fun _ clash => by cases clash
      rw [same, toText_ofKind_named]
      simpa using isName.2.1

theorem readable_iff_forall_names (proper : ∀ t ∈ l, t.Proper) :
    (∀ t ∈ l, t.Readable) ↔ ∀ name, named name ∈ l → ':' ∉ name.toList := by
  constructor
  · intro readable name hname
    exact (readable_iff_names (proper _ hname)).1 (readable _ hname) name rfl
  · intro names t ht
    refine (readable_iff_names (proper t ht)).2 ?_
    rintro name rfl
    exact names name ht

/-- The text of transforms that were read from an array is read back unless a name has a colon. -/
theorem listOfText_listToText_iff {v : Json} (read : listOfJson v = .ok l) :
    listOfText (listToText l) = .ok l ↔ ∀ name, named name ∈ l → ':' ∉ name.toList := by
  obtain ⟨nonempty, proper, _⟩ := listOfJson_eq_ok_iff.1 read
  rw [listOfText_eq_ok_iff, ← readable_iff_forall_names proper]
  constructor
  · rintro ⟨_, readable, _⟩
    exact readable
  · intro readable
    exact ⟨nonempty, readable, rfl⟩

end Transform

/-! ## Kinds that were read -/

theorem Kind.Readable.transforms {k : Kind} (h : k.Readable) : ∀ t ∈ k.transforms, t.Readable := by
  cases h with
  | partialSink | triggeredSink => exact List.forall_mem_nil _
  | named _ localTransforms globalTransforms =>
      exact List.forall_mem_append.2 ⟨localTransforms, globalTransforms⟩

/-- Every kind in a set that was read has the name of a kind and no transforms. -/
theorem KindSet.IsListed.exists_name {kinds : KindSet} {v : Json} {field : String}
    (listed : kinds.IsListed v field) {k : Kind} (hk : k ∈ kinds) :
    ∃ name, Kind.IsName name ∧ k = .named name := by
  obtain ⟨names, _, isName, members⟩ := listed
  obtain ⟨name, hname, same⟩ := (members k).1 hk
  exact ⟨name, isName name hname, same⟩

namespace RuleSet

variable {v : Json} {set : RuleSet} {r : Rule} {p : SourceSinkPattern}

/-- The pattern of a source-sink rule in a set that was read was described by an object. -/
theorem exists_describedBy_of_loaded (loaded : (ofJson v).value = .ok set) (held : r ∈ set.toList)
    (h : r.pattern = .sourceSink p) : ∃ item, p.DescribedBy item := by
  obtain ⟨l, built, items⟩ := exists_items_of_loaded loaded
  have kept := built.mem_toList_iff.1 held
  obtain ⟨item, read⟩ := items r (Rule.mem_of_mem_kept kept)
  have described := (Rule.ofJson_eq_ok_iff.1 read).pattern
  rw [h] at described
  exact ⟨item, described⟩

/-- A rule that was read is found for kinds that were read exactly when its transforms are readable.
-/
theorem exists_read_flow_iff (loaded : (ofJson v).value = .ok set) (held : r ∈ set.toList)
    (h : r.pattern = .sourceSink p) :
    (∃ source sink, (∃ item, Kind.ofJson item = .ok source) ∧
        (∃ item, Kind.ofJson item = .ok sink) ∧ r ∈ (set.rules source sink).value) ↔
      ∀ t ∈ p.transforms, t.Readable := by
  obtain ⟨l, built, plain, _⟩ := built_of_loaded loaded
  have kept := built.mem_toList_iff.1 held
  simp only [built.mem_rules_iff plain, kept, true_and]
  constructor
  · rintro ⟨source, sink, ⟨_, readSource⟩, ⟨_, readSink⟩, fires⟩ t ht
    rcases List.mem_append.1 ((Rule.mem_transforms_of_firesOn h fires).2 ht) with ht | ht
    · exact (Kind.readable_of_ofJson readSource).transforms t ht
    · exact (Kind.readable_of_ofJson readSink).transforms t ht
  · intro readable
    obtain ⟨item, described⟩ := exists_describedBy_of_loaded loaded held h
    obtain ⟨source, hsource⟩ := SortedSet.isEmpty_eq_false_iff.1 p.has_sources
    obtain ⟨sink, hsink⟩ := SortedSet.isEmpty_eq_false_iff.1 p.has_sinks
    have fires := Rule.firesOn_of_mem (plain r (Rule.mem_of_mem_kept kept)) h hsource hsink
    obtain ⟨sourceName, isSource, rfl⟩ := described.sources.exists_name hsource
    obtain ⟨sinkName, isSink, rfl⟩ := described.sinks.exists_name hsink
    have readSource : Kind.Readable (.named sourceName) :=
      .named isSource (List.forall_mem_nil _) (List.forall_mem_nil _)
    have readSink : Kind.Readable ((Kind.named sinkName).withTransforms p.transforms []) :=
      .named isSink readable (List.forall_mem_nil _)
    exact ⟨_, _, ⟨_, Kind.ofJson_toJson readSource⟩, ⟨_, Kind.ofJson_toJson readSink⟩, fires⟩

/-! ## The two forms -/

/-- Transforms that were read from an array are read back from the array that they print as.  From
the text that they print as they are read back exactly when no name among them has a colon, and a
source-sink rule that was read with these transforms is found for kinds that were read exactly
then. -/
theorem transform_forms_agree_iff {v : Json} {l : List Transform}
    (read : Transform.listOfJson v = .ok l) :
    Transform.listOfJson (Transform.listToJson l) = .ok l ∧
      (Transform.listOfText (Transform.listToText l) = .ok l ↔
        ∀ name, Transform.named name ∈ l → ':' ∉ name.toList) ∧
      ∀ rules set, (ofJson rules).value = .ok set → ∀ r ∈ set.toList, ∀ p,
        r.pattern = .sourceSink p → p.transforms = l →
          ((∃ source sink, (∃ item, Kind.ofJson item = .ok source) ∧
              (∃ item, Kind.ofJson item = .ok sink) ∧ r ∈ (set.rules source sink).value) ↔
            ∀ name, Transform.named name ∈ l → ':' ∉ name.toList) := by
  obtain ⟨nonempty, proper, _⟩ := Transform.listOfJson_eq_ok_iff.1 read
  refine ⟨Transform.listOfJson_eq_ok_iff.2 ⟨nonempty, proper, rfl⟩,
    Transform.listOfText_listToText_iff read, fun rules set loaded r held p h same => ?_⟩
  rw [exists_read_flow_iff loaded held h, same, Transform.readable_iff_forall_names proper]

/-- Without colons in the names the text is cut between the elements of the array, and a rule with
these transforms is found. -/
theorem transform_forms_agree_iff_samples :
    Transform.listOfJson (.array [.string "T", .string "U"]) = .ok [.named "T", .named "U"] ∧
      Transform.listToText [.named "T", .named "U"] = "T:U" ∧
      Transform.listOfText "T:U" = .ok [.named "T", .named "U"] ∧
      (ofJson (.array (samples.map Rule.toJson))).value = .ok (ofList samples).value ∧
      sampleTransforms ∈ (ofList samples).value.toList ∧
      ∃ source sink, (∃ item, Kind.ofJson item = .ok source) ∧
        (∃ item, Kind.ofJson item = .ok sink) ∧
        sampleTransforms ∈ ((ofList samples).value.rules source sink).value := by
  have read : Transform.listOfJson (.array [.string "T", .string "U"]) =
      .ok [.named "T", .named "U"] := rfl
  have held : sampleTransforms ∈ (ofList samples).value.toList := by decide
  have names : ∀ name, Transform.named name ∈ [Transform.named "T", .named "U"] →
      ':' ∉ name.toList := by
    intro name hname
    rcases List.mem_pair.1 hname with same | same
    · cases same
      decide
    · cases same
      decide
  obtain ⟨_, text, rule⟩ := transform_forms_agree_iff read
  exact ⟨read, rfl, text.2 names, value_ofJson_samples, held,
    (rule _ _ value_ofJson_samples _ held _ rfl rfl).2 names⟩

/-- A source-sink rule with a colon in the name of its transform. -/
def sampleColon : Rule where
  name := "Colon"
  code := 1
  description := ""
  pattern := .sourceSink
    ⟨.ofList [.named "In"], .ofList [.named "Out"], [.named "T:U"], by decide, by decide⟩

/-- A name with a colon is read from an array, and from its text two transforms are read.  A rule
with this transform is read, and no kinds that are read fulfil it. -/
theorem colon_in_name_not_reread :
    Transform.listOfJson (.array [.string "T:U"]) = .ok [.named "T:U"] ∧
      Transform.listOfText (Transform.listToText [.named "T:U"]) = .ok [.named "T", .named "U"] ∧
      Transform.listOfText (Transform.listToText [.named "T:U"]) ≠ .ok [.named "T:U"] ∧
      (ofJson (.array [sampleColon.toJson])).value = .ok (ofList [sampleColon]).value ∧
      ¬∃ source sink, (∃ item, Kind.ofJson item = .ok source) ∧
        (∃ item, Kind.ofJson item = .ok sink) ∧
        sampleColon ∈ ((ofList [sampleColon]).value.rules source sink).value := by
  have read : Transform.listOfJson (.array [.string "T:U"]) = .ok [.named "T:U"] := rfl
  have loaded : (ofJson (.array [sampleColon.toJson])).value = .ok (ofList [sampleColon]).value :=
    rfl
  refine ⟨read, rfl, fun same => ?_, loaded, fun found => ?_⟩
  · have names := (Transform.listOfText_listToText_iff read).1 same
    exact absurd (names "T:U" (List.mem_singleton_self _)) (by decide)
  · have readable := (exists_read_flow_iff loaded (by decide) rfl).1 found
    exact absurd (readable (.named "T:U") (List.mem_singleton_self _)) (by decide)

end RuleSet

end TaintFlow
