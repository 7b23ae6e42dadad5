import TaintFlow.Kind.Json
import TaintFlow.Proofs.Json.Reader
import TaintFlow.Proofs.Kind.Text

/-!
# Kinds that are read back from JSON

The JSON form of a kind keeps its name, its label and its rule code apart, so partial and triggered
sinks are always read back.  The parts of a kind with transforms are texts, and so is the name of a
named kind, and not all of them can be read.  `Kind.Readable` says which kinds are read back from
their JSON form, and `readable_iff_json_round_trip` that these are all, and that the reader returns
no others.
-/

namespace TaintFlow

/-! ## Lists of transforms -/

/-- Exactly the lists of proper transforms are read, each from its JSON form, the empty list never.
-/
theorem Transform.listOfJson_eq_ok_iff {v : Json} {l : List Transform} :
    listOfJson v = .ok l ↔ l ≠ [] ∧ (∀ t ∈ l, t.Proper) ∧ v = listToJson l := by
  have item : ∀ {item : Json} {t : Transform}, (do ofText (← item.text)) = Except.ok t ↔
      t.Proper ∧ item = .string t.toText := by
    intro item t
    simp only [Checked.bind_eq_ok_iff, Json.text_eq_ok_iff, ofText_eq_ok_iff]
    constructor
    · rintro ⟨_, rfl, proper, rfl⟩
      exact ⟨proper, rfl⟩
    · rintro ⟨proper, rfl⟩
      exact ⟨t.toText, rfl, proper, rfl⟩
  have items := @Checked.mapM_eq_ok_iff_of_inverse _ _ _ _ _ _ item
  unfold listOfJson
  split
  next first rest =>
    rw [items]
    constructor
    · rintro ⟨proper, same⟩
      refine ⟨?_, proper, congrArg Json.array same⟩
      rintro rfl
      cases same
    · rintro ⟨_, proper, same⟩
      injection same with same
      exact ⟨proper, same⟩
  next other =>
    simp only [reduceCtorEq, false_iff, not_and]
    rintro nonempty _ rfl
    cases l with
    | nil => exact nonempty rfl
    | cons t rest => exact other _ _ rfl

namespace Kind

/-! ## Readable kinds -/

/-- A partial or triggered sink without transforms, or a base with the name of a kind and readable
transforms, of which there may be none. -/
inductive Readable : Kind → Prop where
  | partialSink (sink : PartialSink) : Readable (ofPartial sink)
  | triggeredSink (sink : PartialSink) (rule : Int64) : Readable (ofBase (.triggeredSink sink rule))
  | named {name : String} (isName : IsName name) {l g : List Transform}
      (localTransforms : ∀ t ∈ l, t.Readable) (globalTransforms : ∀ t ∈ g, t.Readable) :
      Readable ⟨.named name, l, g⟩

/-! ## The parts of a kind with transforms -/

/-- The transforms that a member holds are readable, and without transforms it is left out. -/
theorem transformsOfField_eq_ok_iff {v : Json} {field : String} {l : List Transform} :
    transformsOfField v field = .ok l ↔
      (∀ t ∈ l, t.Readable) ∧ v.get? field = transformsToJson? l := by
  rw [transformsOfField]
  cases hfield : v.get? field with
  | none =>
      cases l with
      | nil => simp [transformsToJson?]
      | cons t rest => simp [transformsToJson?]
  | some found =>
      dsimp only
      rw [Checked.bind_eq_ok_iff]
      simp only [Json.textField_eq_ok_iff, hfield, Transform.listOfText_eq_ok_iff]
      constructor
      · rintro ⟨text, same, nonempty, readable, rfl⟩
        refine ⟨readable, ?_⟩
        rw [transformsToJson?, if_neg (by simpa using nonempty), same]
      · rintro ⟨readable, same⟩
        cases l with
        | nil => cases same
        | cons t rest => exact ⟨_, same, List.cons_ne_nil t rest, readable, rfl⟩

/-- The object that holds the texts of a base and of its transforms. -/
def partsToJson (k : Kind) : Json :=
  .object ([("base", .string k.base.toText)] ++
    Json.optionalMember "global" (transformsToJson? k.globalTransforms) ++
    Json.optionalMember "local" (transformsToJson? k.localTransforms))

theorem onlyFields_partsToJson (k : Kind) :
    k.partsToJson.onlyFields ["local", "global", "base"] = .ok () := by
  rw [partsToJson]
  cases transformsToJson? k.globalTransforms <;> cases transformsToJson? k.localTransforms <;> rfl

theorem get?_partsToJson (k : Kind) :
    k.partsToJson.get? "base" = some (.string k.base.toText) ∧
      k.partsToJson.get? "local" = transformsToJson? k.localTransforms ∧
      k.partsToJson.get? "global" = transformsToJson? k.globalTransforms := by
  rw [partsToJson]
  cases transformsToJson? k.globalTransforms <;> cases transformsToJson? k.localTransforms <;>
    exact ⟨rfl, rfl, rfl⟩

/-! ## Reading and printing -/

/-- The reader returns readable kinds only. -/
theorem readable_of_ofJson {v : Json} {k : Kind} (h : ofJson v = .ok k) : k.Readable := by
  obtain ⟨_, _, h⟩ := Checked.bind_eq_ok_iff.1 h
  split at h
  next => cases h
  next parts _ =>
    split at h
    next =>
      obtain ⟨_, _, h⟩ := Checked.bind_eq_ok_iff.1 h
      obtain ⟨l, hl, h⟩ := Checked.bind_eq_ok_iff.1 h
      obtain ⟨g, hg, h⟩ := Checked.bind_eq_ok_iff.1 h
      obtain ⟨name, _, h⟩ := Checked.bind_eq_ok_iff.1 h
      obtain ⟨base, hbase, h⟩ := Checked.bind_eq_ok_iff.1 h
      obtain ⟨isName, rfl⟩ := ofText_eq_ok_iff.1 hbase
      cases h
      exact .named isName (transformsOfField_eq_ok_iff.1 hl).1 (transformsOfField_eq_ok_iff.1 hg).1
    next =>
      obtain ⟨name, _, h⟩ := Checked.bind_eq_ok_iff.1 h
      split at h
      next =>
        obtain ⟨isName, rfl⟩ := ofText_eq_ok_iff.1 h
        exact .named isName (List.forall_mem_nil _) (List.forall_mem_nil _)
      next =>
        obtain ⟨label, _, h⟩ := Checked.bind_eq_ok_iff.1 h
        split at h
        next =>
          cases h
          exact .partialSink ⟨name, label⟩
        next =>
          obtain ⟨rule, _, h⟩ := Checked.bind_eq_ok_iff.1 h
          cases h
          exact .triggeredSink ⟨name, label⟩ rule

/-- A kind with transforms is read from its parts. -/
theorem ofJson_toJson_of_isTransformed {k : Kind} (h : k.isTransformed = true) :
    ofJson k.toJson = (do
      let l ← transformsOfField k.partsToJson "local"
      let g ← transformsOfField k.partsToJson "global"
      let base ← ofText k.base.toText
      return base.withTransforms l g) := by
  have base : k.partsToJson.textField "base" = .ok k.base.toText :=
    Json.textField_eq_ok_iff.2 (get?_partsToJson k).1
  have written : k.toJson = .object [("kind", k.partsToJson)] := by
    rw [toJson, if_pos h]
    rfl
  rw [written]
  show (k.partsToJson.onlyFields ["local", "global", "base"] >>= fun _ => _) = _
  rw [onlyFields_partsToJson, Checked.bind_ok, base]
  rfl

/-- A readable kind is read back from its JSON form. -/
theorem ofJson_toJson {k : Kind} (h : k.Readable) : ofJson k.toJson = .ok k := by
  cases h with
  | partialSink sink => rfl
  | triggeredSink sink rule =>
      have code : (toJson (ofBase (.triggeredSink sink rule))).integerField "triggered_rule" =
          .ok rule := Json.integerField_eq_ok_iff.2 rfl
      show (Json.integerField _ "triggered_rule" >>= fun _ => _) = _
      rw [code]
      rfl
  | @named name isName l g localTransforms globalTransforms =>
      have base : ofText name = .ok (named name) := ofText_eq_ok_iff.2 ⟨isName, rfl⟩
      cases transformed : isTransformed ⟨.named name, l, g⟩ with
      | false =>
          obtain ⟨hl, hg⟩ := isTransformed_eq_false_iff.1 transformed
          cases hl
          cases hg
          exact base
      | true =>
          obtain ⟨_, hl, hg⟩ := get?_partsToJson ⟨.named name, l, g⟩
          rw [ofJson_toJson_of_isTransformed transformed,
            transformsOfField_eq_ok_iff.2 ⟨localTransforms, hl⟩, Checked.bind_ok,
            transformsOfField_eq_ok_iff.2 ⟨globalTransforms, hg⟩, Checked.bind_ok]
          show (ofText name >>= fun _ => _) = _
          rw [base]
          rfl

/-- Exactly the readable kinds are read back from their JSON form. -/
theorem ofJson_toJson_iff (k : Kind) : ofJson k.toJson = .ok k ↔ k.Readable :=
  ⟨readable_of_ofJson, ofJson_toJson⟩

end Kind

/-! ## The round trip -/

/-- The kinds that can be printed as JSON and read back are exactly the readable ones, and whatever
is read is readable. -/
theorem readable_iff_json_round_trip :
    (∀ k : Kind, Kind.ofJson k.toJson = .ok k ↔ k.Readable) ∧
      ∀ v k, Kind.ofJson v = .ok k → k.Readable :=
  ⟨Kind.ofJson_toJson_iff, fun _ _ => Kind.readable_of_ofJson⟩

/-- A sink with a local transform and a recorded source. -/
def sampleKind : Kind := ⟨.named "Sink", [.named "T"], [.ofKind (.named "Input")]⟩

/-- The JSON form of `sampleKind`, with the members in another order. -/
def sampleKindJson : Json :=
  .object [("kind", .object [("local", .string "T"), ("base", .string "Sink"),
    ("global", .string "SourceAsTransform[Input]")])]

/-- A transform whose name looks like a recorded source is read as that source, and a recorded
partial sink is not read at all. -/
theorem readable_iff_json_round_trip_samples :
    Kind.ofJson sampleKindJson = .ok sampleKind ∧ sampleKind.Readable ∧
      Kind.ofJson sampleKind.toJson = .ok sampleKind ∧
      Kind.ofJson (Kind.toJson ⟨.named "Sink", [.named "T"],
        [.named "SourceAsTransform[Input]"]⟩) = .ok sampleKind ∧
      Kind.ofJson (Kind.toJson ⟨.named "Sink", [], [.ofKind (.ofPartial ⟨"P", "a"⟩)]⟩) ≠
        .ok ⟨.named "Sink", [], [.ofKind (.ofPartial ⟨"P", "a"⟩)]⟩ := by
  obtain ⟨roundTrip, readable⟩ := readable_iff_json_round_trip
  have read : Kind.ofJson sampleKindJson = .ok sampleKind := rfl
  refine ⟨read, readable _ _ read, (roundTrip _).2 (readable _ _ read), rfl, fun h => ?_⟩
  cases (roundTrip _).1 h with
  | named _ _ source => exact source _ (List.mem_singleton_self _)

end TaintFlow
