import TaintFlow.Proofs.Kind.Distinct
import TaintFlow.RuleSet.Coverage
import TaintFlow.Taint.Json

/-!
# Kinds in exports

Taint and coverage are exported with the texts of their kinds.  Kinds with plain names are known
from their texts, so the kinds of each frame are known from the export of taint, and a coverage as a
whole is known from its export.  Main statement: `distinct_texts_of_plainNames`.
-/

namespace TaintFlow

/-! ## Sets and maps that print alike -/

theorem SortedSet.eq_of_map_eq {α β : Type} [Ord α] {print : α → β} {s t : SortedSet α}
    (step : ∀ a ∈ s, ∀ b ∈ t, print a = print b → a = b)
    (same : s.toList.map print = t.toList.map print) : s = t := by
  have lists := TaintFlow.eq_of_map_eq step same
  cases s
  cases t
  cases lists
  rfl

theorem SortedMap.eq_of_map_eq {α β γ : Type} [Ord α] {print : α × β → γ} {m n : SortedMap α β}
    (step : ∀ e ∈ m.entries, ∀ e' ∈ n.entries, print e = print e' → e = e')
    (same : m.entries.map print = n.entries.map print) : m = n := by
  have lists := TaintFlow.eq_of_map_eq step same
  cases m
  cases n
  cases lists
  rfl

/-- Sets of kinds with plain names that list the same texts are the same. -/
theorem KindSet.eq_of_texts_eq {kinds kinds' : KindSet} (h : ∀ k ∈ kinds, k.PlainNames)
    (h' : ∀ k ∈ kinds', k.PlainNames)
    (same : (kinds.toList.map fun k => Json.string k.toText) =
      kinds'.toList.map fun k => Json.string k.toText) : kinds = kinds' :=
  SortedSet.eq_of_map_eq (fun k hk k' hk' same =>
    Kind.eq_of_toText_eq (h k hk) (h' k' hk') (Json.string.inj same)) same

/-! ## Taint -/

namespace Taint

/-- All kinds of all frames have plain names. -/
def PlainNames (t : Taint) : Prop := ∀ kinds ∈ t.frames.values, ∀ k ∈ kinds.keys, k.PlainNames

instance : DecidablePred PlainNames := fun t =>
  inferInstanceAs (Decidable (∀ kinds ∈ t.frames.values, _))

theorem get?_kindToJson (withOrigins : Bool) (kind : Kind) (origins : SortedSet String) :
    (kindToJson withOrigins kind origins).get? "kind" = some (.string kind.toText) := rfl

/-- Frames that print alike have the same kinds, whether or not their origins are printed. -/
theorem keys_eq_of_frameToJson_eq {mode : OriginExport} {frame frame' : Frame}
    {kinds kinds' : KindOrigins} (h : ∀ k ∈ kinds.keys, k.PlainNames)
    (h' : ∀ k ∈ kinds'.keys, k.PlainNames)
    (same : frameToJson mode frame kinds = frameToJson mode frame' kinds') :
    kinds.keys = kinds'.keys := by
  have listed : (frameToJson mode frame kinds).get? "kinds" =
      (frameToJson mode frame' kinds').get? "kinds" := congrArg (Json.get? · "kinds") same
  refine map_eq_map_of_imp (fun e he e' he' same => ?_) (Json.array.inj (Option.some.inj listed))
  have text := congrArg (Json.get? · "kind") same
  simp only [get?_kindToJson, Option.some.injEq, Json.string.injEq] at text
  exact Kind.eq_of_toText_eq (h e.1 (List.mem_map_of_mem he)) (h' e'.1 (List.mem_map_of_mem he'))
    text

/-- The kinds of each frame are known from the export. -/
theorem keys_eq_of_toJson_eq {mode : OriginExport} {t t' : Taint} (h : t.PlainNames)
    (h' : t'.PlainNames) (same : t.toJson mode = t'.toJson mode) :
    t.frames.values.map SortedMap.keys = t'.frames.values.map SortedMap.keys := by
  rw [SortedMap.values, SortedMap.values, List.map_map, List.map_map]
  refine map_eq_map_of_imp (fun e he e' he' same => ?_) (Json.array.inj same)
  exact keys_eq_of_frameToJson_eq (h e.2 (List.mem_map_of_mem he))
    (h' e'.2 (List.mem_map_of_mem he')) same

end Taint

/-! ## Coverage -/

/-- All used kinds and transforms have plain names. -/
structure Cover.PlainNames (c : Cover) : Prop where
  sources : ∀ k ∈ c.sources, k.PlainNames
  sinks : ∀ k ∈ c.sinks, k.PlainNames
  transforms : ∀ t ∈ c.transforms, t.PlainNames

instance : DecidablePred Cover.PlainNames := fun c =>
  decidable_of_iff ((∀ k ∈ c.sources, k.PlainNames) ∧ (∀ k ∈ c.sinks, k.PlainNames) ∧
      ∀ t ∈ c.transforms, t.PlainNames)
    ⟨fun h => ⟨h.1, h.2.1, h.2.2⟩, fun h => ⟨h.sources, h.sinks, h.transforms⟩⟩

/-- A cover has a member for its transforms where there are some. -/
theorem TransformSet.eq_of_member_eq {transforms transforms' : TransformSet}
    (h : ∀ t ∈ transforms, t.PlainNames) (h' : ∀ t ∈ transforms', t.PlainNames)
    (same : (if transforms.isEmpty then [] else
        [("transforms", Transform.listToJson transforms.toList)]) =
      if transforms'.isEmpty then [] else
        [("transforms", Transform.listToJson transforms'.toList)]) : transforms = transforms' := by
  have texts : (transforms.toList.map fun t => Json.string t.toText) =
      transforms'.toList.map fun t => Json.string t.toText := by
    split at same
    next none =>
      split at same
      next none' => rw [List.isEmpty_iff.1 none, List.isEmpty_iff.1 none']
      next => cases same
    next =>
      split at same
      next => cases same
      next =>
        exact Json.array.inj (congrArg Prod.snd (List.singleton_inj.1 same))
  refine SortedSet.eq_of_map_eq (fun t ht t' ht' same => ?_) texts
  exact Transform.eq_of_toText_eq (h t ht).readable (h' t' ht').readable (Json.string.inj same)

theorem Cover.eq_of_toJson_eq {c c' : Cover} {code code' : Int64} (h : c.PlainNames)
    (h' : c'.PlainNames) (same : c.toJson code = c'.toJson code') : code = code' ∧ c = c' := by
  have members := Json.object.inj same
  have cases := Json.object.inj (congrArg Prod.snd (List.cons.inj members).1)
  have code := congrArg Prod.snd (List.cons.inj (List.cons.inj members).2).1
  obtain ⟨sinks, cases⟩ := List.cons.inj cases
  obtain ⟨sources, transforms⟩ := List.cons.inj cases
  have sinks := KindSet.eq_of_texts_eq h.sinks h'.sinks (Json.array.inj (congrArg Prod.snd sinks))
  have sources :=
    KindSet.eq_of_texts_eq h.sources h'.sources (Json.array.inj (congrArg Prod.snd sources))
  have transforms := TransformSet.eq_of_member_eq h.transforms h'.transforms transforms
  refine ⟨Int64.toInt_inj.1 (Json.integer.inj code), ?_⟩
  cases c
  cases c'
  cases sinks
  cases sources
  cases transforms
  rfl

namespace Coverage

/-- All covers have plain names. -/
def PlainNames (c : Coverage) : Prop := ∀ cover ∈ c.covered.values, cover.PlainNames

instance : DecidablePred PlainNames := fun c =>
  inferInstanceAs (Decidable (∀ cover ∈ c.covered.values, _))

theorem eq_of_toJson_eq {c c' : Coverage} (h : c.PlainNames) (h' : c'.PlainNames)
    (same : c.toJson = c'.toJson) : c = c' := by
  have inside := Json.object.inj (congrArg Prod.snd (List.cons.inj (Json.object.inj same)).1)
  obtain ⟨covered, rest⟩ := List.cons.inj inside
  have covered : c.covered = c'.covered := by
    refine SortedMap.eq_of_map_eq (fun e he e' he' same => ?_)
      (Json.array.inj (congrArg Prod.snd covered))
    obtain ⟨code, cover⟩ := Cover.eq_of_toJson_eq (h e.2 (List.mem_map_of_mem he))
      (h' e'.2 (List.mem_map_of_mem he')) same
    exact Prod.ext code cover
  have uncovered : c.uncovered = c'.uncovered :=
    SortedSet.eq_of_map_eq (fun _ _ _ _ same => Int64.toInt_inj.1 (Json.integer.inj same))
      (Json.array.inj (congrArg Prod.snd (List.cons.inj rest).1))
  cases c
  cases c'
  cases covered
  cases uncovered
  rfl

end Coverage

/-! ## No two kinds alike -/

/-- Kinds with plain names that print alike are the same.  So taints that are exported alike have
the same kinds on their frames, and coverages that are exported alike are the same. -/
theorem distinct_texts_of_plainNames :
    (∀ k k' : Kind, k.PlainNames → k'.PlainNames → k.toText = k'.toText → k = k') ∧
      (∀ (mode : OriginExport) (t t' : Taint), t.PlainNames → t'.PlainNames →
        t.toJson mode = t'.toJson mode →
          t.frames.values.map SortedMap.keys = t'.frames.values.map SortedMap.keys) ∧
      ∀ c c' : Coverage, c.PlainNames → c'.PlainNames → c.toJson = c'.toJson → c = c' :=
  ⟨fun _ _ => Kind.eq_of_toText_eq, fun _ _ _ => Taint.keys_eq_of_toJson_eq,
    fun _ _ => Coverage.eq_of_toJson_eq⟩

/-- A partial sink behind the global transforms `T` and `U`. -/
def sampleSink : Kind := ⟨.partialSink ⟨"P", "a"⟩, [], [.named "T", .named "U"]⟩

/-- A rule is covered, and others are not. -/
def sampleCoverage (uncovered : List Int64) : Coverage where
  covered := .ofList [(1, ⟨.ofList [.named "A"], .ofList [sampleSink], .ofList [.named "T"]⟩)]
  uncovered := .ofList uncovered

/-- The triggered sink of another rule prints otherwise, and taints have the same kinds when they
differ only in origins that are not exported.  A name behind a transform named `Partial` prints like
a sink. -/
theorem distinct_texts_of_plainNames_samples :
    (Kind.ofPartial ⟨"P", "a"⟩).withTransforms [] [.named "T", .named "U"] = sampleSink ∧
      Kind.toText (.ofBase (.triggeredSink ⟨"P", "a"⟩ 1)) ≠
        Kind.toText (.ofBase (.triggeredSink ⟨"P", "a"⟩ (-1))) ∧
      (Taint.ofFrame .default sampleSink ["m"]).frames.values.map SortedMap.keys =
        (Taint.ofFrame .default sampleSink ["n"]).frames.values.map SortedMap.keys ∧
      sampleCoverage [2, 3] = sampleCoverage [3, 2] ∧
      Kind.toText ⟨.named "a", [], [.named "Partial", .named "P"]⟩ =
        Kind.toText (.ofPartial ⟨"P", "a"⟩) := by
  obtain ⟨kinds, taints, coverages⟩ := distinct_texts_of_plainNames
  refine ⟨kinds _ _ (by decide) (by decide) (by decide), fun same => ?_, ?_, ?_, by decide⟩
  · exact absurd (kinds _ _ (by decide) (by decide) same) (by decide)
  · exact taints .onlyOnLeaves _ _ (by decide) (by decide) rfl
  · exact coverages _ _ (by decide) (by decide) rfl

end TaintFlow
