import TaintFlow.Proofs.Checked
import TaintFlow.Proofs.Frame.Propagation
import TaintFlow.Proofs.Location.Printable
import TaintFlow.Proofs.Rule.Reader
import TaintFlow.Proofs.RuleSet.Kept
import TaintFlow.Frame.Json

/-!
# Readers break no contract

A reader that is given a wrong value refuses it with a validation failure (`Checked.OnlyRefuses`).
It never fails otherwise, although it calls functions that have contracts: those which make a
pattern, a frame or an element from its parts.  What is read before such a call meets the contract.

`readers_only_refuse` says so of the readers of configurations.  It also says of the two contracts
that the types of this library leave no room for, those of triggered sinks and of value-of elements,
that the functions which have them return what the readers use.
-/

namespace TaintFlow

/-! ## Operations that only refuse -/

namespace Checked

variable {α β : Type}

/-- An operation fails only because a value does not have the expected form. -/
structure OnlyRefuses (x : Checked α) : Prop where
  isValidation (e : Failure) : x = .error e → e.isValidation = true

namespace OnlyRefuses

theorem ok {a : α} : OnlyRefuses (.ok a) := ⟨nofun⟩

theorem validation {value : String} {field : Option String} {expected : Expectation} :
    OnlyRefuses (.error (.validation value field expected) : Checked α) := by
  constructor
  rintro _ ⟨⟩
  rfl

theorem of_eq_ok {x : Checked α} {a : α} (h : x = .ok a) : x.OnlyRefuses := by
  rw [h]
  exact ok

/-- Two steps only refuse when the first one does, and the second one with what the first one
returns. -/
theorem bind {x : Checked α} {f : α → Checked β} (first : x.OnlyRefuses)
    (second : ∀ a, x = .ok a → (f a).OnlyRefuses) : OnlyRefuses (x >>= f) := by
  cases x with
  | error e =>
      constructor
      rintro _ ⟨⟩
      exact first.isValidation e rfl
  | ok a => exact second a rfl

/-- After a refusal nothing follows. -/
theorem validation_bind {value : String} {field : Option String} {expected : Expectation}
    {f : α → Checked β} :
    OnlyRefuses ((.error (.validation value field expected) : Checked α) >>= f) := by
  rw [Checked.bind_error]
  exact validation

theorem mapM {f : α → Checked β} {l : List α} (step : ∀ a ∈ l, (f a).OnlyRefuses) :
    (l.mapM f).OnlyRefuses := by
  induction l with
  | nil => exact of_eq_ok List.mapM_nil
  | cons a l ih =>
      obtain ⟨first, rest⟩ := List.forall_mem_cons.1 step
      rw [List.mapM_cons]
      exact first.bind fun b _ => (ih rest).bind fun bs _ => ok

end OnlyRefuses

end Checked

open Checked (OnlyRefuses)

/-! ## Members of JSON values -/

namespace Json

variable (v : Json) (field : String)

theorem onlyRefuses_refuse {α : Type} {v : Json} {field : Option String}
    {expected : Expectation} : (v.refuse field expected : Checked α).OnlyRefuses := .validation

theorem onlyRefuses_members : v.members.OnlyRefuses := by
  cases v with
  | object members => exact .ok
  | null | bool | integer | point | string | array => exact onlyRefuses_refuse

theorem onlyRefuses_text : v.text.OnlyRefuses := by
  cases v with
  | string s => exact .ok
  | null | bool | integer | point | array | object => exact onlyRefuses_refuse

theorem onlyRefuses_itemsOrNull : v.itemsOrNull.OnlyRefuses := by
  cases v with
  | null => exact .ok
  | array items => exact .ok
  | bool | integer | point | string | object => exact onlyRefuses_refuse

theorem onlyRefuses_member (expected : Expectation) : (v.member field expected).OnlyRefuses := by
  refine (onlyRefuses_members v).bind fun members _ => ?_
  split
  next => exact .ok
  next => exact onlyRefuses_refuse

theorem onlyRefuses_textField : (v.textField field).OnlyRefuses := by
  refine (onlyRefuses_member v field _).bind fun found _ => ?_
  split
  next => exact .ok
  next => exact onlyRefuses_refuse

theorem onlyRefuses_integerField : (v.integerField field).OnlyRefuses := by
  refine (onlyRefuses_member v field _).bind fun found _ => ?_
  split
  next =>
    split
    next => exact .ok
    next => exact onlyRefuses_refuse
  next => exact onlyRefuses_refuse

theorem onlyRefuses_objectField : (v.objectField field).OnlyRefuses := by
  refine (onlyRefuses_member v field _).bind fun found _ => ?_
  split
  next => exact .ok
  next => exact onlyRefuses_refuse

theorem onlyRefuses_nonemptyArrayField : (v.nonemptyArrayField field).OnlyRefuses := by
  refine (onlyRefuses_member v field _).bind fun found _ => ?_
  split
  next => exact .ok
  next => exact onlyRefuses_refuse

theorem onlyRefuses_onlyFields (names : List String) : (v.onlyFields names).OnlyRefuses := by
  refine (onlyRefuses_members v).bind fun members _ => ?_
  split
  next => exact .ok
  next => exact onlyRefuses_refuse

theorem onlyRefuses_readRecord {σ : Type} (r : Record σ) (s : σ) :
    (v.readRecord r s).OnlyRefuses := by
  rw [readRecord]
  split
  next => exact .ok
  next => exact onlyRefuses_refuse

end Json

/-! ## Kinds and transforms -/

theorem Kind.onlyRefuses_ofText (text : String) : (ofText text).OnlyRefuses := by
  simp only [ofText]
  split
  next => exact .validation
  next =>
    split
    next => exact .validation
    next =>
      split
      next => exact .validation
      next =>
        split
        next => exact .validation
        next => exact .ok

theorem Transform.onlyRefuses_ofText (text : String) : (ofText text).OnlyRefuses := by
  rw [ofText]
  split
  next => exact .validation_bind
  next =>
    dsimp only
    split
    next => exact .ok
    next =>
      split
      next name _ => exact (Kind.onlyRefuses_ofText name).bind fun k _ => .ok
      next => exact .validation

theorem Transform.onlyRefuses_listOfText (text : String) : (listOfText text).OnlyRefuses :=
  .mapM fun t _ => onlyRefuses_ofText t

theorem Transform.onlyRefuses_listOfJson (v : Json) : (listOfJson v).OnlyRefuses := by
  unfold listOfJson
  split
  next => exact .mapM fun item _ => item.onlyRefuses_text.bind fun text _ => onlyRefuses_ofText text
  next => exact .validation

theorem Kind.onlyRefuses_transformsOfField (v : Json) (field : String) :
    (transformsOfField v field).OnlyRefuses := by
  rw [transformsOfField]
  split
  next => exact .ok
  next =>
    exact (v.onlyRefuses_textField field).bind fun text _ => Transform.onlyRefuses_listOfText text

theorem Kind.onlyRefuses_ofJson (v : Json) : (ofJson v).OnlyRefuses := by
  refine (v.onlyRefuses_onlyFields _).bind fun _ _ => ?_
  split
  next => exact .validation
  next parts _ =>
    split
    next =>
      refine (parts.onlyRefuses_onlyFields _).bind fun _ _ => ?_
      refine (onlyRefuses_transformsOfField parts _).bind fun l _ => ?_
      refine (onlyRefuses_transformsOfField parts _).bind fun g _ => ?_
      refine (parts.onlyRefuses_textField _).bind fun name _ => ?_
      exact (onlyRefuses_ofText name).bind fun base _ => .ok
    next =>
      refine (v.onlyRefuses_textField _).bind fun name _ => ?_
      split
      next => exact onlyRefuses_ofText name
      next =>
        refine (v.onlyRefuses_textField _).bind fun label _ => ?_
        split
        next => exact .ok
        next => exact (v.onlyRefuses_integerField _).bind fun rule _ => .ok

/-! ## Locations -/

theorem Segment.onlyRefuses_split (text : String) : (split text).OnlyRefuses := by
  simp only [split]
  split
  next => exact .ok
  next => exact .validation

theorem Root.onlyRefuses_ofText (text : String) : (ofText text).OnlyRefuses := by
  rw [ofText]
  split
  next =>
    split
    next => exact .ok
    next => exact .validation
  next =>
    split
    next => exact .ok
    next => exact .validation

theorem Element.onlyRefuses_ofSegment (s : Segment) : (ofSegment s).OnlyRefuses := by
  cases s with
  | field name => exact .ok
  | index inner =>
      rw [ofSegment]
      split
      next => exact .validation
      next =>
        split
        next => exact .ok
        next =>
          split
          next => exact .ok
          next =>
            split
            next => exact .ok
            next => exact .validation

/-- An index in angle brackets is read as the element by the value of the root that is written
there, when this is an argument. -/
theorem Element.ofSegment_valueOf {text : String} {root : Root} (read : Root.ofText text = .ok root)
    (argument : root.isArgument = true) :
    ofSegment (.index ("<" ++ text ++ ">")) = ofValueOf root ∧ ∃ e, ofValueOf root = .ok e := by
  rw [ofSegment_angles, read]
  cases root with
  | argument position => exact ⟨rfl, .valueOf position, rfl⟩
  | _ => cases argument

theorem AccessPath.onlyRefuses_ofText (text : String) : (ofText text).OnlyRefuses := by
  refine (Segment.onlyRefuses_split text).bind fun segments _ => ?_
  split
  next => exact .validation
  next root segments =>
    refine (Root.onlyRefuses_ofText _).bind fun root _ => ?_
    exact (OnlyRefuses.mapM fun s _ => Element.onlyRefuses_ofSegment s).bind fun path _ => .ok

theorem AccessPath.onlyRefuses_ofJson (v : Json) : (ofJson v).OnlyRefuses :=
  v.onlyRefuses_text.bind fun text _ => onlyRefuses_ofText text

/-! ## Frames -/

theorem Method.onlyRefuses_ofJson (v : Json) : (ofJson v).OnlyRefuses := by
  unfold ofJson
  split
  next => exact .ok
  next =>
    refine (v.onlyRefuses_onlyFields _).bind fun _ _ => ?_
    refine (v.onlyRefuses_textField _).bind fun signature _ => ?_
    split
    next => exact .ok
    next => exact .ok
    next => exact .validation

theorem FrameKind.onlyRefuses_ofText (text : String) : (ofText text).OnlyRefuses := by
  rw [ofText]
  split
  next => exact .ok
  next => exact .validation

theorem Frame.onlyRefuses_optionalPart {α : Type} {read : Json → Checked α}
    (part : ∀ v, (read v).OnlyRefuses) (v : Json) (field : String) :
    (optionalPart read v field).OnlyRefuses := by
  rw [optionalPart]
  split
  next => exact .ok
  next found _ => exact (part found).bind fun a _ => .ok

/-- A reader of frames meets the contract of the function that makes one. -/
theorem Frame.onlyRefuses_ofJson (v : Json) : (ofJson v).OnlyRefuses := by
  refine (v.onlyRefuses_objectField _).bind fun parts _ => ?_
  refine ((Json.object parts).onlyRefuses_textField _).bind fun text _ => ?_
  refine (FrameKind.onlyRefuses_ofText text).bind fun kind _ => ?_
  refine (onlyRefuses_optionalPart Method.onlyRefuses_ofJson ..).bind fun callee _ => ?_
  refine (onlyRefuses_optionalPart (fun v => v.onlyRefuses_readRecord ..) ..).bind
    fun position _ => ?_
  refine (onlyRefuses_optionalPart AccessPath.onlyRefuses_ofJson ..).bind fun port _ => ?_
  split
  next => exact .validation
  next guarded =>
    have callee_at_port : callee.isSome = true → port.isSome = true ∧ kind.isCallSite = true := by
      intro hcallee
      simpa [hcallee, Option.isSome_iff_ne_none] using guarded
    exact .of_eq_ok (a := ⟨callee, kind, port, position, callee_at_port⟩)
      (make_eq_ok_iff.2 ⟨rfl, rfl, rfl, rfl⟩)

/-! ## Rules -/

theorem KindSet.onlyRefuses_ofField (v : Json) (field : String) :
    (ofField v field).OnlyRefuses := by
  refine (v.onlyRefuses_nonemptyArrayField field).bind fun items _ => ?_
  refine OnlyRefuses.bind (.mapM fun item _ => ?_) fun kinds _ => .ok
  exact item.onlyRefuses_text.bind fun text _ => Kind.onlyRefuses_ofText text

namespace Rule

/-- The sets that were read are not empty. -/
theorem onlyRefuses_sourceSinkOfJson (code : Int64) (v : Json) :
    (sourceSinkOfJson code v).OnlyRefuses := by
  refine (v.onlyRefuses_onlyFields _).bind fun _ _ => ?_
  refine (KindSet.onlyRefuses_ofField v _).bind fun sources hsources => ?_
  refine (KindSet.onlyRefuses_ofField v _).bind fun sinks hsinks => ?_
  have listedSources := (KindSet.ofField_eq_ok_iff.1 hsources).isEmpty_eq_false
  have listedSinks := (KindSet.ofField_eq_ok_iff.1 hsinks).isEmpty_eq_false
  have made : ∀ transforms,
      (SourceSinkPattern.make code sources sinks transforms).OnlyRefuses := fun transforms =>
    .of_eq_ok (a := ⟨sources, sinks, transforms, listedSources, listedSinks⟩)
      (SourceSinkPattern.make_eq_ok_iff.2 ⟨rfl, rfl, rfl⟩)
  split
  next => exact made []
  next list _ =>
    exact (Transform.onlyRefuses_listOfJson list).bind fun transforms _ => made transforms

/-- The sets that were read are not empty. -/
theorem onlyRefuses_exploitabilityOfJson (code : Int64) (v : Json) :
    (exploitabilityOfJson code v).OnlyRefuses := by
  refine (v.onlyRefuses_onlyFields _).bind fun _ _ => ?_
  refine (KindSet.onlyRefuses_ofField v _).bind fun effectSources heffect => ?_
  refine (KindSet.onlyRefuses_ofField v _).bind fun sources hsources => ?_
  refine (KindSet.onlyRefuses_ofField v _).bind fun sinks hsinks => ?_
  have listedEffect := (KindSet.ofField_eq_ok_iff.1 heffect).isEmpty_eq_false
  have listedSources := (KindSet.ofField_eq_ok_iff.1 hsources).isEmpty_eq_false
  have listedSinks := (KindSet.ofField_eq_ok_iff.1 hsinks).isEmpty_eq_false
  exact .of_eq_ok (a := ⟨effectSources, sources, sinks, listedEffect, listedSources, listedSinks⟩)
    (ExploitabilityPattern.make_eq_ok_iff.2 ⟨rfl, rfl, rfl⟩)

/-- There are two labels whose sets are not empty, and all sinks are partial. -/
theorem onlyRefuses_multiSourceOfJson (code : Int64) (v : Json) :
    (multiSourceOfJson code v).OnlyRefuses := by
  refine (v.onlyRefuses_onlyFields _).bind fun _ _ => ?_
  refine (v.onlyRefuses_objectField _).bind fun labels _ => ?_
  refine OnlyRefuses.bind (.mapM fun m _ => ?_) fun sources hsources => ?_
  · exact (KindSet.onlyRefuses_ofField _ _).bind fun kinds _ => .ok
  dsimp only
  split
  next => exact .validation_bind
  next two =>
    have two : (SortedMap.ofList sources).size = 2 := not_not.1 two
    have hasSources : ∀ kinds ∈ (SortedMap.ofList sources).values, kinds.isEmpty = false := by
      intro kinds hkinds
      obtain ⟨label, among⟩ := SortedMap.exists_mem_of_mem_values_ofList hkinds
      have read := (Checked.mapM_key_eq_ok_iff.1 hsources).2 _ among
      exact (KindSet.ofField_eq_ok_iff.1 read).isEmpty_eq_false
    refine (v.onlyRefuses_nonemptyArrayField _).bind fun items hitems => ?_
    refine OnlyRefuses.bind (.mapM fun item _ => item.onlyRefuses_text) fun names hnames => ?_
    have nonempty : names ≠ [] := by
      have some := (Json.nonemptyArrayField_eq_ok_iff.1 hitems).1
      rw [Json.mapM_text_eq_ok_iff.1 hnames] at some
      simpa using some
    obtain ⟨p, made⟩ := MultiSourcePattern.exists_make_sinksOf code two hasSources nonempty
    exact .of_eq_ok made

theorem onlyRefuses_patternOfJson (code : Int64) (v : Json) :
    (patternOfJson code v).OnlyRefuses := by
  dsimp only [patternOfJson]
  split
  next => exact (onlyRefuses_exploitabilityOfJson code v).bind fun p _ => .ok
  next =>
    split
    next => exact (onlyRefuses_sourceSinkOfJson code v).bind fun p _ => .ok
    next =>
      split
      next => exact (onlyRefuses_multiSourceOfJson code v).bind fun p _ => .ok
      next => exact .validation

theorem onlyRefuses_ofJson (v : Json) : (ofJson v).OnlyRefuses := by
  refine (v.onlyRefuses_textField _).bind fun name _ => ?_
  refine (v.onlyRefuses_integerField _).bind fun code _ => ?_
  refine (v.onlyRefuses_textField _).bind fun description _ => ?_
  exact (onlyRefuses_patternOfJson code v).bind fun pattern _ => .ok

/-- The half-fulfilled flows of a multi-source rule end in partial sinks.  The flows that fulfil it
end in the sinks that these become. -/
theorem mapM_triggered_halfFulfillingFlows {r : Rule} {p : MultiSourcePattern}
    (h : r.pattern = .multiSource p) :
    (r.halfFulfillingFlows.mapM fun f => do return Flow.mk f.source (← f.sink.triggered r.code)) =
      .ok r.fulfillingFlows := by
  simp only [halfFulfillingFlows, fulfillingFlows, h]
  refine Checked.mapM_flatMap fun e _ => Checked.mapM_flatMap fun source _ => ?_
  exact Checked.mapM_map fun sink _ => rfl

end Rule

theorem RuleSet.onlyRefuses_ofJson (v : Json) : (RuleSet.ofJson v).value.OnlyRefuses := by
  rw [value_ofJson]
  refine v.onlyRefuses_itemsOrNull.bind fun items _ => ?_
  exact (OnlyRefuses.mapM fun item _ => Rule.onlyRefuses_ofJson item).bind fun l _ => .ok

/-! ## The readers of configurations -/

/-- Each reader of a configuration returns a value or refuses what it is given, and breaks no
contract on the way.  While a rule set is read, every sink that is triggered for its indexes is
partial, and every root whose value is to be an index is an argument. -/
theorem readers_only_refuse (v : Json) :
    ((RuleSet.ofJson v).value.OnlyRefuses ∧ (Rule.ofJson v).OnlyRefuses ∧
      (Kind.ofJson v).OnlyRefuses ∧ (Frame.ofJson v).OnlyRefuses ∧
      (AccessPath.ofJson v).OnlyRefuses) ∧
    (∀ (r : Rule) (p : MultiSourcePattern), r.pattern = .multiSource p →
      (r.halfFulfillingFlows.mapM fun f => do return Flow.mk f.source (← f.sink.triggered r.code)) =
        .ok r.fulfillingFlows) ∧
    ∀ (text : String) (root : Root), Root.ofText text = .ok root → root.isArgument = true →
      Element.ofSegment (.index ("<" ++ text ++ ">")) = Element.ofValueOf root ∧
        ∃ e, Element.ofValueOf root = .ok e := by
  refine ⟨⟨RuleSet.onlyRefuses_ofJson v, Rule.onlyRefuses_ofJson v, Kind.onlyRefuses_ofJson v,
    Frame.onlyRefuses_ofJson v, AccessPath.onlyRefuses_ofJson v⟩, ?_, ?_⟩
  · exact fun _ _ => Rule.mapM_triggered_halfFulfillingFlows
  · exact fun _ _ => Element.ofSegment_valueOf

/-- A call site with a callee and without a port. -/
def sampleCallInfo : Json :=
  .object [("call_info", .object [("call_kind", .string "CallSite"), ("resolves_to", .string "m")])]

/-- A callee without a port and an index by the value of a root that is no argument are refused.
The functions that would make a frame and an element of them break their contracts. -/
theorem readers_only_refuse_samples :
    ((∃ e, Frame.ofJson sampleCallInfo = .error e ∧ e.isValidation = true) ∧
      ∃ e, Frame.make (some ⟨"m", false⟩) (.stage .callSite false) none none = .error e ∧
        e.isValidation = false) ∧
    ((∃ e, AccessPath.ofJson (.string "Return[<Leaf>]") = .error e ∧ e.isValidation = true) ∧
      ∃ e, Element.ofValueOf .leaf = .error e ∧ e.isValidation = false) ∧
    Element.ofSegment (.index ("<" ++ "Argument(3)" ++ ">")) =
      Element.ofValueOf (.argument 3) := by
  obtain ⟨⟨_, _, _, frames, _⟩, _, values⟩ := readers_only_refuse sampleCallInfo
  obtain ⟨⟨_, _, _, _, paths⟩, _⟩ := readers_only_refuse (.string "Return[<Leaf>]")
  refine ⟨⟨⟨_, rfl, frames.isValidation _ rfl⟩, _, rfl, rfl⟩,
    ⟨⟨_, rfl, paths.isValidation _ rfl⟩, _, rfl, rfl⟩, ?_⟩
  exact (values "Argument(3)" (.argument 3) rfl rfl).1

end TaintFlow
