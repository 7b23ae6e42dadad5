import TaintFlow.Frame.Json
import TaintFlow.Proofs.Frame.Propagation
import TaintFlow.Proofs.Json.Reader
import TaintFlow.Proofs.Location.Printable
import TaintFlow.Proofs.Program.Codec

/-!
# Frames that are read back from JSON

The JSON form of a frame has one member for each part that the frame has.  `Frame.ofJson_eq_ok_iff`
says which frame is read from such members.  Kinds, methods and positions are always read back, so a
frame is read back when its port is (`Frame.ofJson_toJson_iff`), which is to say when the port is
printable.  Ports that were read are.
-/

namespace TaintFlow

theorem FrameKind.ofText_toText (k : FrameKind) : ofText k.toText = .ok k := by
  have named : ∀ k ∈ all, all.find? (·.toText = k.toText) = some k := by decide
  rw [ofText, named k (mem_all k)]

namespace Frame

variable {f : Frame} {v : Json}

/-! ## What is read -/

/-- A member that may be left out has the value that it is read as. -/
theorem optionalPart_eq_ok_iff {α : Type} {read : Json → Checked α} {field : String}
    {part : Option α} :
    optionalPart read v field = .ok part ↔
      Option.Rel (fun found a => read found = .ok a) (v.get? field) part := by
  rw [optionalPart]
  cases v.get? field with
  | none =>
      cases part with
      | none => exact iff_of_true rfl .none
      | some a => exact iff_of_false nofun nofun
  | some found =>
      rw [Checked.bind_eq_ok_iff]
      constructor
      · rintro ⟨a, ha, h⟩
        cases h
        exact .some ha
      · rintro ⟨h⟩
        exact ⟨_, h, rfl⟩

/-- The parts of a frame are read from their members. -/
structure IsReadFrom (f : Frame) (parts : Json) : Prop where
  kind : ∃ text, parts.get? "call_kind" = some (.string text) ∧ FrameKind.ofText text = .ok f.kind
  callee : optionalPart Method.ofJson parts "resolves_to" = .ok f.callee
  position : optionalPart Position.ofJson parts "position" = .ok f.position
  port : optionalPart AccessPath.ofJson parts "port" = .ok f.port

/-- The reader does not refuse the parts of a frame, since a callee of a frame is at a port of a
call site. -/
theorem ofJson_eq_ok_iff :
    ofJson v = .ok f ↔
      ∃ parts, v.get? "call_info" = some (.object parts) ∧ f.IsReadFrom (.object parts) := by
  simp only [ofJson, Checked.bind_eq_ok_iff, Json.objectField_eq_ok_iff, Json.textField_eq_ok_iff]
  constructor
  · rintro ⟨parts, hparts, text, htext, kind, hkind, callee, hcallee, position, hposition, port,
      hport, h⟩
    refine ⟨parts, hparts, ?_⟩
    split at h
    next => cases h
    next =>
      obtain ⟨rfl, rfl, rfl, rfl⟩ := make_eq_ok_iff.1 h
      exact ⟨⟨text, htext, hkind⟩, hcallee, hposition, hport⟩
  · rintro ⟨parts, hparts, ⟨text, htext, hkind⟩, hcallee, hposition, hport⟩
    refine ⟨parts, hparts, text, htext, f.kind, hkind, f.callee, hcallee, f.position, hposition,
      f.port, hport, ?_⟩
    rw [if_neg]
    · exact make_eq_ok_iff.2 ⟨rfl, rfl, rfl, rfl⟩
    · rw [Bool.and_eq_true]
      rintro ⟨called, misplaced⟩
      obtain ⟨port, site⟩ := f.callee_at_port called
      simp [Option.isSome_iff_ne_none.1 port, site] at misplaced

/-! ## What is written -/

/-- A printed part is read back when its reader reads it back. -/
theorem optionalPart_map_eq_ok_iff {α : Type} {read : Json → Checked α} {print : α → Json}
    {field : String} {part : Option α} (written : v.get? field = part.map print) :
    optionalPart read v field = .ok part ↔ ∀ a ∈ part, read (print a) = .ok a := by
  rw [optionalPart_eq_ok_iff, written]
  cases part with
  | none => exact iff_of_true .none nofun
  | some a => simp

/-- The members of the JSON form of a frame. -/
theorem get?_toJson (f : Frame) :
    ∃ parts, f.toJson.get? "call_info" = some (.object parts) ∧
      (Json.object parts).get? "call_kind" = some (.string f.kind.toText) ∧
      (Json.object parts).get? "resolves_to" = f.callee.map Method.toJson ∧
      (Json.object parts).get? "position" = f.position.map Position.toJson ∧
      (Json.object parts).get? "port" = f.port.map AccessPath.toJson := by
  refine ⟨_, rfl, rfl, ?_⟩
  cases f.callee <;> cases f.position <;> cases f.port <;> exact ⟨rfl, rfl, rfl⟩

/-- The port of a frame that was read is printable. -/
theorem printable_of_ofJson (h : ofJson v = .ok f) : ∀ port ∈ f.port, port.Printable := by
  obtain ⟨parts, _, read⟩ := ofJson_eq_ok_iff.1 h
  have part := optionalPart_eq_ok_iff.1 read.port
  intro port hport
  rw [Option.mem_def.1 hport] at part
  generalize (Json.object parts).get? "port" = found at part
  cases part with
  | some read =>
      obtain ⟨text, _, read⟩ := Checked.bind_eq_ok_iff.1 read
      exact AccessPath.printable_of_ofText read

/-- A frame is read back exactly when its port is printable. -/
theorem ofJson_toJson_iff : ofJson f.toJson = .ok f ↔ ∀ port ∈ f.port, port.Printable := by
  refine ⟨printable_of_ofJson, fun printable => ?_⟩
  obtain ⟨parts, hparts, kind, callee, position, port⟩ := f.get?_toJson
  refine ofJson_eq_ok_iff.2 ⟨parts, hparts, ⟨_, kind, FrameKind.ofText_toText _⟩, ?_, ?_, ?_⟩
  · exact (optionalPart_map_eq_ok_iff callee).2 fun m _ => m.ofJson_toJson
  · exact (optionalPart_map_eq_ok_iff position).2 fun p _ => p.ofJson_toJson
  · exact (optionalPart_map_eq_ok_iff port).2 fun a ha => AccessPath.ofText_toText (printable a ha)

/-- Printing a frame that was read and reading it again changes nothing. -/
theorem reread (v : Json) : (do ofJson (← ofJson v).toJson) = ofJson v := by
  cases read : ofJson v with
  | error e => rfl
  | ok f => exact ofJson_toJson_iff.2 (printable_of_ofJson read)

/-! ## The round trip -/

/-- A frame that can be made is read back from its JSON form exactly when it has no port or a
printable one.  A frame that was read has a callee only at a port of a call site, and its port is
printable, so reading, printing and reading again is reading. -/
theorem json_round_trip :
    (∀ callee kind port position f, make callee kind port position = .ok f →
      (ofJson f.toJson = .ok f ↔
        ∀ a, port = some a → a.root ≠ .canonicalThis ∧ a.path.Printable)) ∧
    (∀ v f, ofJson v = .ok f →
      (f.callee.isSome = true → f.port.isSome = true ∧ f.kind.isCallSite = true) ∧
        ∀ a, f.port = some a → a.root ≠ .canonicalThis ∧ a.path.Printable) ∧
    ∀ v, (do ofJson (← ofJson v).toJson) = ofJson v := by
  refine ⟨?_, fun v f h => ⟨f.callee_at_port, printable_of_ofJson h⟩, reread⟩
  intro callee kind port position f made
  obtain ⟨_, _, rfl, _⟩ := make_eq_ok_iff.1 made
  exact ofJson_toJson_iff

/-- A static callee with a position and a port. -/
def sampleCallSite : Json :=
  .object [("call_info", .object [("call_kind", .string "PropagationWithTrace:CallSite"),
    ("port", .string "Argument(1).x"),
    ("position", .object [("line", .integer (-3)), ("start", .integer 4294967295)]),
    ("resolves_to", .object [("name", .string "LClass;.m:()V"), ("static", .bool true)])])]

/-- A call site with all parts is read back.  A port with an index that is named by a star is read
as another port, and the receiver of other analyzers is not read at all. -/
theorem json_round_trip_samples :
    (∃ f, ofJson sampleCallSite = .ok f ∧ f.callee.isSome = true ∧ f.position.isSome = true ∧
      ofJson f.toJson = .ok f) ∧
    ∀ port ∈ [⟨.returnValue, [.index "*"]⟩, AccessPath.ofRoot .canonicalThis],
      ∃ f, make none .propagation (some port) none = .ok f ∧ ofJson f.toJson ≠ .ok f := by
  obtain ⟨roundTrip, _, reading⟩ := json_round_trip
  refine ⟨⟨_, rfl, rfl, rfl, reading sampleCallSite⟩, ?_⟩
  intro port hport
  refine ⟨_, rfl, fun back => ?_⟩
  have printable := (roundTrip none .propagation (some port) none _ rfl).1 back port rfl
  revert printable
  exact (by decide : ∀ port ∈ [⟨.returnValue, [.index "*"]⟩, AccessPath.ofRoot .canonicalThis],
    ¬(port.root ≠ .canonicalThis ∧ port.path.Printable)) port hport

end Frame

end TaintFlow
