import TaintFlow.Program.Method
import TaintFlow.Program.Position
import TaintFlow.Proofs.Json.Record

/-!
# Methods and positions that are read back from JSON

Every method and every position is read back from its JSON form.  A position leaves out the fields
that have no value, and its reader starts from a position without them
(`Position.setMembers_toJson`).
-/

namespace TaintFlow

/-- A method is read back, static or not. -/
theorem Method.ofJson_toJson (m : Method) : ofJson m.toJson = .ok m := by
  obtain ⟨signature, isStatic⟩ := m
  cases isStatic <;> rfl

/-! ## Numbers of 32 bits -/

namespace Json

theorem asInt32_toInt (n : Int32) : (integer n.toInt).asInt32 = .ok n := by
  have low : -2147483648 ≤ n.toInt := n.le_toInt
  have high : n.toInt ≤ 2147483647 := n.toInt_le
  simp [asInt32, asIntegerIn, low, high]

theorem asUInt32_toNat (n : UInt32) : (integer n.toNat).asUInt32 = .ok n := by
  have high : (n.toNat : Int) ≤ 4294967295 := by
    have := n.toNat_lt
    omega
  simp [asUInt32, asIntegerIn, high]

end Json

/-! ## Positions -/

namespace Position

open Json (optionalMember)

/-- The fields are taken over one after the other, each into a position without it. -/
theorem setMembers_toJson (path : Option String) (line : Int32) (start stop : Option UInt32) :
    record.setMembers (ofLine none 0)
      (optionalMember "end" (stop.map fun n => .integer n.toNat) ++
        [("line", .integer line.toInt)] ++ optionalMember "path" (path.map .string) ++
        optionalMember "start" (start.map fun n => .integer n.toNat)) =
      .ok ⟨path, line, start, stop⟩ := by
  have takeStop : record.setMembers (ofLine none 0)
      (optionalMember "end" (stop.map fun n => .integer n.toNat)) = .ok ⟨none, 0, none, stop⟩ := by
    cases stop with
    | none => rfl
    | some n =>
        show (record.fields[3].set _ _ >>= fun p => .ok p) = _
        simp [record, Json.asOption, Json.asUInt32_toNat, ofLine]
  have takeLine : record.setMembers ⟨none, 0, none, stop⟩ [("line", .integer line.toInt)] =
      .ok ⟨none, line, none, stop⟩ := by
    show (record.fields[1].set _ _ >>= fun p => .ok p) = _
    simp [record, Json.asInt32_toInt]
  have takePath : record.setMembers ⟨none, line, none, stop⟩
      (optionalMember "path" (path.map .string)) = .ok ⟨path, line, none, stop⟩ := by
    cases path with
    | none => rfl
    | some text => rfl
  have takeStart : record.setMembers ⟨path, line, none, stop⟩
      (optionalMember "start" (start.map fun n => .integer n.toNat)) =
        .ok ⟨path, line, start, stop⟩ := by
    cases start with
    | none => rfl
    | some n =>
        show (record.fields[2].set _ _ >>= fun p => .ok p) = _
        simp [record, Json.asOption, Json.asUInt32_toNat]
  rw [Json.Record.setMembers_append, Json.Record.setMembers_append, Json.Record.setMembers_append,
    takeStop, Checked.bind_ok, takeLine, Checked.bind_ok, takePath, Checked.bind_ok, takeStart]

/-- A position is read back. -/
theorem ofJson_toJson (p : Position) : ofJson p.toJson = .ok p := by
  obtain ⟨path, line, start, stop⟩ := p
  have members := setMembers_toJson path line start stop
  rw [ofJson, Json.readRecord, toJson, Json.Record.read]
  dsimp only
  rw [members, Checked.bind_ok]
  -- The line is the one field that must be there.
  simp [record]

end Position

end TaintFlow
