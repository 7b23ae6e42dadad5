import TaintFlow.Json.Record
import TaintFlow.Proofs.Checked

/-!
# What is read as a record

A record takes over the members of an object one after the other (`Json.Record.setMembers_append`),
each into the field of its name (`Json.Record.setMembers_singleton`).  A record of which every field
may be left out is what comes of that (`Json.Record.read_object`).
-/

namespace TaintFlow.Json

theorem readRecord_eq_ok_iff {σ : Type} {r : Record σ} {s t : σ} {v : Json} :
    v.readRecord r s = .ok t ↔ r.read s v = .ok t := by
  rw [readRecord]
  cases r.read s v with
  | ok found => simp
  | error expected => simp [refuse]

theorem asIntegerIn_eq_ok_iff {type : String} {low high n : Int} {v : Json} :
    v.asIntegerIn type low high = .ok n ↔ v = .integer n ∧ low ≤ n ∧ n ≤ high := by
  cases v with
  | integer m =>
      rw [asIntegerIn]
      split
      next inside =>
        simp only [Bool.and_eq_true, decide_eq_true_eq] at inside
        simp only [Except.ok.injEq, Json.integer.injEq]
        constructor
        · rintro rfl
          exact ⟨rfl, inside⟩
        · exact And.left
      next outside =>
        simp only [Bool.and_eq_true, decide_eq_true_eq] at outside
        simp only [reduceCtorEq, Json.integer.injEq, false_iff]
        rintro ⟨rfl, inside⟩
        exact outside inside
  | null | bool | point | string | array | object => simp [asIntegerIn]

/-- The integers of 64 bits without a sign. -/
theorem asUInt64_eq_ok_iff {v : Json} {n : UInt64} :
    v.asUInt64 = .ok n ↔ v = .integer n.toNat := by
  simp only [asUInt64, Checked.bind_eq_ok_iff, asIntegerIn_eq_ok_iff, Checked.pure_eq_ok,
    Except.ok.injEq]
  constructor
  · rintro ⟨m, ⟨rfl, low, high⟩, rfl⟩
    have small : m.toNat < 2 ^ 64 := by omega
    rw [UInt64.toNat_ofNat_of_lt' small, Int.toNat_of_nonneg low]
  · rintro rfl
    have high : n.toNat < 2 ^ 64 := n.toNat_lt
    exact ⟨n.toNat, ⟨rfl, by omega, by omega⟩, by rw [Int.toNat_natCast, UInt64.ofNat_toNat]⟩

namespace Record

variable {σ : Type} {r : Record σ} {s : σ}

theorem setMembers_append (l m : List (String × Json)) :
    r.setMembers s (l ++ m) = r.setMembers s l >>= (r.setMembers · m) :=
  List.foldlM_append

theorem setMembers_singleton (key : String) (v : Json) :
    r.setMembers s [(key, v)] =
      match r.fields.find? (·.name == key) with
      | some field => field.set v s
      | none => .error (.unknownField key (r.fields.map (·.name))) := by
  rw [setMembers, List.foldlM_cons]
  exact bind_pure _

theorem read_object (optional : ∀ field ∈ r.fields, field.required = false)
    (members : List (String × Json)) :
    r.read s (.object members) = r.setMembers s members := by
  have given : r.fields.find? (fun field =>
      field.required && !(members.map Prod.fst).contains field.name) = none := by
    rw [List.find?_eq_none]
    intro field hfield
    simp [optional field hfield]
  rw [read, given]
  exact bind_pure _

end Record

end TaintFlow.Json
