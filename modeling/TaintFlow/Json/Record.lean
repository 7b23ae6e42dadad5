import TaintFlow.Json.Reader

/-!
# Records

A record is read from an object, member by member in the order in which the members stand, or from
an array, element by element in the order of the fields.  The first value that does not fit decides
the failure; whether something is missing or too much is looked at after all values.
-/

namespace TaintFlow.Json

/-- A field of a record that is being read into a `σ`. -/
structure Field (σ : Type) where
  name : String
  /-- Must a value be given? -/
  required : Bool
  /-- Takes the value over. -/
  set : Json → σ → Except Expectation σ

/-- A record: its name and its fields in order. -/
structure Record (σ : Type) where
  name : String
  fields : List (Field σ)

namespace Record

variable {σ : Type}

/-- Takes over the members of an object. -/
def setMembers (r : Record σ) (s : σ) (members : List (String × Json)) : Except Expectation σ :=
  members.foldlM (fun s m =>
    match r.fields.find? (·.name == m.1) with
    | some field => field.set m.2 s
    | none => .error (.unknownField m.1 (r.fields.map (·.name)))) s

/-- Takes over the elements of an array, as far as there are fields for them. -/
def setElements (r : Record σ) (s : σ) (items : List Json) : Except Expectation σ :=
  (r.fields.zip items).foldlM (fun s e => e.1.set e.2 s) s

/-- Reads a record, starting from `s` for the fields that are not given. -/
def read (r : Record σ) (s : σ) (v : Json) : Except Expectation σ :=
  match v with
  | .object members => do
      let s ← r.setMembers s members
      match r.fields.find? fun f => f.required && !(members.map Prod.fst).contains f.name with
      | some field => .error (.missingField field.name)
      | none => .ok s
  | .array items => do
      let s ← r.setElements s items
      match (r.fields.drop items.length).findIdx? (·.required) with
      | some i => .error (.tooShort (items.length + i) r.name r.fields.length)
      | none =>
          if r.fields.length < items.length then .error (.tooLong items.length) else .ok s
  | _ => .error (.wrongType v ("struct " ++ r.name))

end Record

/-- Reads a record, and shows the whole value when it fails. -/
def readRecord {σ : Type} (r : Record σ) (s : σ) (v : Json) : Checked σ :=
  match r.read s v with
  | .ok s => .ok s
  | .error expected => v.refuse none expected

/-- The text of a string. -/
def asString (v : Json) : Except Expectation String :=
  match v with
  | .string s => .ok s
  | _ => .error (.wrongType v "a string")

/-- An integer from `low` to `high`. -/
def asIntegerIn (type : String) (low high : Int) (v : Json) : Except Expectation Int :=
  match v with
  | .integer n => if low ≤ n && n ≤ high then .ok n else .error (.outOfRange n type)
  | _ => .error (.wrongType v type)

/-- An integer of 32 bits with a sign. -/
def asInt32 (v : Json) : Except Expectation Int32 :=
  return Int32.ofInt (← v.asIntegerIn "i32" (-2147483648) 2147483647)

/-- An integer of 32 bits without a sign. -/
def asUInt32 (v : Json) : Except Expectation UInt32 :=
  return UInt32.ofNat (← v.asIntegerIn "u32" 0 4294967295).toNat

/-- An integer of 64 bits without a sign. -/
def asUInt64 (v : Json) : Except Expectation UInt64 :=
  return UInt64.ofNat (← v.asIntegerIn "usize" 0 18446744073709551615).toNat

/-- A value that may be left out by writing `null`. -/
def asOption {α : Type} (read : Json → Except Expectation α) (v : Json) :
    Except Expectation (Option α) :=
  match v with
  | .null => .ok none
  | _ => return some (← read v)

end TaintFlow.Json
