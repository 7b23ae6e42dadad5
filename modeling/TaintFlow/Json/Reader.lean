import TaintFlow.Failure

/-!
# Checked reading of JSON

Each reader returns what it looks for, or the validation failure that shows the whole value it was
given.  A missing member fails exactly as one of the wrong type does.
-/

namespace TaintFlow.Json

/-- The failure to read `v`. -/
def refuse {α : Type} (v : Json) (field : Option String) (expected : Expectation) : Checked α :=
  .error (.validation v.literal field expected)

/-- The members of an object. -/
def members (v : Json) : Checked (List (String × Json)) :=
  match v with
  | .object members => .ok members
  | _ => v.refuse none .object

/-- The text of a string. -/
def text (v : Json) : Checked String :=
  match v with
  | .string s => .ok s
  | _ => v.refuse none .string

/-- The member of an object. -/
def member (v : Json) (field : String) (expected : Expectation) : Checked Json := do
  match (← v.members).lookup field with
  | some found => .ok found
  | none => v.refuse (some field) expected

/-- The text of a string member. -/
def textField (v : Json) (field : String) : Checked String := do
  match ← v.member field .string with
  | .string s => .ok s
  | _ => v.refuse (some field) .string

/-- Is the integer in the range of 64 bits with a sign? -/
def fitsInt64 (n : Int) : Bool := -9223372036854775808 ≤ n && n < 9223372036854775808

/-- The value of an integer member. -/
def integerField (v : Json) (field : String) : Checked Int64 := do
  match ← v.member field .integer with
  | .integer n => if fitsInt64 n then .ok (Int64.ofInt n) else v.refuse (some field) .integer
  | _ => v.refuse (some field) .integer

/-- The members of an object member. -/
def objectField (v : Json) (field : String) : Checked (List (String × Json)) := do
  match ← v.member field .object with
  | .object members => .ok members
  | _ => v.refuse (some field) .object

/-- The items of an array member, of which there is at least one. -/
def nonemptyArrayField (v : Json) (field : String) : Checked (List Json) := do
  match ← v.member field .nonemptyArray with
  | .array (first :: rest) => .ok (first :: rest)
  | _ => v.refuse (some field) .nonemptyArray

/-- The items of an array, where `null` stands for the empty array. -/
def itemsOrNull (v : Json) : Checked (List Json) :=
  match v with
  | .null => .ok []
  | .array items => .ok items
  | _ => v.refuse none .nullOrArray

/-- Accepts an object without members beside the named ones.  The first other member is at fault. -/
def onlyFields (v : Json) (names : List String) : Checked Unit := do
  match (← v.members).find? fun m => !names.contains m.1 with
  | none => .ok ()
  | some (key, _) => v.refuse (some key) (.onlyFields names)

end TaintFlow.Json
