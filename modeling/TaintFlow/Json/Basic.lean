import TaintFlow.Text.Quoted

/-!
# JSON values

A JSON value keeps integers apart from numbers that are written with a point, because the readers of
this library accept only the former as integers.  The members of an object stand in increasing order
of their keys; `Json.Ordered` says so of a value and of all values in it.

`Json.compact` prints a value without blanks.
-/

namespace TaintFlow

/-- A number that is written with a point: `units / 10 ^ places`, with a sign of its own, so that
`-0.0` is not `0.0`. -/
structure PointNumber where
  negative : Bool
  units : Nat
  places : Nat
  deriving DecidableEq

/-- The number with as few decimal places as it needs, but at least one. -/
def PointNumber.toText (d : PointNumber) : String :=
  let digits := Nat.toDigits 10 d.units
  let padded := List.replicate (d.places + 1 - digits.length) '0' ++ digits
  let whole := padded.take (padded.length - d.places)
  let decimals := ((padded.drop (padded.length - d.places)).reverse.dropWhile (· = '0')).reverse
  String.ofList ((if d.negative then ['-'] else []) ++ whole ++ ['.'] ++
    (if decimals.isEmpty then ['0'] else decimals))

/-- A JSON value. -/
inductive Json where
  | null
  | bool (b : Bool)
  | integer (n : Int)
  | point (d : PointNumber)
  | string (s : String)
  | array (items : List Json)
  | object (members : List (String × Json))
  deriving Inhabited

namespace Json

/-- Texts with commas between them. -/
def commaSeparated (texts : List String) : String := ",".intercalate texts

mutual

/-- A value without blanks, members in the order in which they stand. -/
def compact : Json → String
  | .null => "null"
  | .bool true => "true"
  | .bool false => "false"
  | .integer n => toString n
  | .point d => d.toText
  | .string s => Quoted.json s
  | .array items => "[" ++ commaSeparated (compactItems items) ++ "]"
  | .object members => "\x7b" ++ commaSeparated (compactMembers members) ++ "\x7d"

/-- The texts of the items of an array. -/
def compactItems : List Json → List String
  | [] => []
  | v :: rest => v.compact :: compactItems rest

/-- The texts of the members of an object. -/
def compactMembers : List (String × Json) → List String
  | [] => []
  | (key, v) :: rest => (Quoted.json key ++ ":" ++ v.compact) :: compactMembers rest

end

mutual

/-- In every object of the value the keys increase. -/
def Ordered : Json → Prop
  | .array items => OrderedItems items
  | .object members =>
      (members.map Prod.fst).Pairwise (fun a b => compare a b = .lt) ∧ OrderedMembers members
  | _ => True

/-- `Ordered` for the items of an array. -/
def OrderedItems : List Json → Prop
  | [] => True
  | v :: rest => v.Ordered ∧ OrderedItems rest

/-- `Ordered` for the members of an object. -/
def OrderedMembers : List (String × Json) → Prop
  | [] => True
  | (_, v) :: rest => v.Ordered ∧ OrderedMembers rest

end

/-- The value of a member.  Only objects have members. -/
def get? (v : Json) (key : String) : Option Json :=
  match v with
  | .object members => members.lookup key
  | _ => none

def isObject : Json → Bool
  | .object _ => true
  | _ => false

/-- The text that stands for a value in a message: a string as it is, all else as JSON. -/
def literal : Json → String
  | .string s => s
  | v => v.compact

/-- A member that is left out when it has no value. -/
def optionalMember (key : String) (v : Option Json) : List (String × Json) :=
  match v with
  | none => []
  | some v => [(key, v)]

end Json

end TaintFlow
