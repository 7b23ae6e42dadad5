import TaintFlow.Kind.Text
import TaintFlow.Json.Reader

/-!
# The JSON forms of kinds and transforms

A plain kind is an object with its name, and with its label and rule code where it has them.  A kind
with transforms has an object in place of the name, which holds the texts of its parts.
-/

namespace TaintFlow

namespace Transform

/-- Reads a non-empty array of transforms. -/
def listOfJson (v : Json) : Checked (List Transform) :=
  match v with
  | .array (first :: rest) => (first :: rest).mapM fun item => do ofText (← item.text)
  | _ => .error (.validation v.compact none .nonemptyTransforms)

end Transform

namespace Kind

/-- The text of a list of transforms, unless there are none. -/
def transformsToJson? (l : List Transform) : Option Json :=
  if l.isEmpty then none else some (.string (Transform.listToText l))

def toJson (k : Kind) : Json :=
  if k.isTransformed then
    .object [("kind", .object
      ([("base", .string k.base.toText)] ++
        Json.optionalMember "global" (transformsToJson? k.globalTransforms) ++
        Json.optionalMember "local" (transformsToJson? k.localTransforms)))]
  else
    match k.base with
    | .named name => .object [("kind", .string name)]
    | .partialSink sink =>
        .object [("kind", .string sink.name), ("partial_label", .string sink.label)]
    | .triggeredSink sink rule =>
        .object [("kind", .string sink.name), ("partial_label", .string sink.label),
          ("triggered_rule", .integer rule.toInt)]

/-- Reads the transforms of a member, none if it is left out. -/
def transformsOfField (v : Json) (field : String) : Checked (List Transform) := do
  match v.get? field with
  | none => return []
  | some _ => Transform.listOfText (← v.textField field)

/-- Reads a kind. -/
def ofJson (v : Json) : Checked Kind := do
  v.onlyFields ["kind", "partial_label", "triggered_rule"]
  match v.get? "kind" with
  | none => .error (.validation v.compact (some "kind") .stringOrObject)
  | some parts =>
      if parts.isObject then
        parts.onlyFields ["local", "global", "base"]
        let localTransforms ← transformsOfField parts "local"
        let globalTransforms ← transformsOfField parts "global"
        let base ← ofText (← parts.textField "base")
        return base.withTransforms localTransforms globalTransforms
      else
        let name ← v.textField "kind"
        if (v.get? "partial_label").isNone then
          ofText name
        else
          let sink : PartialSink := ⟨name, ← v.textField "partial_label"⟩
          if (v.get? "triggered_rule").isNone then
            return ofPartial sink
          else
            return ofBase (.triggeredSink sink (← v.integerField "triggered_rule"))

/-- The sink that a partial kind becomes when the rule with code `rule` has its other half. -/
def triggered (k : Kind) (rule : Int64) : Checked Kind :=
  match k.partialSink? with
  | some sink => .ok (ofBase (.triggeredSink sink rule))
  | none => .error (.contract (.triggeredKind k.toText))

end Kind

end TaintFlow
