import TaintFlow.Rule.Basic
import TaintFlow.Json.Reader
import TaintFlow.Kind.Json

/-!
# The JSON form of rules

A rule is an object with its name, code and description.  The members beside these decide the shape
of its pattern.  Kinds are given by name.
-/

namespace TaintFlow

/-- The texts of kinds in order. -/
def KindSet.toJson (kinds : KindSet) : Json := .array (kinds.toList.map fun k => .string k.toText)

/-- Reads the names of kinds. -/
def KindSet.ofItems (items : List Json) : Checked KindSet := do
  let kinds ← items.mapM fun item => do Kind.ofText (← item.text)
  return .ofList kinds

/-- Reads a member that lists at least one kind. -/
def KindSet.ofField (v : Json) (field : String) : Checked KindSet := do
  KindSet.ofItems (← v.nonemptyArrayField field)

namespace Rule

def toJson (r : Rule) : Json :=
  let code := ("code", Json.integer r.code.toInt)
  let description := ("description", Json.string r.description)
  let name := ("name", Json.string r.name)
  match r.pattern with
  | .sourceSink p =>
      .object ([code, description, name, ("sinks", KindSet.toJson p.sinks),
          ("sources", KindSet.toJson p.sources)] ++
        if p.transforms.isEmpty then [] else [("transforms", Transform.listToJson p.transforms)])
  | .multiSource p =>
      let sinkNames : SortedSet String := .ofList (p.partialSinks.toList.map PartialSink.name)
      .object [code, description,
        ("multi_sources", .object (p.sources.entries.map fun e => (e.1, KindSet.toJson e.2))), name,
        ("partial_sinks", .array (sinkNames.toList.map .string))]
  | .exploitability p =>
      .object [code, description, ("effect_sources", KindSet.toJson p.effectSources), name,
        ("sinks", KindSet.toJson p.sinks), ("sources", KindSet.toJson p.sources)]

/-- Reads a source-sink pattern. -/
def sourceSinkOfJson (code : Int64) (v : Json) : Checked SourceSinkPattern := do
  v.onlyFields ["name", "code", "description", "sources", "sinks", "transforms", "oncall"]
  let sources ← KindSet.ofField v "sources"
  let sinks ← KindSet.ofField v "sinks"
  let transforms ←
    match v.get? "transforms" with
    | none => .ok []
    | some list => Transform.listOfJson list
  SourceSinkPattern.make code sources sinks transforms

/-- Reads a multi-source pattern.  Every partial sink is one of both labels. -/
def multiSourceOfJson (code : Int64) (v : Json) : Checked MultiSourcePattern := do
  v.onlyFields ["name", "code", "description", "multi_sources", "partial_sinks", "oncall"]
  let labels ← v.objectField "multi_sources"
  let sources ← labels.mapM fun m => do
    return (m.1, ← KindSet.ofField (.object labels) m.1)
  let sources : SortedMap String KindSet := .ofList sources
  if sources.size ≠ 2 then
    .error (.validation v.compact (some "multi_sources") .twoLabels)
  let names ← (← v.nonemptyArrayField "partial_sinks").mapM Json.text
  let sinks := names.flatMap fun name => sources.keys.map fun label => Kind.ofPartial ⟨name, label⟩
  MultiSourcePattern.make code sources (.ofList sinks)

/-- Reads an exploitability pattern. -/
def exploitabilityOfJson (code : Int64) (v : Json) : Checked ExploitabilityPattern := do
  v.onlyFields ["name", "code", "description", "effect_sources", "sources", "sinks", "oncall"]
  let effectSources ← KindSet.ofField v "effect_sources"
  let sources ← KindSet.ofField v "sources"
  let sinks ← KindSet.ofField v "sinks"
  ExploitabilityPattern.make code effectSources sources sinks

/-- Reads the pattern of the rule with code `code`.  Its shape is that of the first set of members
which is there: effect sources, then sources with sinks, then multi-sources with partial sinks. -/
def patternOfJson (code : Int64) (v : Json) : Checked Pattern := do
  let has (key : String) : Bool := (v.get? key).isSome
  if has "effect_sources" then
    return .exploitability (← exploitabilityOfJson code v)
  else if has "sources" && has "sinks" then
    return .sourceSink (← sourceSinkOfJson code v)
  else if has "multi_sources" && has "partial_sinks" then
    return .multiSource (← multiSourceOfJson code v)
  else
    .error (.validation v.compact none .ruleShape)

/-- Reads a rule. -/
def ofJson (v : Json) : Checked Rule := do
  let name ← v.textField "name"
  let code ← v.integerField "code"
  let description ← v.textField "description"
  return ⟨name, code, description, ← patternOfJson code v⟩

end Rule

end TaintFlow
