import TaintFlow.Json.Basic

/-!
# Failures

Every operation of this library that can fail says why with a `Failure`.  There are three causes: a
value that was read does not have the expected form, an operation is not supported, or a caller
broke the contract of an operation.  `Expectation` names the forms, `Contract` the contracts, and
each has one function that words it.
-/

namespace TaintFlow

/-- What a reader expected. -/
inductive Expectation where
  /-- An object. -/
  | object
  | string
  | integer
  | boolean
  | nonemptyArray
  | nullOrArray
  /-- No members but these. -/
  | onlyFields (names : List String)
  /-- An argument root that is written with its position. -/
  | argumentRoot (text : String)
  | root
  | nonemptyIndex
  /-- An argument root between the angle brackets of an index. -/
  | valueOf (index : String)
  | closingBracket
  | flatIndex
  | nonemptyField
  | bracketAtEnd
  | nonemptyAccessPath
  | frameKind
  | calleeOnCallSite
  | nonemptyKind
  | noTriggeredKind
  | noPartialKind
  | noTransformKind
  | stringOrObject
  | nonemptyTransform
  | sourceAsTransform
  | nonemptyTransforms
  | ruleShape
  | twoLabels
  /-- No member of a record has this name. -/
  | unknownField (name : String) (fields : List String)
  | missingField (name : String)
  /-- A value of another JSON type than the wanted one. -/
  | wrongType (found : Json) (wanted : String)
  /-- An integer outside the range of the wanted type. -/
  | outOfRange (found : Int) (wanted : String)
  /-- An array that ends before the element at `index`, which a record needs. -/
  | tooShort (index : Nat) (record : String) (size : Nat)
  /-- An array with more elements than a record has fields. -/
  | tooLong (length : Nat)

/-- What a value of the wrong type is called. -/
def Json.description : Json → String
  | .null => "null"
  | .bool b => "boolean `" ++ (Json.bool b).compact ++ "`"
  | .integer n => "integer `" ++ toString n ++ "`"
  | .point d => "floating point `" ++ d.toText ++ "`"
  | .string s => "string " ++ Quoted.literal s
  | .array _ => "sequence"
  | .object _ => "map"

/-- The wording of an expectation. -/
def Expectation.message : Expectation → String
  | .object => "non-null object"
  | .string => "string"
  | .integer => "integer"
  | .boolean => "boolean"
  | .nonemptyArray => "non-empty array"
  | .nullOrArray => "null or array"
  | .onlyFields names => "fields " ++ ", ".intercalate names
  | .argumentRoot text => "`Argument(<number>)` for access path root, got `" ++ text ++ "`"
  | .root =>
      "valid access path root (`Return`, `Argument(...)`, `Leaf`, `Anchor`, `Producer`, " ++
        "`call-chain`, `call-chain-exploitability` or `call-effect-intent`)"
  | .nonemptyIndex => "non-empty index for path element, got ``"
  | .valueOf index => "`[<Argument(<number>)>]` for value_of path element, got `" ++ index ++ "`"
  | .closingBracket => "matching `]` for index path element"
  | .flatIndex => "index path elements without nested `[`"
  | .nonemptyField => "non-empty field for path element"
  | .bracketAtEnd => "`]` only as the end of an index path element"
  | .nonemptyAccessPath => "non-empty string for access path"
  | .frameKind =>
      "CallKind should be a [PropagationWithTrace:][Declaration|Origin|CallSite], " ++
        "or just Propagation"
  | .calleeOnCallSite => "a callee only on call site frames with a port"
  | .nonemptyKind => "non-empty kind"
  | .noTriggeredKind => "Non-TriggeredPartial Kind"
  | .noPartialKind => "Non-Partial Kind"
  | .noTransformKind => "Non-Transform Kind"
  | .stringOrObject => "string or object"
  | .nonemptyTransform => "non-empty transform name"
  | .sourceAsTransform => "Could not be parsed as a valid SourceAsTransform"
  | .nonemptyTransforms => "non-empty array of transforms"
  | .ruleShape =>
      "keys: sources+[transforms+]sinks or multi_sources+partial_sinks or " ++
        "effect_sources+sources+sinks"
  | .twoLabels => "exactly 2 labels (as JSON object keys) in the multi_sources object"
  | .unknownField name fields =>
      "unknown field `" ++ name ++ "`, expected one of " ++
        ", ".intercalate (fields.map fun field => "`" ++ field ++ "`")
  | .missingField name => "missing field `" ++ name ++ "`"
  | .wrongType found wanted => "invalid type: " ++ found.description ++ ", expected " ++ wanted
  | .outOfRange found wanted =>
      "invalid value: integer `" ++ toString found ++ "`, expected " ++ wanted
  | .tooShort index record size =>
      "invalid length " ++ toString index ++ ", expected struct " ++ record ++ " with " ++
        toString size ++ " elements"
  | .tooLong length => "invalid length " ++ toString length ++ ", expected fewer elements in array"

/-- A broken contract: the state or the argument that an operation refuses.  Names of locations,
kinds and callees are given as they print. -/
inductive Contract where
  /-- An argument position that is the encoding of another root, or of none. -/
  | argumentPosition (position : Nat)
  /-- The position of a root that is not an argument. -/
  | positionOfRoot (root : String)
  /-- An index by the value of a root that is not an argument. -/
  | valueOfRoot (root : String)
  /-- The position of an element that is not indexed by the value of an argument. -/
  | positionOfElement (element : String)
  /-- The removal of an element from an empty path. -/
  | removalFromEmptyPath
  | joinOfRoots
  | frameKindEncoding (encoding : Nat)
  /-- A trace added to a frame that is no bare stage. -/
  | traceOn (flags : List String)
  | calleeWithoutPort (callee : String)
  | calleeOffCallSite (callee : String) (kind : String)
  | propagatedPropagation
  | anchorLeafWithoutCallee
  | triggeredKind (kind : String)
  | ruleWithoutSources (code : Int)
  | ruleWithoutSinks (code : Int)
  | ruleWithoutEffectSources (code : Int)
  | ruleLabels (code : Int)
  | labelWithoutSources
  | ruleWithoutPartialSinks
  | completeSinkAsPartial
  | issuesOfGroups
  | unnamedEffectSource (source : String)
  | sinkWithoutSource (sink : String)
  deriving DecidableEq

/-- The wording of a broken contract, for those that have one. -/
def Contract.message? : Contract → Option String
  | .argumentPosition position =>
      some ("parameter position " ++ toString position ++ " collides with a sentinel root")
  | .positionOfRoot root => some (root ++ " is not an argument root")
  | .valueOfRoot root => some ("index_from_value_of expects an argument, got " ++ root)
  | .positionOfElement element =>
      some (element ++ " is not an index_from_value_of path element")
  | .removalFromEmptyPath => some "pop_back on an empty path"
  | .joinOfRoots => some "cannot join access paths with different roots"
  | .frameKindEncoding encoding =>
      some ("invalid call kind encoding 0b" ++ String.ofList (Nat.toDigits 2 encoding))
  | .traceOn flags =>
      some ("invalid base kind " ++ " | ".intercalate flags ++ " for propagation with trace")
  | .calleeWithoutPort callee => some ("callee `" ++ callee ++ "` requires a callee port")
  | .calleeOffCallSite callee kind =>
      some ("callee `" ++ callee ++ "` requires a call site frame, got " ++ kind)
  | .propagatedPropagation => some "cannot propagate a propagation frame"
  | .anchorLeafWithoutCallee => some "anchor leaf propagated without a callee and port"
  | .triggeredKind kind => some (kind ++ " is not a partial kind")
  | .ruleWithoutSources code => some ("rule " ++ toString code ++ " has no source kinds")
  | .ruleWithoutSinks code => some ("rule " ++ toString code ++ " has no sink kinds")
  | .ruleWithoutEffectSources code => some ("rule " ++ toString code ++ " has no effect sources")
  | .ruleLabels code => some ("rule " ++ toString code ++ " needs exactly 2 labels")
  | .labelWithoutSources => none
  | .ruleWithoutPartialSinks => none
  | .completeSinkAsPartial => none
  | .issuesOfGroups => some "cannot combine issues of different groups"
  | .unnamedEffectSource source => some ("effect source " ++ source ++ " is not named")
  | .sinkWithoutSource sink => some ("sink " ++ sink ++ " has no source-as-transform")

/-- Operations that a lattice may offer and this one does not. -/
inductive Unsupported where
  | issueTop
  | issueSetToTop
  deriving DecidableEq

/-- The name of an operation that is not supported. -/
def Unsupported.name : Unsupported → String
  | .issueTop => "Issue::top"
  | .issueSetToTop => "Issue::set_to_top"

/-- Why an operation failed. -/
inductive Failure where
  /-- A value does not have the expected form.  `field` names the member that is at fault. -/
  | validation (value : String) (field : Option String) (expected : Expectation)
  | unsupported (operation : Unsupported)
  | contract (broken : Contract)

/-- The wording of a failure, for those that have one. -/
def Failure.message? : Failure → Option String
  | .validation value field expected =>
      let place :=
        match field with
        | none => "top level"
        | some name => "`" ++ name ++ "`"
      some ("Error parsing JSON at " ++ place ++ ", expected " ++ expected.message ++ ", got `" ++
        value ++ "`")
  | .unsupported operation => some ("Unsupported operation: " ++ operation.name)
  | .contract broken => broken.message?

/-- Is this the failure of a reader? -/
def Failure.isValidation : Failure → Bool
  | .validation .. => true
  | _ => false

/-- The result of an operation that can fail. -/
abbrev Checked := Except Failure

end TaintFlow
