import TaintFlow.Kind.Basic

/-!
# Kinds in full

The text of a kind does not show where its parts begin and end.  Where that matters a kind is
written in full: every part is named, and every name is quoted.
-/

namespace TaintFlow

/-- Texts in a list. -/
def commaList (texts : List String) : String := ", ".intercalate texts

def BaseKind.detail : BaseKind → String
  | .named name => "Named(" ++ Quoted.literal name ++ ")"
  | .partialSink sink =>
      "Partial \x7b name: " ++ Quoted.literal sink.name ++ ", label: " ++
        Quoted.literal sink.label ++ " \x7d"
  | .triggeredSink sink rule =>
      "TriggeredPartial \x7b name: " ++ Quoted.literal sink.name ++ ", label: " ++
        Quoted.literal sink.label ++ ", rule_code: " ++ toString rule.toInt ++ " \x7d"

/-- A list of transforms in full, from the details of its items. -/
def Transform.assembleListDetail (items : List String) : String :=
  if items.isEmpty then "None"
  else "Some(TransformList \x7b transforms: [" ++ commaList items ++ "] \x7d)"

/-- A kind in full, from the details of its parts. -/
def Kind.assembleDetail (base : String) (localTransforms globalTransforms : List String) :
    String :=
  if localTransforms.isEmpty && globalTransforms.isEmpty then base
  else
    "Transform \x7b base: " ++ base ++
      ", local: " ++ Transform.assembleListDetail localTransforms ++
      ", global: " ++ Transform.assembleListDetail globalTransforms ++ " \x7d"

namespace Transform

mutual

def detail : Transform → String
  | .named name => "Named(" ++ Quoted.literal name ++ ")"
  | .source base localTransforms globalTransforms =>
      "SourceAsTransform(" ++
        Kind.assembleDetail base.detail (detailsOf localTransforms) (detailsOf globalTransforms) ++
        ")"

/-- The details of a list of transforms. -/
def detailsOf : List Transform → List String
  | [] => []
  | t :: rest => t.detail :: detailsOf rest

end

end Transform

def Kind.detail (k : Kind) : String :=
  assembleDetail k.base.detail (Transform.detailsOf k.localTransforms)
    (Transform.detailsOf k.globalTransforms)

/-- A set of kinds in full, from its elements in order. -/
def Kind.setDetail (kinds : List Kind) : String :=
  "\x7b" ++ commaList (kinds.map detail) ++ "\x7d"

end TaintFlow
