import TaintFlow.Kind.Basic
import TaintFlow.Json.Basic
import TaintFlow.Text.Affix
import TaintFlow.Text.Separated

/-!
# The texts of kinds and transforms

A plain kind is written as its base.  A kind with transforms is written with the local transforms
and `@`, then the global ones and `:`, in front of its base; transforms are separated by `:`.  A
source that is a transform is written in square brackets.  Of the kinds only the named ones are read
from text, so neither `:` nor `@` may occur in what is read.
-/

namespace TaintFlow

/-- The text of a kind from those of its parts. -/
def Kind.assemble (base : String) (localTransforms globalTransforms : List String) : String :=
  (if localTransforms.isEmpty then "" else Separated.join ':' localTransforms ++ "@") ++
    (if globalTransforms.isEmpty then "" else Separated.join ':' globalTransforms ++ ":") ++ base

namespace Transform

mutual

def toText : Transform → String
  | .named name => name
  | .source base localTransforms globalTransforms =>
      "SourceAsTransform[" ++
        Kind.assemble base.toText (textsOf localTransforms) (textsOf globalTransforms) ++ "]"

/-- The texts of a list of transforms. -/
def textsOf : List Transform → List String
  | [] => []
  | t :: rest => t.toText :: textsOf rest

end

/-- The text of a list of transforms. -/
def listToText (l : List Transform) : String := Separated.join ':' (l.map toText)

/-- The JSON form of a list of transforms: the array of their texts. -/
def listToJson (l : List Transform) : Json := .array (l.map fun t => .string t.toText)

end Transform

namespace Kind

def toText (k : Kind) : String :=
  assemble k.base.toText (k.localTransforms.map Transform.toText)
    (k.globalTransforms.map Transform.toText)

/-- Reads a named kind. -/
def ofText (text : String) : Checked Kind :=
  let refuse (expected : Expectation) : Checked Kind :=
    .error (.validation text (some "kind") expected)
  if text = "" then refuse .nonemptyKind
  else if (Affix.after? "TriggeredPartial:" text).isSome then refuse .noTriggeredKind
  else if (Affix.after? "Partial:" text).isSome then refuse .noPartialKind
  else if text.toList.any fun c => c = ':' || c = '@' then refuse .noTransformKind
  else .ok (named text)

end Kind

namespace Transform

/-- Reads a transform: the source in brackets, or a name that does not begin like one. -/
def ofText (text : String) : Checked Transform := do
  if text = "" then .error (.validation text none .nonemptyTransform)
  match Affix.after? "SourceAsTransform[" text with
  | none => return .named text
  | some rest =>
      match Affix.before? "]" rest with
      | some kind => return ofKind (← Kind.ofText kind)
      | none => .error (.validation text none .sourceAsTransform)

/-- Reads the transforms between the separators of a text, of which there is at least one. -/
def listOfText (text : String) : Checked (List Transform) :=
  (Separated.split ':' text).mapM ofText

end Transform

end TaintFlow
