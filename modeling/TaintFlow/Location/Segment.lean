import TaintFlow.Failure
import TaintFlow.Text.Affix

/-!
# Segments of the text of a path

The text of a path is a run of segments.  A segment is the name of a field, or an index in square
brackets.  Points stand between two fields, and may also stand at the beginning, at the end and
behind an index.

`Segment.split` takes a text apart.  It walks over the text once, and `Scan` is what it remembers.
-/

namespace TaintFlow

/-- A part of the text of a path. -/
inductive Segment where
  | field (name : String)
  /-- An index, without its brackets. -/
  | index (inner : String)
  deriving DecidableEq

namespace Segment

def toText : Segment → String
  | .field name => name
  | .index inner => "[" ++ inner ++ "]"

/-- A text as one segment: an index if it stands in brackets. -/
def ofText (text : String) : Segment :=
  match Affix.between? "[" "]" text with
  | some inner => .index inner
  | none => .field text

/-- Where a walk over the text of a path stands.  The characters of an open segment are kept in
reverse. -/
inductive Scan where
  /-- At the beginning of a segment. -/
  | start
  /-- Behind an index, where a point may follow. -/
  | behindIndex
  | inField (reversed : List Char)
  | inIndex (reversed : List Char)

/-- Walks over the rest of a text. -/
def scan : Scan → List Char → Except Expectation (List Segment)
  | .start, [] | .behindIndex, [] => .ok []
  | .inField name, [] => .ok [.field (String.ofList name.reverse)]
  | .inIndex _, [] => .error .closingBracket
  | .start, c :: rest =>
      if c = '.' then .error .nonemptyField
      else if c = '[' then scan (.inIndex []) rest
      else if c = ']' then .error .bracketAtEnd
      else scan (.inField [c]) rest
  | .behindIndex, c :: rest =>
      if c = '.' then scan .start rest
      else if c = '[' then scan (.inIndex []) rest
      else if c = ']' then .error .bracketAtEnd
      else scan (.inField [c]) rest
  | .inField name, c :: rest =>
      if c = '.' then do return .field (String.ofList name.reverse) :: (← scan .start rest)
      else if c = '[' then do
        return .field (String.ofList name.reverse) :: (← scan (.inIndex []) rest)
      else if c = ']' then .error .bracketAtEnd
      else scan (.inField (c :: name)) rest
  | .inIndex inner, c :: rest =>
      if c = ']' then do return .index (String.ofList inner.reverse) :: (← scan .behindIndex rest)
      else if c = '[' then .error (if ']' ∈ rest then .flatIndex else .closingBracket)
      else scan (.inIndex (c :: inner)) rest

/-- Takes the text of a path apart.  One point at the beginning is optional. -/
def split (text : String) : Checked (List Segment) :=
  let segments :=
    match text.toList with
    | '.' :: rest => scan .start rest
    | cs => scan .start cs
  match segments with
  | .ok segments => .ok segments
  | .error expected => .error (.validation text none expected)

end Segment

end TaintFlow
