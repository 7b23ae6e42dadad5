import TaintFlow.Issue.Callee
import TaintFlow.Rule.Basic
import TaintFlow.Taint.Json

/-!
# Issues

An issue says that sources meet sinks under a rule, at a position.  Issues with the same group key
are about the same rule at the same call, and are joined into one.  An issue is bottom as soon as
one of its parts is missing.  Combining two issues that are not bottom needs equal group keys.
-/

namespace TaintFlow

/-- What identifies a group of issues. -/
structure GroupKey where
  ruleCode : Option Int64
  callee : Callee
  sinkIndex : UInt32
  deriving DecidableEq

/-- How group keys are hashed: where a hasher starts, what each part of a key does to its state, and
the hash that it ends with. -/
structure GroupHasher (σ : Type) where
  start : σ
  ruleCode : Option Int64 → σ → σ
  callee : Callee → σ → σ
  sinkIndex : UInt32 → σ → σ
  finish : σ → UInt64

/-- Sources that meet sinks. -/
structure Issue where
  sources : Taint
  sinks : Taint
  rule : Option Rule
  callee : Callee
  /-- The place of the sink among the calls of its method, in textual order. -/
  sinkIndex : UInt32
  position : Option Position
  deriving DecidableEq

namespace Issue

/-- The issue of a rule at a position. -/
def make (sources sinks : Taint) (rule : Rule) (callee : Callee) (sinkIndex : UInt32)
    (position : Position) : Issue :=
  ⟨sources, sinks, some rule, callee, sinkIndex, some position⟩

/-- No issue. -/
def bottom : Issue := ⟨.bottom, .bottom, none, .returnValue, 0, none⟩

/-- Is a part missing? -/
def isBottom (i : Issue) : Bool :=
  i.sources.isBottom || i.sinks.isBottom || i.rule.isNone || i.position.isNone

def ruleCode (i : Issue) : Option Int64 := i.rule.map Rule.code

def groupKey (i : Issue) : GroupKey := ⟨i.ruleCode, i.callee, i.sinkIndex⟩

/-- Do two issues belong to the same group?  Sources, sinks and positions do not matter. -/
def sameGroup (i j : Issue) : Bool :=
  i.ruleCode = j.ruleCode && i.callee = j.callee && i.sinkIndex = j.sinkIndex

theorem sameGroup_iff {i j : Issue} : i.sameGroup j = true ↔ i.groupKey = j.groupKey := by
  simp [sameGroup, groupKey, and_assoc]

/-- The hash of the group to which an issue belongs. -/
def groupHash {σ : Type} (h : GroupHasher σ) (i : Issue) : UInt64 :=
  h.finish (h.sinkIndex i.sinkIndex (h.callee i.callee (h.ruleCode i.ruleCode h.start)))

/-- No more is hashed than what makes a group, so the issues of a group have one hash. -/
theorem groupHash_eq_of_sameGroup {σ : Type} {h : GroupHasher σ} {i j : Issue}
    (same : i.sameGroup j = true) : i.groupHash h = j.groupHash h := by
  have keys := sameGroup_iff.1 same
  simp only [groupKey, GroupKey.mk.injEq] at keys
  obtain ⟨ruleCode, callee, sinkIndex⟩ := keys
  rw [groupHash, groupHash, ruleCode, callee, sinkIndex]

/-- Fails unless two issues belong to the same group. -/
def requireSameGroup (i j : Issue) : Checked Unit :=
  if i.sameGroup j then .ok () else .error (.contract .issuesOfGroups)

/-- The issue without sources and sinks.  Its rule, callee and position stay. -/
def emptied (i : Issue) : Issue := { i with sources := .bottom, sinks := .bottom }

/-- There is no issue above all others. -/
def top : Checked Issue := .error (.unsupported .issueTop)

/-- No issue can be raised above all others. -/
def raisedToTop (_ : Issue) : Checked Issue := .error (.unsupported .issueSetToTop)

/-- Keeps the sources that pass a test.  Without sources the issue is emptied. -/
def filterSources (i : Issue) (p : Taint.Test) : Issue :=
  let i := { i with sources := i.sources.filter p }
  if i.sources.isBottom then i.emptied else i

/-- Keeps the sinks that pass a test.  Without sinks the issue is emptied. -/
def filterSinks (i : Issue) (p : Taint.Test) : Issue :=
  let i := { i with sinks := i.sinks.filter p }
  if i.sinks.isBottom then i.emptied else i

/-- Does `j` have all sources and sinks of `i`? -/
def leq (i j : Issue) : Checked Bool := do
  if i.isBottom then
    return true
  else if j.isBottom then
    return false
  else
    i.requireSameGroup j
    return i.sources.leq j.sources && i.sinks.leq j.sinks

/-- Does each of two issues have all sources and sinks of the other? -/
def equals (i j : Issue) : Checked Bool := do
  if ← i.leq j then j.leq i else return false

/-- Combines the taints of two issues that have all their parts. -/
def unite (combine : Taint → Taint → Taint) (i j : Issue) : Checked Issue := do
  if j.isBottom then
    return i
  else if i.isBottom then
    return j
  else
    i.requireSameGroup j
    return { i with sources := combine i.sources j.sources, sinks := combine i.sinks j.sinks }

/-- Restricts the taints of an issue to another one.  If that leaves no sources or no sinks, the
issue is emptied. -/
def restrict (combine : Taint → Taint → Taint) (i j : Issue) : Checked Issue := do
  if i.isBottom then
    return i
  else if j.isBottom then
    return i.emptied
  else
    i.requireSameGroup j
    let k := { i with sources := combine i.sources j.sources, sinks := combine i.sinks j.sinks }
    return if k.sources.isBottom || k.sinks.isBottom then k.emptied else k

/-- The sources and sinks of either issue, at the position of the first that is not bottom. -/
def join (i j : Issue) : Checked Issue := unite Taint.join i j

def widen (i j : Issue) : Checked Issue := unite Taint.widen i j

/-- The sources and sinks of both issues. -/
def meet (i j : Issue) : Checked Issue := restrict Taint.meet i j

def narrow (i j : Issue) : Checked Issue := restrict Taint.narrow i j

/-- The code of the rule and the position are null where they are missing. -/
def toJson (mode : OriginExport) (i : Issue) : Json :=
  .object [
    ("callee", i.callee.toJson),
    ("position", (i.position.map Position.toJson).getD .null),
    ("rule", (i.ruleCode.map fun code => .integer code.toInt).getD .null),
    ("sink_index", .integer i.sinkIndex.toNat),
    ("sinks", i.sinks.toJson mode),
    ("sources", i.sources.toJson mode)]

end Issue

end TaintFlow
