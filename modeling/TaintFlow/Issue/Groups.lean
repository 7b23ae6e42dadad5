import TaintFlow.Issue.Basic

/-!
# Groups of issues

Issues are collected by group key, in the order in which the keys first appear.  Each group starts
at bottom and every issue is joined into the group of its key.
-/

namespace TaintFlow

/-- Joined issues by group key. -/
abbrev IssueGroups := List (GroupKey × Issue)

namespace IssueGroups

/-- Joins an issue into the group of its key. -/
def add : IssueGroups → Issue → Checked IssueGroups
  | [], i => return [(i.groupKey, ← Issue.bottom.join i)]
  | (key, group) :: rest, i =>
      if key = i.groupKey then return (key, ← group.join i) :: rest
      else return (key, group) :: (← add rest i)

/-- The groups of a list of issues. -/
def ofList (issues : List Issue) : Checked IssueGroups := issues.foldlM add []

/-- The joined issue of a key. -/
def get? (groups : IssueGroups) (key : GroupKey) : Option Issue := groups.lookup key

end IssueGroups

end TaintFlow
