import TaintFlow.Issue.Groups
import TaintFlow.Issue.Text
import TaintFlow.RuleSet.Coverage
import TaintFlow.Proofs.Checked
import TaintFlow.Proofs.RuleSet.Kept
import TaintFlow.Proofs.RuleSet.Flows
import TaintFlow.Proofs.RuleSet.Lookup
import TaintFlow.Proofs.Rule.Coverage
import TaintFlow.Proofs.RuleSet.Coverage
import TaintFlow.Proofs.Location.Segment
import TaintFlow.Proofs.Location.Printable
import TaintFlow.Proofs.Frame.Run
import TaintFlow.Proofs.Json.Reader
import TaintFlow.Proofs.Kind.Text
import TaintFlow.Proofs.Kind.Json
import TaintFlow.Proofs.Taint.Facts
import TaintFlow.Proofs.Taint.Lattice
import TaintFlow.Proofs.Issue.Lattice
import TaintFlow.Proofs.Issue.Groups
import TaintFlow.Proofs.Issue.Whole
import TaintFlow.Proofs.RuleSet.Matching
import TaintFlow.Proofs.Location.Layout
import TaintFlow.Proofs.Rule.RoundTrip
import TaintFlow.Proofs.Refusal
import TaintFlow.Proofs.Frame.Json
import TaintFlow.Proofs.Issue.Filter
import TaintFlow.Proofs.Location.Join
import TaintFlow.Proofs.RuleSet.Unused
import TaintFlow.Proofs.Taint.Assembly
import TaintFlow.Proofs.Frame.Contract
import TaintFlow.Proofs.Location.Truncation
import TaintFlow.Proofs.RuleSet.Classification
import TaintFlow.Proofs.RuleSet.TransformForms
import TaintFlow.Proofs.Location.Constants
import TaintFlow.Proofs.Kind.Export
import TaintFlow.Proofs.Order.Keys
import TaintFlow.Proofs.Heuristics
