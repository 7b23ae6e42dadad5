import TaintFlow.Failure

/-!
# Events

What the library reports beside its results: warnings, errors and the trace of rule lookups, in the
order in which they happen.  `Logged` pairs a result with its events, and `Attempt` lets a logged
operation fail while the events before the failure are kept.
-/

namespace TaintFlow

inductive Severity where
  | warning
  | error
  | trace
  deriving DecidableEq

/-- A reportable event.  Kinds and rules are given as they print. -/
inductive Event where
  /-- A path refers to an argument that the call does not have. -/
  | unknownArgument (position : Nat)
  /-- A rule was dropped because an earlier one has its code. -/
  | duplicateRule (code : Int) (dropped kept : String)
  | searchingRules (source sink : String)
  | foundRules (source sink : String)
  | searchingPartiallyFulfilled (source sink : String)
  | searchingFulfilled (effectSource sink : String)
  | unusedKind (kind : String)
  /-- The collapse depth was lowered to the smaller of the two path sizes. -/
  | collapseDepthLowered (depth input output : Nat)
  /-- The widening height is larger than another bound. -/
  | wideningAbove (height : Nat) (bound : String) (size : Nat)
  deriving DecidableEq

namespace Event

def severity : Event → Severity
  | .unknownArgument .. | .unusedKind .. | .collapseDepthLowered .. | .wideningAbove .. => .warning
  | .duplicateRule .. => .error
  | .searchingRules .. | .foundRules .. | .searchingPartiallyFulfilled ..
  | .searchingFulfilled .. => .trace

/-- The wording of an event. -/
def message : Event → String
  | .unknownArgument position =>
      "Invalid argument index " ++ toString position ++
        " provided for index_from_value_of path element."
  | .duplicateRule code dropped kept =>
      "A rule for code " ++ toString code ++ " already exists! Duplicate rules are:\n" ++ dropped ++
        "\n" ++ kept
  | .searchingRules source sink =>
      "Searching for source-sink rules matching source: " ++ source ++ " -> sink: " ++ sink
  | .foundRules source sink => "Found rule match for: " ++ source ++ "->" ++ sink
  | .searchingPartiallyFulfilled source sink =>
      "Searching for partially fulfilled exploitability rules matching source: " ++ source ++
        " -> sink: " ++ sink
  | .searchingFulfilled effectSource sink =>
      "Searching for fulfilled exploitability rules matching effect source: " ++ effectSource ++
        " -> sink: " ++ sink
  | .unusedKind kind =>
      "Kind `" ++ kind ++ "` is not used in any rule! You may want to add one for it."
  | .collapseDepthLowered depth input output =>
      "propagation_max_collapse_depth (" ++ toString depth ++
        ") is greater than propagation_max_input_path_size (" ++ toString input ++
        ") and/or propagation_max_output_path_size (" ++ toString output ++
        "). Updating propagation_max_collapse_depth to the minimum of the two."
  | .wideningAbove height bound size =>
      "source_sink_tree_widening_height (" ++ toString height ++ ") > " ++ bound ++ " (" ++
        toString size ++ "). The final model may not be as expected."

end Event

/-- A result with the events of its computation, oldest first. -/
structure Logged (α : Type) where
  value : α
  events : List Event

namespace Logged

instance : Monad Logged where
  pure a := ⟨a, []⟩
  bind x f := ⟨(f x.value).value, x.events ++ (f x.value).events⟩

/-- Reports an event. -/
def report (event : Event) : Logged Unit := ⟨(), [event]⟩

variable {α β : Type}

@[ext] theorem ext {x y : Logged α} (value : x.value = y.value) (events : x.events = y.events) :
    x = y := by
  cases x
  cases y
  simp_all

@[simp] theorem value_pure (a : α) : (pure a : Logged α).value = a := rfl

@[simp] theorem events_pure (a : α) : (pure a : Logged α).events = [] := rfl

@[simp] theorem value_bind (x : Logged α) (f : α → Logged β) :
    (x >>= f).value = (f x.value).value := rfl

@[simp] theorem events_bind (x : Logged α) (f : α → Logged β) :
    (x >>= f).events = x.events ++ (f x.value).events := rfl

@[simp] theorem events_report (event : Event) : (report event).events = [event] := rfl

instance : LawfulMonad Logged := LawfulMonad.mk' Logged
  (fun x => by ext1 <;> simp [Functor.map])
  (fun a f => by ext1 <;> simp)
  (fun x f g => by ext1 <;> simp)

end Logged

/-- A logged operation that can fail. -/
abbrev Attempt := ExceptT Failure Logged

namespace Attempt

/-- Reports an event. -/
def report (event : Event) : Attempt Unit := ExceptT.lift (Logged.report event)

/-- An operation that reports nothing. -/
def ofChecked {α : Type} (x : Checked α) : Attempt α := ExceptT.mk ⟨x, []⟩

/-- An operation that does not fail. -/
def ofLogged {α : Type} (x : Logged α) : Attempt α := ExceptT.lift x

end Attempt

end TaintFlow
