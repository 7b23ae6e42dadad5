import TaintFlow.Proofs.Location.Printable
import TaintFlow.Proofs.Location.Truncation

/-!
# Printing resolved paths

Resolution puts the constants of a call into a path, and a constant is any text of the analyzed
program.  As the name of an index it is printed as it is, between square brackets, and the brackets
give a meaning of their own to a star, to a text in angle brackets and to further brackets.  So a
path that was read can be printed after its resolution, and read back, exactly when each constant
that it refers to can be the name of an index (`resolved_round_trip_iff`).  Arguments without a
known constant do no harm: they resolve to any index, which is printable.
-/

namespace TaintFlow

variable {constants : List (Option String)}

/-! ## Constants that can be printed -/

namespace Path

/-- Every known constant to which a path refers is the name of a printable index: it is not empty,
has no square brackets, is no star and does not stand in angle brackets. -/
def ConstantsPrintable (constants : List (Option String)) (p : Path) : Prop :=
  ∀ position, .valueOf position ∈ p → ∀ value,
    constants[position.val]? = some (some value) → (Element.index value).Printable

end Path

/-- A printable element stays printable unless it refers to a constant that is no printable index.
-/
theorem Element.printable_resolved_iff {e : Element} (printable : e.Printable) :
    (e.resolved constants).Printable ↔ ∀ position, valueOf position = e → ∀ value,
      constants[position.val]? = some (some value) → (index value).Printable := by
  cases e with
  | field | index | anyIndex =>
      refine iff_of_true printable fun _ other => ?_
      cases other
  | valueOf position =>
      rw [resolved, indexOfConstant]
      constructor
      · intro stays _ same value known
        cases same
        rw [known] at stays
        exact stays
      · intro known
        split
        next value found => exact known position rfl value found
        next => trivial
        next => trivial

theorem Path.printable_resolve_iff {p : Path} (printable : p.Printable) :
    (p.resolve constants).value.Printable ↔ p.ConstantsPrintable constants := by
  rw [value_resolve, Printable, List.forall_mem_map]
  constructor
  · intro stays position he
    exact (Element.printable_resolved_iff (printable _ he)).1 (stays _ he) position rfl
  · intro known e he
    refine (Element.printable_resolved_iff (printable e he)).2 ?_
    rintro position rfl
    exact known position he

/-! ## The round trip after resolution -/

/-- A path that was read is read back from what it prints as after its resolution exactly when the
constants that it refers to are printable.  The same holds behind every root that can be
configured. -/
theorem resolved_round_trip_iff {text : String} {p : Path} (read : Path.ofText text = .ok p)
    (constants : List (Option String)) :
    (Path.ofText (p.resolve constants).value.toText = .ok (p.resolve constants).value ↔
      p.ConstantsPrintable constants) ∧
    ∀ a : AccessPath, a.root ≠ .canonicalThis → a.path = p →
      (AccessPath.ofText (a.resolved constants).toText = .ok (a.resolved constants) ↔
        p.ConstantsPrintable constants) := by
  have stays : (p.resolve constants).value.Printable ↔ p.ConstantsPrintable constants :=
    Path.printable_resolve_iff (Path.printable_of_ofText read)
  refine ⟨(Path.ofText_toText_iff _).trans stays, ?_⟩
  rintro a root rfl
  rw [AccessPath.ofText_toText_iff, ← stays]
  exact and_iff_right root

/-- A constant with points and spaces is printed as an index, and so is an argument without one. -/
theorem resolved_round_trip_iff_samples :
    Path.ofText "x[<Argument(0)>][<Argument(1)>]" = .ok [.field "x", .valueOf 0, .valueOf 1] ∧
      Path.ConstantsPrintable [some "a. b", none] [.field "x", .valueOf 0, .valueOf 1] ∧
      (Path.resolve [some "a. b", none] [.field "x", .valueOf 0, .valueOf 1]).value.toText =
        ".x[a. b][*]" ∧
      Path.ofText ".x[a. b][*]" = .ok [.field "x", .index "a. b", .anyIndex] := by
  have read : Path.ofText "x[<Argument(0)>][<Argument(1)>]" =
      .ok [.field "x", .valueOf 0, .valueOf 1] := rfl
  have known : Path.ConstantsPrintable [some "a. b", none]
      [.field "x", .valueOf 0, .valueOf 1] := by
    intro position he value known
    rcases List.mem_cons.1 he with clash | he
    · cases clash
    · rcases List.mem_pair.1 he with same | same
      · cases same
        cases known
        decide
      · cases same
        cases known
  exact ⟨read, known, rfl, (resolved_round_trip_iff read [some "a. b", none]).1.2 known⟩

/-- A star that is the constant of an argument is read as any index, an argument in angle brackets
as a reference to it, and an empty constant or one with a bracket is not read at all. -/
theorem resolved_path_misread :
    Path.ofText "[<Argument(0)>]" = .ok [.valueOf 0] ∧
      (Path.resolve [some "*"] [.valueOf 0]).value = [.index "*"] ∧
      Path.ofText (Path.resolve [some "*"] [.valueOf 0]).value.toText = .ok [.anyIndex] ∧
      Path.ofText (Path.resolve [some "*"] [.valueOf 0]).value.toText ≠
        .ok (Path.resolve [some "*"] [.valueOf 0]).value ∧
      Path.ofText (Path.resolve [some "<Argument(1)>"] [.valueOf 0]).value.toText =
        .ok [.valueOf 1] ∧
      (∃ e, Path.ofText (Path.resolve [some ""] [.valueOf 0]).value.toText = .error e) ∧
      ∃ e, Path.ofText (Path.resolve [some "a]b"] [.valueOf 0]).value.toText = .error e := by
  have misread : Path.ofText (Path.resolve [some "*"] [.valueOf 0]).value.toText =
      .ok [.anyIndex] := rfl
  refine ⟨rfl, rfl, misread, fun same => ?_, rfl, ⟨_, rfl⟩, ⟨_, rfl⟩⟩
  rw [misread] at same
  cases same

end TaintFlow
