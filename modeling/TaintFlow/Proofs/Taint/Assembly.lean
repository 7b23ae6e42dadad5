import TaintFlow.Proofs.Taint.Filter
import TaintFlow.Taint.Json

/-!
# Taint put together in parts

An analysis that works on the methods of a program at the same time adds entries to a taint of each
part and joins the taints of the parts in the end, in any grouping.  An `Assembly` is one way to do
this.  What it says is what its entries say (`Taint.Assembly.mem_taint_iff`), and neither how they
are grouped nor how often one of them is added.  So there is one taint for a set of entries, and one
export of it (`Taint.assembly_laws`).
-/

namespace TaintFlow.Taint

/-- Adding a kind to a frame is joining with the taint that holds nothing else. -/
theorem add_eq_join (t : Taint) (frame : Frame) (kind : Kind) (origins : List String) :
    t.add frame kind origins = t.join (ofFrame frame kind origins) := by
  refine ext_facts fun f => ?_
  rw [mem_join, ofFrame, mem_add, mem_add]
  simp only [not_mem_bottom, false_or]

/-! ## Entries -/

variable {l : List Entry} {frame : Frame} {kind : Kind}

theorem held_mem_addAll_iff :
    .held frame kind ∈ bottom.addAll l ↔ ∃ origins, (frame, kind, origins) ∈ l := by
  rw [mem_addAll]
  constructor
  · rintro (absurd | ⟨⟨_, _, origins⟩, he, same | ⟨_, _, same⟩⟩)
    · exact (not_mem_bottom absurd).elim
    · cases same
      exact ⟨origins, he⟩
    · cases same
  · rintro ⟨origins, he⟩
    exact Or.inr ⟨_, he, Or.inl rfl⟩

theorem introduced_mem_addAll_iff {origin : String} :
    .introduced frame kind origin ∈ bottom.addAll l ↔
      ∃ origins, (frame, kind, origins) ∈ l ∧ origin ∈ origins := by
  rw [mem_addAll]
  constructor
  · rintro (absurd | ⟨⟨_, _, origins⟩, he, same | ⟨_, mem, same⟩⟩)
    · exact (not_mem_bottom absurd).elim
    · cases same
    · cases same
      exact ⟨origins, he, mem⟩
  · rintro ⟨origins, he, mem⟩
    exact Or.inr ⟨_, he, Or.inr ⟨origin, mem, rfl⟩⟩

/-- The origins of a kind are those of all its entries on the frame. -/
theorem mem_origins_addAll_iff {held : SortedSet String}
    (hheld : (bottom.addAll l).origins? frame kind = some held) {origin : String} :
    origin ∈ held ↔ ∃ origins, (frame, kind, origins) ∈ l ∧ origin ∈ origins := by
  rw [← introduced_mem_addAll_iff, introduced_mem_iff, hheld]
  simp only [Option.some.injEq, exists_eq_left']

/-- The frames are those of the entries. -/
theorem mem_frameList_addAll_iff :
    frame ∈ (bottom.addAll l).frameList ↔ ∃ kind origins, (frame, kind, origins) ∈ l := by
  rw [mem_frameList_iff]
  exact exists_congr fun kind => held_mem_addAll_iff

/-! ## Assemblies -/

/-- How a taint is put together. -/
inductive Assembly where
  /-- The entries of a list are added one after the other. -/
  | added (l : List Entry)
  /-- Two parts are put together on their own, and joined then. -/
  | joined (left right : Assembly)

namespace Assembly

/-- The entries of all parts, in order. -/
def entries : Assembly → List Entry
  | .added l => l
  | .joined left right => left.entries ++ right.entries

/-- The taint that is put together. -/
def taint : Assembly → Taint
  | .added l => bottom.addAll l
  | .joined left right => left.taint.join right.taint

/-- The parts say together what they would say if all entries were added to one taint. -/
theorem mem_taint_iff {a : Assembly} {f : Fact} : f ∈ a.taint ↔ f ∈ bottom.addAll a.entries := by
  induction a with
  | added l => exact Iff.rfl
  | joined left right ihLeft ihRight =>
      rw [taint, mem_join, ihLeft, ihRight, entries]
      simp only [mem_addAll, not_mem_bottom, false_or, List.mem_append, or_and_right, exists_or]

/-- Which entries there are decides what the taint is. -/
theorem taint_eq {a : Assembly} (same : ∀ e, e ∈ a.entries ↔ e ∈ l) :
    a.taint = bottom.addAll l := by
  refine ext_facts fun f => ?_
  simp only [mem_taint_iff, mem_addAll, same]

end Assembly

/-! ## The laws -/

/-- A taint to which entries were added holds a kind on a frame when an entry does, with all origins
of such entries and no others.  Every assembly of the same entries, in whatever order, grouping and
number, gives the same taint and the same export, with the arrays in the same order.  Adding an
entry is joining with its taint. -/
theorem assembly_laws :
    (∀ (l : List Entry) (frame : Frame),
      (frame ∈ (bottom.addAll l).frameList ↔ ∃ kind origins, (frame, kind, origins) ∈ l) ∧
      ∀ kind : Kind,
        ((∃ held, (bottom.addAll l).origins? frame kind = some held) ↔
          ∃ origins, (frame, kind, origins) ∈ l) ∧
        ∀ held, (bottom.addAll l).origins? frame kind = some held → ∀ origin,
          (origin ∈ held ↔ ∃ origins, (frame, kind, origins) ∈ l ∧ origin ∈ origins)) ∧
    (∀ (a : Assembly) (l : List Entry), (∀ e, e ∈ a.entries ↔ e ∈ l) →
      a.taint = bottom.addAll l ∧
        ∀ mode : OriginExport, a.taint.toJson mode = (bottom.addAll l).toJson mode) ∧
    ∀ (t : Taint) (frame : Frame) (kind : Kind) (origins : List String),
      t.add frame kind origins = t.join (ofFrame frame kind origins) := by
  refine ⟨fun l frame => ⟨mem_frameList_addAll_iff, fun kind => ⟨held_mem_addAll_iff, ?_⟩⟩, ?_,
    add_eq_join⟩
  · intro held hheld origin
    exact mem_origins_addAll_iff hheld
  · intro a l same
    rw [Assembly.taint_eq same]
    exact ⟨rfl, fun _ => rfl⟩

/-- A named kind on the frame to which nothing is attached, as an entry. -/
def sampleEntry (name : String) (origins : List String) : Entry := (.default, .named name, origins)

/-- Two parts, one of which has an entry twice. -/
def sampleAssembly : Assembly :=
  .joined (.added [sampleEntry "B" [], sampleEntry "A" ["n"]])
    (.added [sampleEntry "A" ["m"], sampleEntry "A" ["m"]])

/-- The origins of the two parts stand together in the export, and the kinds in their order. -/
theorem assembly_laws_samples :
    sampleAssembly.taint =
      bottom.addAll [sampleEntry "A" ["m"], sampleEntry "A" ["n"], sampleEntry "B" []] ∧
    (∃ held, sampleAssembly.taint.origins? .default (.named "A") = some held ∧
      held.toList = ["m", "n"] ∧ "n" ∈ held) ∧
    sampleAssembly.taint.toJson .always = .array [.object [
      ("call_info", .object [("call_kind", .string "Declaration")]),
      ("kinds", .array [
        .object [("kind", .string "A"), ("origins", .array [.string "m", .string "n"])],
        .object [("kind", .string "B")]])]] := by
  obtain ⟨facts, same, _⟩ := assembly_laws
  obtain ⟨taint, exports⟩ := same sampleAssembly
    [sampleEntry "A" ["m"], sampleEntry "A" ["n"], sampleEntry "B" []]
    (by simp [sampleAssembly, Assembly.entries]; tauto)
  obtain ⟨_, kinds⟩ := facts [sampleEntry "A" ["m"], sampleEntry "A" ["n"], sampleEntry "B" []]
    .default
  obtain ⟨_, origins⟩ := kinds (.named "A")
  refine ⟨taint, ?_, ?_⟩
  · rw [taint]
    exact ⟨_, rfl, rfl, (origins _ rfl "n").2 ⟨["n"], by simp [sampleEntry], by simp⟩⟩
  · rw [exports]
    rfl

end TaintFlow.Taint
