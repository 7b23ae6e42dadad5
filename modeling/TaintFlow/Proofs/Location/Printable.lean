import TaintFlow.Location.AccessPath
import TaintFlow.Proofs.Location.Layout
import TaintFlow.Proofs.Location.Root
import Mathlib.Data.List.Induction

/-!
# Printable paths

The names of fields and indexes are arbitrary texts, and not all of them can be read back.  A path
is printable when each name is one that the reader could have returned (`Path.Printable`).  These
are exactly the paths that are read back from their text, and the reader returns no others, so
reading, printing and reading again is the same as reading.  An access path is printable when its
path is and its root can be configured, and the same holds for it (`printable_iff_round_trip`).

A path is printed segment by segment (`Path.toList_toText`).  The scan returns the segments that
were printed, and each of them stands for its element (`Element.ofSegment_segment`).
-/

namespace TaintFlow

/-! ## Printable elements -/

namespace Element

/-- The names that a printed element may have.  An index must not look like the index that stands
for any, nor like one that refers to an argument. -/
def Printable : Element → Prop
  | .field name => name ≠ "" ∧ Segment.FieldChars name
  | .index name =>
      name ≠ "" ∧ Segment.IndexChars name ∧ name ≠ "*" ∧
        ¬(name.toList.head? = some '<' ∧ name.toList.getLast? = some '>')
  | .anyIndex => True
  | .valueOf _ => True

instance : DecidablePred Printable
  | .field _ => inferInstanceAs (Decidable (_ ∧ _))
  | .index _ => inferInstanceAs (Decidable (_ ∧ _ ∧ _ ∧ ¬(_ ∧ _)))
  | .anyIndex => isTrue trivial
  | .valueOf _ => isTrue trivial

/-- The segment that an element is printed as. -/
def segment : Element → Segment
  | .field name => .field name
  | .index name => .index name
  | .anyIndex => .index "*"
  | .valueOf position => .index ("<" ++ (Root.argument position).toText ++ ">")

theorem toList_toText (e : Element) : e.toText.toList = e.segment.written := by
  cases e with
  | field name => simp [toText, segment, Segment.written]
  | index name => simp [toText, segment, Segment.written]
  | anyIndex => rfl
  | valueOf position => simp [toText, segment, Segment.written]

theorem wellFormed_segment {e : Element} (h : e.Printable) : e.segment.WellFormed := by
  cases e with
  | field name => exact h
  | index name => exact h.2.1
  | anyIndex =>
      show Segment.IndexChars "*"
      decide
  | valueOf position =>
      show Segment.IndexChars ("<" ++ (Root.argument position).toText ++ ">")
      rw [Segment.indexChars_append, Segment.indexChars_append]
      exact ⟨⟨by decide, (Root.wellFormed_toText _).2.indexChars⟩, by decide⟩

/-- An index has angle brackets around a text exactly when it begins and ends with them. -/
theorem between?_angles_eq_none_iff {inner : String} :
    Affix.between? "<" ">" inner = none ↔
      ¬(inner.toList.head? = some '<' ∧ inner.toList.getLast? = some '>') := by
  rw [Option.eq_none_iff_forall_ne_some]
  constructor
  · rintro none ⟨first, last⟩
    obtain ⟨rest, hrest⟩ := List.head?_eq_some_iff.1 first
    rw [hrest] at last
    cases rest using List.reverseRecOn with
    | nil => cases last
    | append_singleton middle c =>
        rw [← List.cons_append, List.getLast?_concat] at last
        cases last
        refine none (String.ofList middle) (Affix.between?_eq_some_iff.2 ?_)
        apply String.toList_inj.1
        simpa using hrest
  · intro outer r between
    rw [Affix.between?_eq_some_iff] at between
    subst between
    apply outer
    simp only [String.toList_append, List.append_assoc]
    refine ⟨rfl, ?_⟩
    rw [← List.append_assoc]
    exact List.getLast?_concat

/-- What stands in angle brackets is read as a root. -/
theorem ofSegment_angles (text : String) :
    ofSegment (.index ("<" ++ text ++ ">")) =
      match Root.ofText text with
      | .ok (.argument position) => .ok (.valueOf position)
      | _ => .error (.validation ("[" ++ ("<" ++ text ++ ">") ++ "]") none
          (.valueOf ("<" ++ text ++ ">"))) := by
  have inside : Affix.between? "<" ">" ("<" ++ text ++ ">") = some text :=
    Affix.between?_eq_some_iff.2 rfl
  rw [ofSegment, if_neg, if_neg, inside]
  · rfl
  · intro any
    have := congrArg String.toList any
    simp at this
  · intro empty
    have := congrArg String.toList empty
    simp at this

/-- The segment of a printable element stands for the element. -/
theorem ofSegment_segment {e : Element} (h : e.Printable) : ofSegment e.segment = .ok e := by
  cases e with
  | field name => rfl
  | index name =>
      obtain ⟨some, _, any, outer⟩ := h
      rw [segment, ofSegment, if_neg some, if_neg any, between?_angles_eq_none_iff.2 outer]
  | anyIndex => rfl
  | valueOf position =>
      rw [segment, ofSegment_angles, Root.ofText_toText Root.noConfusion]

/-- The element that a well-formed segment stands for is printable. -/
theorem printable_of_ofSegment {s : Segment} (wellFormed : s.WellFormed) {e : Element}
    (h : ofSegment s = .ok e) : e.Printable := by
  cases s with
  | field name =>
      cases h
      exact wellFormed
  | index inner =>
      rw [ofSegment] at h
      split at h
      next => cases h
      next some =>
        split at h
        next =>
          cases h
          trivial
        next any =>
          split at h
          next outer =>
            cases h
            exact ⟨some, wellFormed, any, between?_angles_eq_none_iff.1 outer⟩
          next =>
            split at h
            next =>
              cases h
              trivial
            next => cases h

end Element

/-! ## Printable paths -/

namespace Path

/-- All names in a printable path can be read back. -/
def Printable (p : Path) : Prop := ∀ e ∈ p, e.Printable

instance : DecidablePred Printable := fun p => inferInstanceAs (Decidable (∀ e ∈ p, e.Printable))

/-- The segments that a path is printed as. -/
def segments (p : Path) : List Segment := p.map Element.segment

theorem toList_toText (p : Path) : p.toText.toList = p.segments.flatMap Segment.written := by
  rw [toText, String.toList_join, segments, List.flatMap_map, List.flatMap_map]
  exact congrArg (p.flatMap ·) (funext Element.toList_toText)

theorem wellFormed_segments {p : Path} (h : p.Printable) : ∀ s ∈ p.segments, s.WellFormed := by
  intro s hs
  obtain ⟨e, he, rfl⟩ := List.mem_map.1 hs
  exact Element.wellFormed_segment (h e he)

theorem ofSegments_segments {p : Path} (h : p.Printable) : ofSegments p.segments = .ok p := by
  rw [ofSegments, segments, Checked.mapM_eq_ok_iff, List.forall₂_map_left_iff, List.forall₂_same]
  exact fun e he => Element.ofSegment_segment (h e he)

theorem printable_of_ofSegments {segments : List Segment}
    (wellFormed : ∀ s ∈ segments, s.WellFormed) {p : Path} (h : ofSegments segments = .ok p) :
    p.Printable := by
  intro e he
  obtain ⟨s, hs, h⟩ := Checked.exists_of_mem_mapM h he
  exact Element.printable_of_ofSegment (wellFormed s hs) h

theorem ofText_toText {p : Path} (h : p.Printable) : ofText p.toText = .ok p := by
  have split := Segment.split_written (wellFormed_segments h) (toList_toText p)
  rw [ofText, split, Checked.bind_ok, ofSegments_segments h]

theorem printable_of_ofText {text : String} {p : Path} (h : ofText text = .ok p) :
    p.Printable := by
  obtain ⟨segments, hsegments, h⟩ := Checked.bind_eq_ok_iff.1 h
  exact printable_of_ofSegments (Segment.wellFormed_of_split hsegments) h

/-- A path is read back from its text exactly when it is printable. -/
theorem ofText_toText_iff (p : Path) : ofText p.toText = .ok p ↔ p.Printable :=
  ⟨printable_of_ofText, ofText_toText⟩

/-- Printing what was read and reading it again changes nothing. -/
theorem reread (text : String) : (do ofText (← ofText text).toText) = ofText text := by
  cases read : ofText text with
  | error e => rfl
  | ok p => exact ofText_toText (printable_of_ofText read)

end Path

namespace AccessPath

/-- The path can be read back, and the root is one that may be configured. -/
def Printable (a : AccessPath) : Prop := a.root ≠ .canonicalThis ∧ a.path.Printable

instance : DecidablePred Printable := fun a =>
  inferInstanceAs (Decidable (a.root ≠ .canonicalThis ∧ a.path.Printable))

theorem ofText_toText {a : AccessPath} (h : a.Printable) : ofText a.toText = .ok a := by
  obtain ⟨root, path⟩ := h
  have split : Segment.split a.toText = .ok (.field a.root.toText :: a.path.segments) := by
    refine Segment.split_field_written (Root.wellFormed_toText a.root)
      (Path.wellFormed_segments path) ?_
    rw [toText, String.toList_append, Path.toList_toText]
  rw [ofText, split, Checked.bind_ok]
  simp only [Segment.toText, Root.ofText_toText root, Path.ofSegments_segments path]
  rfl

theorem printable_of_ofText {text : String} {a : AccessPath} (h : ofText text = .ok a) :
    a.Printable := by
  obtain ⟨segments, hsegments, h⟩ := Checked.bind_eq_ok_iff.1 h
  have wellFormed := Segment.wellFormed_of_split hsegments
  cases segments with
  | nil => cases h
  | cons first rest =>
      obtain ⟨root, hroot, h⟩ := Checked.bind_eq_ok_iff.1 h
      obtain ⟨path, hpath, h⟩ := Checked.bind_eq_ok_iff.1 h
      cases h
      constructor
      · exact Root.ne_canonicalThis_of_ofText hroot
      · refine Path.printable_of_ofSegments (fun s hs => ?_) hpath
        exact wellFormed s (List.mem_cons_of_mem _ hs)

/-- An access path is read back from its text exactly when it is printable. -/
theorem ofText_toText_iff (a : AccessPath) : ofText a.toText = .ok a ↔ a.Printable :=
  ⟨printable_of_ofText, ofText_toText⟩

/-- Printing what was read and reading it again changes nothing. -/
theorem reread (text : String) : (do ofText (← ofText text).toText) = ofText text := by
  cases read : ofText text with
  | error e => rfl
  | ok a => exact ofText_toText (printable_of_ofText read)

end AccessPath

/-! ## The round trip -/

/-- What can be printed and read back, for access paths and for paths: exactly what is printable.
The readers return nothing else, so what they return for any text survives the round trip. -/
theorem printable_iff_round_trip :
    (∀ a : AccessPath,
      AccessPath.ofText a.toText = .ok a ↔ a.root ≠ .canonicalThis ∧ a.path.Printable) ∧
    (∀ p : Path, Path.ofText p.toText = .ok p ↔ p.Printable) ∧
    (∀ text a, AccessPath.ofText text = .ok a → a.root ≠ .canonicalThis ∧ a.path.Printable) ∧
    (∀ text p, Path.ofText text = .ok p → p.Printable) ∧
    (∀ text, (do AccessPath.ofText (← AccessPath.ofText text).toText) = AccessPath.ofText text) ∧
    (∀ text, (do Path.ofText (← Path.ofText text).toText) = Path.ofText text) := by
  refine ⟨AccessPath.ofText_toText_iff, Path.ofText_toText_iff, ?_, ?_, AccessPath.reread,
    Path.reread⟩
  · intro text a h
    exact AccessPath.printable_of_ofText h
  · intro text p h
    exact Path.printable_of_ofText h

/-- All forms of elements behind a root. -/
def sampleAccessPath : AccessPath :=
  ⟨.returnValue, [.field "x", .index "a", .valueOf 7, .anyIndex]⟩

/-- The points that were read are not printed.  An index whose name is a star cannot be read
back. -/
theorem printable_iff_round_trip_samples :
    AccessPath.ofText "Return.x[a].[<Argument(7)>].[*]" = .ok sampleAccessPath ∧
      sampleAccessPath.path.Printable ∧
      sampleAccessPath.toText = "Return.x[a][<Argument(7)>][*]" ∧
      AccessPath.ofText sampleAccessPath.toText = .ok sampleAccessPath ∧
      Path.ofText (Path.toText [.index "*"]) ≠ .ok [.index "*"] := by
  have read : AccessPath.ofText "Return.x[a].[<Argument(7)>].[*]" = .ok sampleAccessPath := rfl
  obtain ⟨roundTrip, pathRoundTrip, printable, _⟩ := printable_iff_round_trip
  refine ⟨read, (printable _ _ read).2, rfl, (roundTrip _).2 (printable _ _ read), fun h => ?_⟩
  exact absurd ((pathRoundTrip _).1 h) (by decide)

end TaintFlow
