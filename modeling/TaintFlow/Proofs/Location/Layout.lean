import Mathlib.Data.List.Chain
import TaintFlow.Proofs.Location.Segment

/-!
# The grammar of the text of a path

The text of a path is a point or nothing, and then segments, each with a point or nothing behind it.
Two fields have a point between them.  A `Layout` is such a text taken apart, and `Layout.Legal` is
the grammar.

The scan returns the segments of a legal layout from its text (`Layout.split_toText`).  Whatever it
returns are the segments of a legal layout of the text (`Layout.exists_of_split`): along the scan,
what was read of an open segment and the rest of the text together are the text of pieces that stand
next to each other (`Segment.completes_of_scan`).

A segment does not begin with a point, so a text has one legal layout at most
(`Layout.eq_of_toText_eq`).  `Segment.split_iff_layout` puts all this together.
-/

namespace TaintFlow

/-! ## Layouts -/

/-- A point, or nothing. -/
def separator (pointed : Bool) : List Char := if pointed then ['.'] else []

def Segment.isField : Segment → Bool
  | .field _ => true
  | .index _ => false

instance : DecidablePred Segment.WellFormed
  | .field _ => inferInstanceAs (Decidable (_ ∧ _))
  | .index _ => inferInstanceAs (Decidable (Segment.IndexChars _))

theorem Segment.toList_toText_index (inner : String) :
    (index inner).toText.toList = '[' :: (inner.toList ++ [']']) := by
  simp [toText]

/-- A segment with what stands behind it. -/
structure Piece where
  segment : Segment
  /-- Does a point stand behind the segment? -/
  pointed : Bool
  deriving DecidableEq

namespace Piece

/-- The segment and its separator. -/
def chars (p : Piece) : List Char := p.segment.toText.toList ++ separator p.pointed

/-- Two fields next to each other have a point between them. -/
def Before (p q : Piece) : Prop :=
  p.segment.isField = true → q.segment.isField = true → p.pointed = true

instance : DecidableRel Before := fun _ _ => inferInstanceAs (Decidable (_ → _ → _))

/-- Pieces that may stand next to each other in this order. -/
structure Legal (pieces : List Piece) : Prop where
  wellFormed : ∀ p ∈ pieces, p.segment.WellFormed
  chained : pieces.IsChain Before

instance : DecidablePred Legal := fun pieces =>
  decidable_of_iff ((∀ p ∈ pieces, p.segment.WellFormed) ∧ pieces.IsChain Before)
    ⟨fun ⟨wellFormed, chained⟩ => ⟨wellFormed, chained⟩,
      fun ⟨wellFormed, chained⟩ => ⟨wellFormed, chained⟩⟩

end Piece

/-- The text of a path taken apart. -/
structure Layout where
  /-- Does the text begin with a point? -/
  pointed : Bool
  pieces : List Piece
  deriving DecidableEq

namespace Layout

/-- The text that is taken apart. -/
def toText (l : Layout) : String :=
  String.ofList (separator l.pointed ++ l.pieces.flatMap Piece.chars)

def segments (l : Layout) : List Segment := l.pieces.map Piece.segment

/-- The segments are well formed, and fields that stand next to each other have a point between
them. -/
def Legal (l : Layout) : Prop := Piece.Legal l.pieces

instance : DecidablePred Legal := fun l => inferInstanceAs (Decidable (Piece.Legal l.pieces))

end Layout

namespace Piece

/-! ## Legal pieces -/

theorem legal_nil : Legal [] := ⟨List.forall_mem_nil _, .nil⟩

theorem Legal.of_cons {p : Piece} {pieces : List Piece} (h : Legal (p :: pieces)) :
    Legal pieces :=
  ⟨fun q hq => h.wellFormed q (List.mem_cons_of_mem _ hq), h.chained.of_cons⟩

/-- Legal pieces begin with a character that does not end a separator. -/
theorem Legal.head?_ne_point {pieces : List Piece} (h : Legal pieces) :
    ∀ c ∈ (pieces.flatMap chars).head?, c ≠ '.' := by
  intro c hc
  cases pieces with
  | nil => cases hc
  | cons p pieces =>
      have first := h.wellFormed p (List.mem_cons_self ..)
      obtain ⟨s, pointed⟩ := p
      cases s with
      | field name =>
          obtain ⟨some, fieldChars⟩ := first
          cases hname : name.toList with
          | nil => exact absurd hname (by simpa using some)
          | cons d rest =>
              rw [List.flatMap_cons, chars, Segment.toText, hname] at hc
              cases hc
              exact (fieldChars c (hname ▸ List.mem_cons_self ..)).1
      | index inner =>
          rw [List.flatMap_cons, chars, Segment.toList_toText_index] at hc
          cases hc
          decide

/-- Behind a field stands a point, an index or nothing. -/
theorem Legal.head?_behind_field {name : String} {pointed : Bool} {pieces : List Piece}
    (h : Legal (⟨.field name, pointed⟩ :: pieces)) :
    ∀ c ∈ (separator pointed ++ pieces.flatMap chars).head?, c = '.' ∨ c = '[' := by
  intro c hc
  cases pointed with
  | true =>
      cases hc
      exact Or.inl rfl
  | false =>
      cases pieces with
      | nil => cases hc
      | cons q pieces =>
          obtain ⟨s, pointed⟩ := q
          cases s with
          | field other => exact nomatch (List.isChain_cons_cons.1 h.chained).1 rfl rfl
          | index inner =>
              rw [List.flatMap_cons, chars, Segment.toList_toText_index] at hc
              cases hc
              exact Or.inr rfl

/-! ## The scan of legal pieces -/

/-- Behind an index a separator is read over. -/
theorem scan_separator {pieces : List Piece} (h : Legal pieces) (pointed : Bool) :
    Segment.scan .behindIndex (separator pointed ++ pieces.flatMap chars) =
      Segment.scan .start (pieces.flatMap chars) := by
  cases pointed with
  | true => rfl
  | false => exact Segment.scan_behindIndex_of_ne h.head?_ne_point

/-- The scan returns the segment of the first piece. -/
theorem scan_cons {p : Piece} {pieces : List Piece} (h : Legal (p :: pieces)) :
    Segment.scan .start ((p :: pieces).flatMap chars) =
      do return p.segment :: (← Segment.scan .start (pieces.flatMap chars)) := by
  have first := h.wellFormed p (List.mem_cons_self ..)
  rw [← scan_separator h.of_cons p.pointed, List.flatMap_cons, chars, List.append_assoc]
  obtain ⟨s, pointed⟩ := p
  cases s with
  | field name =>
      have some : name.toList ≠ [] := by simpa using first.1
      rw [Segment.toText, Segment.scan_start_field some first.2,
        Segment.scan_inField_of_boundary h.head?_behind_field, List.reverse_reverse,
        String.ofList_toList]
  | index inner =>
      have opened (rest : List Char) :
          Segment.scan .start ((Segment.index inner).toText.toList ++ rest) =
            Segment.scan (.inIndex []) (inner.toList ++ ']' :: rest) := by
        rw [Segment.toList_toText_index, List.cons_append, List.append_assoc]
        rfl
      rw [opened, Segment.scan_inIndex_append first, Segment.scan, if_pos rfl, List.append_nil,
        List.reverse_reverse, String.ofList_toList]

theorem scan_pieces {pieces : List Piece} (h : Legal pieces) :
    Segment.scan .start (pieces.flatMap chars) = .ok (pieces.map segment) := by
  induction pieces with
  | nil => rfl
  | cons p pieces ih =>
      rw [scan_cons h, ih h.of_cons]
      rfl

/-! ## Pieces that are put in front -/

theorem legal_cons_index {inner : String} (first : (Segment.index inner).WellFormed)
    (pointed : Bool) {pieces : List Piece} (h : Legal pieces) :
    Legal (⟨.index inner, pointed⟩ :: pieces) := by
  refine ⟨List.forall_mem_cons.2 ⟨first, h.wellFormed⟩, h.chained.cons fun q _ => ?_⟩
  exact fun field => nomatch field

/-- A field may stand in front of what begins with a point, an index or nothing. -/
theorem legal_cons_field {name : String} (first : (Segment.field name).WellFormed) {pointed : Bool}
    {pieces : List Piece} (h : Legal pieces)
    (boundary : ∀ c ∈ (separator pointed ++ pieces.flatMap chars).head?, c = '.' ∨ c = '[') :
    Legal (⟨.field name, pointed⟩ :: pieces) := by
  refine ⟨List.forall_mem_cons.2 ⟨first, h.wellFormed⟩, h.chained.cons fun q hq _ field => ?_⟩
  cases pointed with
  | true => rfl
  | false =>
      obtain ⟨rest, rfl⟩ := List.head?_eq_some_iff.1 hq
      obtain ⟨s, pointed⟩ := q
      cases s with
      | index inner => cases field
      | field other =>
          obtain ⟨some, fieldChars⟩ := h.wellFormed _ (List.mem_cons_self ..)
          cases hother : other.toList with
          | nil => exact absurd hother (by simpa using some)
          | cons d _ =>
              have first := fieldChars d (hother ▸ List.mem_cons_self ..)
              have ends := boundary d (by simp [separator, chars, Segment.toText, hother])
              exact (ends.elim first.1 first.2.1).elim

end Piece

namespace Segment

/-! ## What the scan returns -/

/-- The open segment holds only characters that it may hold, and an open field holds one. -/
def Scan.Proper : Scan → Prop
  | .start | .behindIndex => True
  | .inField reversed => reversed ≠ [] ∧ ∀ c ∈ reversed, IsFieldChar c
  | .inIndex reversed => ∀ c ∈ reversed, IsIndexChar c

theorem wellFormed_field_of_proper {reversed : List Char} (h : (Scan.inField reversed).Proper) :
    (field (String.ofList reversed.reverse)).WellFormed := by
  obtain ⟨some, chars⟩ := h
  constructor
  · intro none
    have := congrArg String.toList none
    exact some (by simpa using this)
  · intro c hc
    exact chars c (by simpa using hc)

/-- What was read of the open segment. -/
def Scan.opened : Scan → List Char
  | .start | .behindIndex => []
  | .inField reversed => reversed.reverse
  | .inIndex reversed => '[' :: reversed.reverse

/-- What was read of the open segment and the rest of the text are the text of legal pieces.  A
point may come first behind an index. -/
def Completes (state : Scan) (rest : List Char) (segments : List Segment) : Prop :=
  ∃ (pointed : Bool) (pieces : List Piece),
    (pointed = true → state = .behindIndex) ∧ Piece.Legal pieces ∧
      pieces.map Piece.segment = segments ∧
      state.opened ++ rest = separator pointed ++ pieces.flatMap Piece.chars

variable {c : Char} {rest : List Char} {segments : List Segment}

/-- A character that is read into the open segment. -/
theorem Completes.read {state next : Scan} (inside : next ≠ .behindIndex)
    (same : next.opened ++ rest = state.opened ++ c :: rest) (h : Completes next rest segments) :
    Completes state (c :: rest) segments := by
  obtain ⟨pointed, pieces, first, legal, hsegments, text⟩ := h
  exact ⟨pointed, pieces, fun point => absurd (first point) inside, legal, hsegments, same ▸ text⟩

theorem completes_behindIndex_of_start {cs : List Char} (h : Completes .start cs segments) :
    Completes .behindIndex cs segments := by
  obtain ⟨pointed, pieces, _, legal, hsegments, text⟩ := h
  exact ⟨pointed, pieces, fun _ => rfl, legal, hsegments, text⟩

/-- A point behind an index. -/
theorem completes_behindIndex_point (h : Completes .start rest segments) :
    Completes .behindIndex ('.' :: rest) segments := by
  obtain ⟨pointed, pieces, first, legal, hsegments, text⟩ := h
  cases pointed with
  | true => exact nomatch first rfl
  | false => exact ⟨true, pieces, fun _ => rfl, legal, hsegments, congrArg ('.' :: ·) text⟩

/-- The end of a field. -/
theorem completes_inField {reversed cs : List Char} (proper : (Scan.inField reversed).Proper)
    (boundary : ∀ c ∈ cs.head?, c = '.' ∨ c = '[') (h : Completes .behindIndex cs segments) :
    Completes (.inField reversed) cs (.field (String.ofList reversed.reverse) :: segments) := by
  obtain ⟨pointed, pieces, _, legal, rfl, text⟩ := h
  rw [Scan.opened, List.nil_append] at text
  subst text
  refine ⟨false, ⟨.field (String.ofList reversed.reverse), pointed⟩ :: pieces, Bool.noConfusion,
    Piece.legal_cons_field (wellFormed_field_of_proper proper) legal boundary, rfl, ?_⟩
  simp [Scan.opened, separator, Piece.chars, toText]

/-- The end of an index. -/
theorem completes_inIndex {reversed : List Char} (proper : (Scan.inIndex reversed).Proper)
    (h : Completes .behindIndex rest segments) :
    Completes (.inIndex reversed) (']' :: rest)
      (.index (String.ofList reversed.reverse) :: segments) := by
  obtain ⟨pointed, pieces, _, legal, rfl, text⟩ := h
  rw [Scan.opened, List.nil_append] at text
  subst text
  have wellFormed : (index (String.ofList reversed.reverse)).WellFormed :=
    fun d hd => proper d (by simpa using hd)
  refine ⟨false, ⟨.index (String.ofList reversed.reverse), pointed⟩ :: pieces, Bool.noConfusion,
    Piece.legal_cons_index wellFormed pointed legal, rfl, ?_⟩
  simp [Scan.opened, separator, Piece.chars, toList_toText_index]

section Steps

variable (ih : ∀ (next : Scan) (segments : List Segment), next.Proper →
  scan next rest = .ok segments → Completes next rest segments)

include ih

theorem completes_of_start (h : scan .start (c :: rest) = .ok segments) :
    Completes .start (c :: rest) segments := by
  simp only [scan] at h
  split at h
  next => cases h
  next hpoint =>
    split at h
    next hopen =>
      exact (ih (.inIndex []) _ (List.forall_mem_nil _) h).read Scan.noConfusion
        (by simp [hopen, Scan.opened])
    next hopen =>
      split at h
      next => cases h
      next hclose =>
        have proper : (Scan.inField [c]).Proper :=
          ⟨List.cons_ne_nil _ _, List.forall_mem_singleton.2 ⟨hpoint, hopen, hclose⟩⟩
        exact (ih (.inField [c]) _ proper h).read Scan.noConfusion rfl

theorem completes_of_behindIndex (h : scan .behindIndex (c :: rest) = .ok segments) :
    Completes .behindIndex (c :: rest) segments := by
  by_cases point : c = '.'
  · subst point
    exact completes_behindIndex_point (ih .start _ trivial h)
  · rw [scan_behindIndex_of_ne (by simpa using point)] at h
    exact completes_behindIndex_of_start (completes_of_start ih h)

theorem completes_of_inField {reversed : List Char} (proper : (Scan.inField reversed).Proper)
    (h : scan (.inField reversed) (c :: rest) = .ok segments) :
    Completes (.inField reversed) (c :: rest) segments := by
  by_cases ends : c = '.' ∨ c = '['
  · have boundary : ∀ d ∈ (c :: rest).head?, d = '.' ∨ d = '[' := by simpa using ends
    rw [scan_inField_of_boundary boundary] at h
    obtain ⟨others, hothers, h⟩ := Checked.bind_eq_ok_iff.1 h
    cases h
    exact completes_inField proper boundary (completes_of_behindIndex ih hothers)
  · rw [not_or] at ends
    rw [scan, if_neg ends.1, if_neg ends.2] at h
    split at h
    next => cases h
    next hclose =>
      have proper : (Scan.inField (c :: reversed)).Proper :=
        ⟨List.cons_ne_nil _ _, List.forall_mem_cons.2 ⟨⟨ends.1, ends.2, hclose⟩, proper.2⟩⟩
      exact (ih _ _ proper h).read Scan.noConfusion (by simp [Scan.opened])

theorem completes_of_inIndex {reversed : List Char} (proper : (Scan.inIndex reversed).Proper)
    (h : scan (.inIndex reversed) (c :: rest) = .ok segments) :
    Completes (.inIndex reversed) (c :: rest) segments := by
  rw [scan] at h
  split at h
  next close =>
    subst close
    obtain ⟨others, hothers, h⟩ := Checked.bind_eq_ok_iff.1 h
    cases h
    exact completes_inIndex proper (ih .behindIndex _ trivial hothers)
  next hclose =>
    split at h
    next => cases h
    next hopen =>
      have proper : (Scan.inIndex (c :: reversed)).Proper :=
        List.forall_mem_cons.2 ⟨⟨hopen, hclose⟩, proper⟩
      exact (ih _ _ proper h).read Scan.noConfusion (by simp [Scan.opened])

end Steps

/-- From a proper state on, the scan reads legal pieces. -/
theorem completes_of_scan {cs : List Char} : ∀ (state : Scan) (segments : List Segment),
    state.Proper → scan state cs = .ok segments → Completes state cs segments := by
  induction cs with
  | nil =>
      intro state segments proper h
      have done : Completes .behindIndex [] [] :=
        ⟨false, [], Bool.noConfusion, Piece.legal_nil, rfl, rfl⟩
      cases state with
      | start =>
          cases h
          exact ⟨false, [], Bool.noConfusion, Piece.legal_nil, rfl, rfl⟩
      | behindIndex =>
          cases h
          exact done
      | inField reversed =>
          cases h
          exact completes_inField proper (by simp) done
      | inIndex reversed => cases h
  | cons c rest ih =>
      intro state segments proper h
      cases state with
      | start => exact completes_of_start ih h
      | behindIndex => exact completes_of_behindIndex ih h
      | inField reversed => exact completes_of_inField ih proper h
      | inIndex reversed => exact completes_of_inIndex ih proper h

end Segment

/-! ## The grammar -/

namespace Layout

/-- The segments of a legal layout are returned from its text. -/
theorem split_toText {l : Layout} (h : l.Legal) : Segment.split l.toText = .ok l.segments := by
  rw [Segment.split_eq_ok_iff, toText, String.toList_ofList, Piece.scan_separator h,
    Piece.scan_pieces h]
  rfl

/-- The segments of a text are those of a legal layout of it. -/
theorem exists_of_split {text : String} {segments : List Segment}
    (h : Segment.split text = .ok segments) :
    ∃ l : Layout, l.Legal ∧ l.toText = text ∧ l.segments = segments := by
  obtain ⟨pointed, pieces, _, legal, hsegments, same⟩ :=
    Segment.completes_of_scan .behindIndex segments trivial (Segment.split_eq_ok_iff.1 h)
  refine ⟨⟨pointed, pieces⟩, legal, ?_, hsegments⟩
  apply String.toList_inj.1
  rw [toText, String.toList_ofList]
  exact same.symm

theorem split_eq_ok_iff {text : String} {segments : List Segment} :
    Segment.split text = .ok segments ↔
      ∃ l : Layout, l.Legal ∧ l.toText = text ∧ l.segments = segments := by
  constructor
  · exact exists_of_split
  · rintro ⟨l, legal, rfl, rfl⟩
    exact split_toText legal

/-- A text is refused as a whole when it has no legal layout. -/
theorem split_eq_error_iff {text : String} :
    (∃ expected, Segment.split text = .error (.validation text none expected)) ↔
      ¬∃ l : Layout, l.Legal ∧ l.toText = text := by
  constructor
  · rintro ⟨expected, refused⟩ ⟨l, legal, rfl⟩
    rw [split_toText legal] at refused
    cases refused
  · intro none
    cases hscan : Segment.scan .behindIndex text.toList with
    | ok segments =>
        obtain ⟨l, legal, htext, _⟩ := exists_of_split (Segment.split_eq_ok_iff.2 hscan)
        exact absurd ⟨l, legal, htext⟩ none
    | error expected => exact ⟨expected, by rw [Segment.split_eq, hscan]⟩

/-! ## Uniqueness -/

/-- A separator ends before what does not begin with a point. -/
theorem separator_append_inj {pointed pointed' : Bool} {cs cs' : List Char}
    (first : ∀ c ∈ cs.head?, c ≠ '.') (firstOther : ∀ c ∈ cs'.head?, c ≠ '.')
    (same : separator pointed ++ cs = separator pointed' ++ cs') :
    pointed = pointed' ∧ cs = cs' := by
  cases pointed with
  | true =>
      cases pointed' with
      | true => exact ⟨rfl, List.cons_injective same⟩
      | false =>
          have same : '.' :: cs = cs' := same
          exact absurd rfl (firstOther '.' (by rw [← same]; rfl))
  | false =>
      cases pointed' with
      | true =>
          have same : cs = '.' :: cs' := same
          exact absurd rfl (first '.' (by rw [same]; rfl))
      | false => exact ⟨rfl, same⟩

/-- The separators of pieces are determined by their segments and their text. -/
theorem pieces_eq_of_chars_eq {pieces pieces' : List Piece} (h : Piece.Legal pieces)
    (h' : Piece.Legal pieces') (segments : pieces.map Piece.segment = pieces'.map Piece.segment)
    (text : pieces.flatMap Piece.chars = pieces'.flatMap Piece.chars) : pieces = pieces' := by
  induction pieces generalizing pieces' with
  | nil =>
      cases pieces' with
      | nil => rfl
      | cons => cases segments
  | cons p pieces ih =>
      cases pieces' with
      | nil => cases segments
      | cons p' pieces' =>
          obtain ⟨s, pointed⟩ := p
          obtain ⟨s', pointed'⟩ := p'
          obtain ⟨first, others⟩ := List.cons_eq_cons.1 segments
          cases first
          rw [List.flatMap_cons, List.flatMap_cons, Piece.chars, Piece.chars, List.append_assoc,
            List.append_assoc, List.append_cancel_left_eq] at text
          obtain ⟨point, rest⟩ :=
            separator_append_inj h.of_cons.head?_ne_point h'.of_cons.head?_ne_point text
          cases point
          rw [ih h.of_cons h'.of_cons others rest]

/-- A text has one legal layout at most. -/
theorem eq_of_toText_eq {l l' : Layout} (h : l.Legal) (h' : l'.Legal)
    (same : l.toText = l'.toText) : l = l' := by
  have segments : l.segments = l'.segments := by
    have read := split_toText h
    rw [same, split_toText h'] at read
    exact (Except.ok.inj read).symm
  obtain ⟨pointed, pieces⟩ := l
  obtain ⟨pointed', pieces'⟩ := l'
  obtain ⟨point, text⟩ := separator_append_inj (Piece.Legal.head?_ne_point h)
    (Piece.Legal.head?_ne_point h') (String.ofList_injective same)
  cases point
  cases pieces_eq_of_chars_eq h h' segments text
  rfl

end Layout

namespace Segment

/-- The segments of a text are well formed. -/
theorem wellFormed_of_split {text : String} {segments : List Segment}
    (h : split text = .ok segments) : ∀ s ∈ segments, s.WellFormed := by
  obtain ⟨l, legal, _, rfl⟩ := Layout.exists_of_split h
  exact List.forall_mem_map.2 legal.wellFormed

/-- The texts that can be taken apart are those of legal layouts, and what is returned are the
segments of the layout.  Every other text is refused, and the failure shows all of it.  No text has
two legal layouts. -/
theorem split_iff_layout (text : String) :
    (∀ texts : List String,
      (do return (← split text).map toText : Checked (List String)) = .ok texts ↔
        ∃ l : Layout, l.Legal ∧ l.toText = text ∧ l.segments.map toText = texts) ∧
    (∀ segments, split text = .ok segments ↔
      ∃ l : Layout, l.Legal ∧ l.toText = text ∧ l.segments = segments) ∧
    ((∃ expected, split text = .error (.validation text none expected)) ↔
      ¬∃ l : Layout, l.Legal ∧ l.toText = text) ∧
    ∀ l l' : Layout, l.Legal → l'.Legal → l.toText = text → l'.toText = text → l = l' := by
  refine ⟨fun texts => ?_, fun _ => Layout.split_eq_ok_iff, Layout.split_eq_error_iff, ?_⟩
  · rw [Checked.bind_eq_ok_iff]
    constructor
    · rintro ⟨segments, hsegments, h⟩
      obtain ⟨l, legal, htext, rfl⟩ := Layout.split_eq_ok_iff.1 hsegments
      exact ⟨l, legal, htext, Except.ok.inj h⟩
    · rintro ⟨l, legal, htext, rfl⟩
      exact ⟨l.segments, Layout.split_eq_ok_iff.2 ⟨l, legal, htext, rfl⟩, rfl⟩
  · intro l l' legal legal' htext htext'
    exact Layout.eq_of_toText_eq legal legal' (htext.trans htext'.symm)

/-- A layout with a point at the beginning, behind an index and at the end. -/
def sampleLayout : Layout :=
  ⟨true, [⟨.field "x", false⟩, ⟨.index "a", true⟩, ⟨.index "", false⟩, ⟨.field "y", true⟩]⟩

/-- An index may be empty, and a point may follow it or not.  Two points next to each other are
refused. -/
theorem split_iff_layout_samples :
    sampleLayout.Legal ∧ sampleLayout.toText = ".x[a].[]y." ∧
      split ".x[a].[]y." = .ok [.field "x", .index "a", .index "", .field "y"] ∧
      (∀ l : Layout, l.Legal → l.toText = ".x[a].[]y." → l = sampleLayout) ∧
      ¬∃ l : Layout, l.Legal ∧ l.toText = "x..y" := by
  have legal : sampleLayout.Legal := by decide
  have text : sampleLayout.toText = ".x[a].[]y." := by decide
  obtain ⟨_, read, _, unique⟩ := split_iff_layout ".x[a].[]y."
  obtain ⟨_, _, refused, _⟩ := split_iff_layout "x..y"
  refine ⟨legal, text, (read _).2 ⟨sampleLayout, legal, text, rfl⟩, ?_, ?_⟩
  · intro l hl htext
    exact unique l sampleLayout hl legal htext text
  · exact refused.1 ⟨.nonemptyField, rfl⟩

end Segment

end TaintFlow
