import TaintFlow.Location.Segment
import TaintFlow.Proofs.Checked

/-!
# The scan of the text of a path

A segment is well formed when its name could not be taken for another piece of text
(`Segment.WellFormed`).  The scan returns any list of these from the text in which every field has a
point in front of it (`split_written`), also when the first field has none (`split_field_written`).

The state behind an index is the one in which the rest of a text is scanned as a text of its own:
`split_eq_ok_iff` starts in it, and a field ends in it (`scan_inField_of_boundary`).
-/

namespace TaintFlow

namespace Segment

/-! ## Well-formed segments -/

/-- A character that may stand in the name of a field. -/
def IsFieldChar (c : Char) : Prop := c ≠ '.' ∧ c ≠ '[' ∧ c ≠ ']'

/-- A character that may stand in an index. -/
def IsIndexChar (c : Char) : Prop := c ≠ '[' ∧ c ≠ ']'

instance : DecidablePred IsFieldChar := fun _ => inferInstanceAs (Decidable (_ ∧ _))

instance : DecidablePred IsIndexChar := fun _ => inferInstanceAs (Decidable (_ ∧ _))

/-- A text without points and brackets. -/
def FieldChars (text : String) : Prop := ∀ c ∈ text.toList, IsFieldChar c

/-- A text without brackets. -/
def IndexChars (text : String) : Prop := ∀ c ∈ text.toList, IsIndexChar c

-- There are finitely many characters, but only those of the text are to be tried.
instance : DecidablePred FieldChars := fun text => List.decidableBAll IsFieldChar text.toList

instance : DecidablePred IndexChars := fun text => List.decidableBAll IsIndexChar text.toList

theorem fieldChars_append {a b : String} : FieldChars (a ++ b) ↔ FieldChars a ∧ FieldChars b := by
  simp only [FieldChars, String.toList_append, List.forall_mem_append]

theorem indexChars_append {a b : String} : IndexChars (a ++ b) ↔ IndexChars a ∧ IndexChars b := by
  simp only [IndexChars, String.toList_append, List.forall_mem_append]

/-- What may stand in a field may stand in an index. -/
theorem FieldChars.indexChars {text : String} (h : FieldChars text) : IndexChars text :=
  fun c hc => (h c hc).2

/-- A field has a name, and neither a field nor an index has a bracket or a point of its own. -/
def WellFormed : Segment → Prop
  | .field name => name ≠ "" ∧ FieldChars name
  | .index inner => IndexChars inner

/-- A segment as it is written behind another one. -/
def written : Segment → List Char
  | .field name => '.' :: name.toList
  | .index inner => '[' :: (inner.toList ++ [']'])

/-! ## Steps of the scan -/

theorem scan_inField_append {name : List Char} (h : ∀ c ∈ name, IsFieldChar c)
    (reversed rest : List Char) :
    scan (.inField reversed) (name ++ rest) = scan (.inField (name.reverse ++ reversed)) rest := by
  induction name generalizing reversed with
  | nil => rfl
  | cons c name ih =>
      obtain ⟨hpoint, hopen, hclose⟩ := h c (List.mem_cons_self ..)
      have ih := ih (fun d hd => h d (List.mem_cons_of_mem _ hd)) (c :: reversed)
      rw [List.cons_append, scan, if_neg hpoint, if_neg hopen, if_neg hclose, ih]
      simp

theorem scan_inIndex_append {inner : List Char} (h : ∀ c ∈ inner, IsIndexChar c)
    (reversed rest : List Char) :
    scan (.inIndex reversed) (inner ++ rest) =
      scan (.inIndex (inner.reverse ++ reversed)) rest := by
  induction inner generalizing reversed with
  | nil => rfl
  | cons c inner ih =>
      obtain ⟨hopen, hclose⟩ := h c (List.mem_cons_self ..)
      have ih := ih (fun d hd => h d (List.mem_cons_of_mem _ hd)) (c :: reversed)
      rw [List.cons_append, scan, if_neg hclose, if_neg hopen, ih]
      simp

/-- A field ends at a point, at a bracket or at the end, and the rest is scanned as behind an
index. -/
theorem scan_inField_of_boundary {rest : List Char} (h : ∀ c ∈ rest.head?, c = '.' ∨ c = '[')
    (reversed : List Char) :
    scan (.inField reversed) rest =
      do return .field (String.ofList reversed.reverse) :: (← scan .behindIndex rest) := by
  cases rest with
  | nil => rfl
  | cons c rest =>
      rcases h c rfl with rfl | rfl
      · rfl
      · rfl

/-- The scan of a field from its first character on. -/
theorem scan_start_field {name : List Char} (some : name ≠ []) (h : ∀ c ∈ name, IsFieldChar c)
    (rest : List Char) :
    scan .start (name ++ rest) = scan (.inField name.reverse) rest := by
  cases name with
  | nil => exact absurd rfl some
  | cons c name =>
      obtain ⟨hpoint, hopen, hclose⟩ := h c (List.mem_cons_self ..)
      rw [List.cons_append, scan, if_neg hpoint, if_neg hopen, if_neg hclose,
        scan_inField_append fun d hd => h d (List.mem_cons_of_mem _ hd)]
      simp

/-- Without a point in front, the beginning of a text is scanned as behind an index. -/
theorem scan_behindIndex_of_ne {cs : List Char} (h : ∀ c ∈ cs.head?, c ≠ '.') :
    scan .behindIndex cs = scan .start cs := by
  cases cs with
  | nil => rfl
  | cons c cs => simp only [scan, if_neg (h c rfl)]

/-- The optional point at the beginning of a text is the one that may follow an index. -/
theorem split_eq (text : String) :
    split text =
      match scan .behindIndex text.toList with
      | .ok segments => .ok segments
      | .error expected => .error (.validation text none expected) := by
  rw [split]
  cases text.toList with
  | nil => rfl
  | cons c cs =>
      by_cases point : c = '.'
      · subst point
        rfl
      · have first : ∀ d ∈ (c :: cs).head?, d ≠ '.' := by
          intro d hd
          cases hd
          exact point
        rw [scan_behindIndex_of_ne first]
        cases hscan : scan .start (c :: cs) with
        | ok segments => simp [point, hscan]
        | error expected => simp [point, hscan]

theorem split_eq_ok_iff {text : String} {segments : List Segment} :
    split text = .ok segments ↔ scan .behindIndex text.toList = .ok segments := by
  rw [split_eq]
  cases scan .behindIndex text.toList with
  | ok found => simp
  | error expected => simp

/-! ## Texts of segments -/

theorem head?_written (segments : List Segment) :
    ∀ c ∈ (segments.flatMap written).head?, c = '.' ∨ c = '[' := by
  intro c hc
  cases segments with
  | nil => cases hc
  | cons s segments =>
      cases s with
      | field name =>
          cases hc
          exact Or.inl rfl
      | index inner =>
          cases hc
          exact Or.inr rfl

/-- A field in front of written segments. -/
theorem scan_start_field_written {name : String} (h : (field name).WellFormed)
    (segments : List Segment) :
    scan .start (name.toList ++ segments.flatMap written) =
      do return .field name :: (← scan .behindIndex (segments.flatMap written)) := by
  have some : name.toList ≠ [] := by simpa using h.1
  rw [scan_start_field some h.2, scan_inField_of_boundary (head?_written segments)]
  simp

/-- Segments are returned from the text that they were written to. -/
theorem scan_written {segments : List Segment} (h : ∀ s ∈ segments, s.WellFormed) :
    scan .behindIndex (segments.flatMap written) = .ok segments := by
  induction segments with
  | nil => rfl
  | cons s segments ih =>
      have first := h s (List.mem_cons_self ..)
      have ih := ih fun t ht => h t (List.mem_cons_of_mem _ ht)
      rw [List.flatMap_cons]
      cases s with
      | field name =>
          have step : scan .behindIndex (written (.field name) ++ segments.flatMap written) =
              scan .start (name.toList ++ segments.flatMap written) := rfl
          rw [step, scan_start_field_written first, ih]
          rfl
      | index inner =>
          have step : scan .behindIndex (written (.index inner) ++ segments.flatMap written) =
              scan (.inIndex []) (inner.toList ++ ([']'] ++ segments.flatMap written)) := by
            rw [written, List.cons_append, List.append_assoc]
            rfl
          rw [step, scan_inIndex_append first, List.singleton_append, scan, if_pos rfl, ih]
          simp

/-- A text in which every field has a point in front of it. -/
theorem split_written {text : String} {segments : List Segment}
    (h : ∀ s ∈ segments, s.WellFormed) (written : text.toList = segments.flatMap written) :
    split text = .ok segments := by
  rw [split_eq_ok_iff, written]
  exact scan_written h

/-- A text in which the first field has no point in front of it. -/
theorem split_field_written {text name : String} {segments : List Segment}
    (first : (field name).WellFormed) (h : ∀ s ∈ segments, s.WellFormed)
    (written : text.toList = name.toList ++ segments.flatMap written) :
    split text = .ok (.field name :: segments) := by
  have noPoint : ∀ c ∈ (name.toList ++ segments.flatMap Segment.written).head?, c ≠ '.' := by
    intro c hc
    cases hname : name.toList with
    | nil => exact absurd hname (by simpa using first.1)
    | cons d rest =>
        rw [hname] at hc
        cases hc
        exact (first.2 c (hname ▸ List.mem_cons_self ..)).1
  rw [split_eq_ok_iff, written, scan_behindIndex_of_ne noPoint, scan_start_field_written first,
    scan_written h]
  rfl

end Segment

end TaintFlow
