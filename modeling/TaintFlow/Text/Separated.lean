/-!
# Texts with separators

`split` cuts a text at every separator, `join` writes the pieces with a separator between them.
`join_split` says that nothing is lost, `split_join` that pieces without a separator come back.  A
text may be cut at its first separator (`split_append`) and joined in two parts (`join_append`).
-/

namespace TaintFlow.Separated

/-- The runs between the separators of a list. -/
def pieces (sep : Char) : List Char → List (List Char)
  | [] => [[]]
  | c :: rest =>
      if c = sep then [] :: pieces sep rest
      else
        match pieces sep rest with
        | [] => [[c]]
        | piece :: others => (c :: piece) :: others

/-- The lists, one after the other, with the separator between them. -/
def joined (sep : Char) : List (List Char) → List Char
  | [] => []
  | [piece] => piece
  | piece :: others => piece ++ sep :: joined sep others

/-- The pieces of a text between separators. -/
def split (sep : Char) (text : String) : List String :=
  (pieces sep text.toList).map String.ofList

/-- The pieces with a separator between them. -/
def join (sep : Char) (texts : List String) : String :=
  String.ofList (joined sep (texts.map String.toList))

theorem pieces_ne_nil (sep : Char) (cs : List Char) : pieces sep cs ≠ [] := by
  cases cs with
  | nil => simp [pieces]
  | cons c rest =>
      simp only [pieces]
      split
      · simp
      · split <;> simp

theorem joined_cons {sep : Char} {piece : List Char} {others : List (List Char)}
    (h : others ≠ []) : joined sep (piece :: others) = piece ++ sep :: joined sep others := by
  cases others with
  | nil => exact absurd rfl h
  | cons => rfl

theorem joined_pieces (sep : Char) (cs : List Char) : joined sep (pieces sep cs) = cs := by
  induction cs with
  | nil => rfl
  | cons c rest ih =>
      simp only [pieces]
      split
      next same => rw [joined_cons (pieces_ne_nil sep rest), ih, same, List.nil_append]
      next =>
        split
        next none => exact absurd none (pieces_ne_nil sep rest)
        next piece others some =>
          rw [some] at ih
          cases others with
          | nil => simpa [joined] using ih
          | cons => simpa [joined] using ih

theorem pieces_of_not_mem {sep : Char} {cs : List Char} (h : sep ∉ cs) :
    pieces sep cs = [cs] := by
  induction cs with
  | nil => rfl
  | cons c rest ih =>
      simp only [List.mem_cons, not_or] at h
      simp [pieces, Ne.symm h.1, ih h.2]

theorem pieces_append {sep : Char} {piece rest : List Char} (h : sep ∉ piece) :
    pieces sep (piece ++ sep :: rest) = piece :: pieces sep rest := by
  induction piece with
  | nil => simp [pieces]
  | cons c piece ih =>
      simp only [List.mem_cons, not_or] at h
      simp [pieces, Ne.symm h.1, ih h.2]

theorem pieces_joined {sep : Char} {parts : List (List Char)} (some : parts ≠ [])
    (h : ∀ part ∈ parts, sep ∉ part) : pieces sep (joined sep parts) = parts := by
  induction parts with
  | nil => exact absurd rfl some
  | cons part others ih =>
      cases others with
      | nil => exact pieces_of_not_mem (h part (by simp))
      | cons next others =>
          rw [joined_cons (by simp), pieces_append (h part (by simp)),
            ih (by simp) fun p hp => h p (by simp [hp])]

theorem not_mem_of_mem_pieces {sep : Char} {cs piece : List Char} (h : piece ∈ pieces sep cs) :
    sep ∉ piece := by
  induction cs generalizing piece with
  | nil => simp_all [pieces]
  | cons c rest ih =>
      simp only [pieces] at h
      split at h
      next =>
        rcases List.mem_cons.1 h with rfl | h
        · simp
        · exact ih h
      next other =>
        split at h
        next none => exact absurd none (pieces_ne_nil sep rest)
        next first others some =>
          rcases List.mem_cons.1 h with rfl | h
          · simp [Ne.symm other, @ih first (by simp [some])]
          · exact ih (by simp [some, h])

theorem split_ne_nil (sep : Char) (text : String) : split sep text ≠ [] := by
  simpa [split] using pieces_ne_nil sep text.toList

theorem not_mem_of_mem_split {sep : Char} {text piece : String} (h : piece ∈ split sep text) :
    sep ∉ piece.toList := by
  obtain ⟨cs, hcs, rfl⟩ := List.mem_map.1 h
  rw [String.toList_ofList]
  exact not_mem_of_mem_pieces hcs

theorem join_split (sep : Char) (text : String) : join sep (split sep text) = text := by
  simp [join, split, Function.comp_def, joined_pieces]

theorem split_join {sep : Char} {texts : List String} (some : texts ≠ [])
    (h : ∀ text ∈ texts, sep ∉ text.toList) : split sep (join sep texts) = texts := by
  simp only [split, join, String.toList_ofList]
  rw [pieces_joined (by simpa using some) (by simpa using h)]
  simp [Function.comp_def]

/-! ## Cutting and joining in parts -/

theorem split_of_not_mem {sep : Char} {text : String} (h : sep ∉ text.toList) :
    split sep text = [text] := by
  rw [split, pieces_of_not_mem h, List.map_singleton, String.ofList_toList]

/-- The first piece of a text ends at the first separator. -/
theorem split_append {sep : Char} {piece rest : String} (h : sep ∉ piece.toList) :
    split sep (piece ++ (String.singleton sep ++ rest)) = piece :: split sep rest := by
  rw [split, String.toList_append, String.toList_append, String.toList_singleton,
    List.singleton_append, pieces_append h, List.map_cons, String.ofList_toList]
  rfl

theorem join_singleton (sep : Char) (text : String) : join sep [text] = text := by
  rw [join, List.map_singleton, joined, String.ofList_toList]

theorem join_cons {sep : Char} {text : String} {texts : List String} (some : texts ≠ []) :
    join sep (text :: texts) = text ++ (String.singleton sep ++ join sep texts) := by
  apply String.toList_inj.1
  rw [join, List.map_cons, joined_cons (by simpa using some), join]
  simp

/-- Texts may be joined in two parts. -/
theorem join_append {sep : Char} {texts others : List String} (some : others ≠ []) :
    join sep (texts ++ others) =
      (if texts.isEmpty then "" else join sep texts ++ String.singleton sep) ++
        join sep others := by
  induction texts with
  | nil => simp
  | cons text texts ih =>
      rw [List.cons_append, join_cons (List.append_ne_nil_of_right_ne_nil _ some), ih]
      apply String.toList_inj.1
      cases texts with
      | nil => simp [join_singleton]
      | cons next texts => simp [join_cons]

theorem not_mem_join {sep c : Char} (other : c ≠ sep) {texts : List String}
    (h : ∀ text ∈ texts, c ∉ text.toList) : c ∉ (join sep texts).toList := by
  induction texts with
  | nil => simp [join, joined]
  | cons text texts ih =>
      obtain ⟨first, rest⟩ := List.forall_mem_cons.1 h
      cases texts with
      | nil => rwa [join_singleton]
      | cons next texts =>
          rw [join_cons (List.cons_ne_nil next texts)]
          simp [first, other, ih rest]

end TaintFlow.Separated
