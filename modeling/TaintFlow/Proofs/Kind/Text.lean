import TaintFlow.Kind.Text
import TaintFlow.Proofs.Checked

/-!
# Kinds and transforms that are read from text

Kinds and transforms print as more texts than are read back.  Of the kinds exactly the named ones
are read, from names without the separators of transforms (`Kind.ofText_eq_ok_iff`).  Of the
transforms these are the proper ones: a name that does not begin like a recorded source, or the
source of such a kind (`Transform.ofText_eq_ok_iff`).

A list of transforms is cut at every colon when it is read.  What comes back are the lists of
transforms that are readable, which is to say proper and without a colon in their text
(`Transform.listOfText_eq_ok_iff`).
-/

namespace TaintFlow

/-! ## Names of kinds -/

namespace Kind

/-- The names from which kinds are read: not empty, and without the separators that stand behind
transforms. -/
def IsName (text : String) : Prop := text ≠ "" ∧ ':' ∉ text.toList ∧ '@' ∉ text.toList

instance : DecidablePred IsName := fun _ => inferInstanceAs (Decidable (_ ∧ _ ∧ _))

theorem IsName.after?_eq_none {name beginning : String} (h : IsName name)
    (colon : ':' ∈ beginning.toList) : Affix.after? beginning name = none := by
  rw [Affix.after?_eq_none_iff]
  intro begins
  exact h.2.1 (begins.subset colon)

theorem toText_named (name : String) : (named name).toText = name := by
  show "" ++ "" ++ name = name
  simp

/-- Exactly the named kinds are read, each from its name. -/
theorem ofText_eq_ok_iff {text : String} {k : Kind} :
    ofText text = .ok k ↔ IsName text ∧ k = named text := by
  constructor
  · intro h
    simp only [ofText] at h
    split at h
    next => cases h
    next some =>
      split at h
      next => cases h
      next =>
        split at h
        next => cases h
        next =>
          split at h
          next => cases h
          next separators =>
            cases h
            refine ⟨⟨some, ?_, ?_⟩, rfl⟩
            · intro colon
              exact separators (List.any_eq_true.2 ⟨_, colon, by decide⟩)
            · intro commercialAt
              exact separators (List.any_eq_true.2 ⟨_, commercialAt, by decide⟩)
  · rintro ⟨name, rfl⟩
    have separators : ¬(text.toList.any fun c => c = ':' || c = '@') = true := by
      rw [List.any_eq_true]
      rintro ⟨c, hc, separator⟩
      rcases (by simpa using separator : c = ':' ∨ c = '@') with rfl | rfl
      · exact name.2.1 hc
      · exact name.2.2 hc
    simp only [ofText]
    rw [if_neg name.1, name.after?_eq_none (by decide), name.after?_eq_none (by decide),
      if_neg Bool.noConfusion, if_neg Bool.noConfusion, if_neg separators]

end Kind

/-! ## Proper transforms -/

namespace Transform

/-- The transforms that are read from their own text. -/
def Proper : Transform → Prop
  | .named name => name ≠ "" ∧ ¬"SourceAsTransform[".toList <+: name.toList
  | .source (.named name) [] [] => Kind.IsName name
  | .source .. => False

theorem toText_ofKind_named (name : String) :
    (ofKind (.named name)).toText = "SourceAsTransform[" ++ (name ++ "]") := by
  show "SourceAsTransform[" ++ ("" ++ "" ++ name) ++ "]" = _
  rw [String.append_assoc]
  rfl

theorem proper_named_iff {name : String} :
    (named name).Proper ↔ name ≠ "" ∧ Affix.after? "SourceAsTransform[" name = none := by
  rw [Affix.after?_eq_none_iff]
  rfl

/-- The proper sources are those of named kinds. -/
theorem exists_name_of_proper_source {base : BaseKind} {l g : List Transform}
    (h : (source base l g).Proper) :
    ∃ name, source base l g = ofKind (.named name) ∧ Kind.IsName name := by
  unfold Proper at h
  split at h
  next clash => cases clash
  next name same =>
    rw [same]
    exact ⟨name, rfl, h⟩
  next => exact h.elim

/-- Exactly the proper transforms are read, each from its text. -/
theorem ofText_eq_ok_iff {text : String} {t : Transform} :
    ofText text = .ok t ↔ t.Proper ∧ text = t.toText := by
  constructor
  · intro h
    rw [ofText] at h
    split at h
    next => cases h
    next nonempty =>
      dsimp only at h
      split at h
      next other =>
        cases h
        exact ⟨proper_named_iff.2 ⟨nonempty, other⟩, rfl⟩
      next rest hrest =>
        split at h
        next name hname =>
          obtain ⟨k, hk, h⟩ := Checked.bind_eq_ok_iff.1 h
          obtain ⟨isName, rfl⟩ := Kind.ofText_eq_ok_iff.1 hk
          cases h
          rw [Affix.after?_eq_some_iff] at hrest
          rw [Affix.before?_eq_some_iff] at hname
          rw [toText_ofKind_named, hrest, hname]
          exact ⟨isName, rfl⟩
        next => cases h
  · rintro ⟨proper, rfl⟩
    cases t with
    | named name =>
        obtain ⟨nonempty, other⟩ := proper_named_iff.1 proper
        show ofText name = .ok (named name)
        rw [ofText, if_neg nonempty, other]
        rfl
    | source base l g =>
        obtain ⟨name, same, isName⟩ := exists_name_of_proper_source proper
        have nonempty : "SourceAsTransform[" ++ (name ++ "]") ≠ "" := by simp
        have source : Affix.after? "SourceAsTransform[" ("SourceAsTransform[" ++ (name ++ "]")) =
            some (name ++ "]") := Affix.after?_eq_some_iff.2 rfl
        have inside : Affix.before? "]" (name ++ "]") = some name :=
          Affix.before?_eq_some_iff.2 rfl
        rw [same, toText_ofKind_named, ofText, if_neg nonempty, source]
        dsimp only
        rw [inside]
        dsimp only
        rw [Kind.ofText_eq_ok_iff.2 ⟨isName, rfl⟩]
        rfl

/-- The texts from which transforms are read: not empty, and with the name of a kind in brackets if
they begin like a recorded source. -/
def IsText (text : String) : Prop :=
  text ≠ "" ∧ ("SourceAsTransform[".toList <+: text.toList →
    ∃ name, Kind.IsName name ∧ text = "SourceAsTransform[" ++ (name ++ "]"))

theorem isText_iff {text : String} : IsText text ↔ ∃ t : Transform, t.Proper ∧ text = t.toText := by
  constructor
  · rintro ⟨nonempty, source⟩
    by_cases begins : "SourceAsTransform[".toList <+: text.toList
    · obtain ⟨name, isName, same⟩ := source begins
      exact ⟨ofKind (.named name), isName, same.trans (toText_ofKind_named name).symm⟩
    · exact ⟨named text, ⟨nonempty, begins⟩, rfl⟩
  · rintro ⟨t, proper, rfl⟩
    cases t with
    | named name =>
        obtain ⟨nonempty, other⟩ := proper
        exact ⟨nonempty, fun begins => absurd begins other⟩
    | source base l g =>
        obtain ⟨name, same, isName⟩ := exists_name_of_proper_source proper
        rw [same, toText_ofKind_named]
        exact ⟨by simp, fun _ => ⟨name, isName, rfl⟩⟩

/-! ## Readable lists of transforms -/

/-- The transforms that are read from their text when it stands among others. -/
def Readable : Transform → Prop
  | .named name =>
      name ≠ "" ∧ ':' ∉ name.toList ∧ ¬"SourceAsTransform[".toList <+: name.toList
  | .source (.named name) [] [] => Kind.IsName name
  | .source .. => False

instance : DecidablePred Readable
  | .named _ => inferInstanceAs (Decidable (_ ∧ _ ∧ ¬_))
  | .source (.named name) [] [] => inferInstanceAs (Decidable (Kind.IsName name))
  | .source (.named _) (_ :: _) _ => isFalse id
  | .source (.named _) [] (_ :: _) => isFalse id
  | .source (.partialSink _) _ _ => isFalse id
  | .source (.triggeredSink ..) _ _ => isFalse id

/-- A readable transform is a proper one without a separator in its text. -/
theorem readable_iff {t : Transform} : t.Readable ↔ t.Proper ∧ ':' ∉ t.toText.toList := by
  cases t with
  | named name =>
      constructor
      · rintro ⟨nonempty, colon, other⟩
        exact ⟨⟨nonempty, other⟩, colon⟩
      · rintro ⟨⟨nonempty, other⟩, colon⟩
        exact ⟨nonempty, colon, other⟩
  | source base l g =>
      have same : (source base l g).Readable = (source base l g).Proper := by
        unfold Readable Proper
        split
        next clash => cases clash
        next => rfl
        next => rfl
      rw [same, iff_self_and]
      intro proper
      obtain ⟨name, same, isName⟩ := exists_name_of_proper_source proper
      rw [same, toText_ofKind_named]
      simpa using isName.2.1

/-- Exactly the lists of readable transforms are read, each from its text, the empty list never. -/
theorem listOfText_eq_ok_iff {text : String} {l : List Transform} :
    listOfText text = .ok l ↔ l ≠ [] ∧ (∀ t ∈ l, t.Readable) ∧ text = listToText l := by
  rw [listOfText, Checked.mapM_eq_ok_iff_of_inverse ofText_eq_ok_iff]
  constructor
  · rintro ⟨proper, split⟩
    refine ⟨?_, fun t ht => readable_iff.2 ⟨proper t ht, ?_⟩, ?_⟩
    · rintro rfl
      exact Separated.split_ne_nil ':' text split
    · have piece : t.toText ∈ Separated.split ':' text := split ▸ List.mem_map_of_mem ht
      exact Separated.not_mem_of_mem_split piece
    · rw [listToText, ← split, Separated.join_split]
  · rintro ⟨nonempty, readable, rfl⟩
    refine ⟨fun t ht => (readable_iff.1 (readable t ht)).1, ?_⟩
    refine Separated.split_join (by simpa using nonempty) ?_
    intro piece hpiece
    obtain ⟨t, ht, rfl⟩ := List.mem_map.1 hpiece
    exact (readable_iff.1 (readable t ht)).2

end Transform

end TaintFlow
