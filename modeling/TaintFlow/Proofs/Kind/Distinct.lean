import TaintFlow.Proofs.Kind.Text
import TaintFlow.Text.Decimal

/-!
# Kinds that print differently

Colons have two uses in the texts of kinds: they stand behind global transforms, and they stand
between the words of a partial or triggered sink.  So a sink could be taken for a name behind
transforms.  It is not, if no transform is named like the word with which the sink begins
(`Kind.PlainNames`).  Cut at its colons, what stands behind the local transforms of a kind is the
list of its global transforms and then the words of its base.  If two such lists are the same and
one base has more words, its first word is a transform of the other list, which it cannot be
(`Kind.eq_of_words_eq`).

The local transforms stand before the only `@` and are read back from their text.  So kinds with
plain names are known from their texts (`Kind.eq_of_toText_eq`).
-/

namespace TaintFlow

/-! ## Lists that print alike -/

/-- If elements that print alike have the same image, so have lists. -/
theorem map_eq_map_of_imp {α β γ : Type} {print print' : α → β} {image : α → γ} {l m : List α}
    (step : ∀ a ∈ l, ∀ b ∈ m, print a = print' b → image a = image b)
    (same : l.map print = m.map print') : l.map image = m.map image := by
  induction l generalizing m with
  | nil =>
      cases m with
      | nil => rfl
      | cons b m => cases same
  | cons a l ih =>
      cases m with
      | nil => cases same
      | cons b m =>
          obtain ⟨first, rest⟩ := List.cons.inj same
          have others := ih (fun a ha b hb => step a (List.mem_cons_of_mem _ ha) b
            (List.mem_cons_of_mem _ hb)) rest
          rw [List.map_cons, List.map_cons, others,
            step a (List.mem_cons_self ..) b (List.mem_cons_self ..) first]

theorem eq_of_map_eq {α β : Type} {print : α → β} {l m : List α}
    (step : ∀ a ∈ l, ∀ b ∈ m, print a = print b → a = b) (same : l.map print = m.map print) :
    l = m := by
  have images : l.map id = m.map id := map_eq_map_of_imp step same
  rwa [List.map_id, List.map_id] at images

/-! ## Plain names -/

/-- The names in a base are names of kinds. -/
def BaseKind.PlainNames : BaseKind → Prop
  | .named name => Kind.IsName name
  | .partialSink sink => Kind.IsName sink.name ∧ Kind.IsName sink.label
  | .triggeredSink sink _ => Kind.IsName sink.name ∧ Kind.IsName sink.label

instance : DecidablePred BaseKind.PlainNames
  | .named _ => inferInstanceAs (Decidable (Kind.IsName _))
  | .partialSink _ => inferInstanceAs (Decidable (_ ∧ _))
  | .triggeredSink .. => inferInstanceAs (Decidable (_ ∧ _))

namespace Transform

/-- The words with which the texts of partial and triggered sinks begin. -/
def sinkWords : List String := ["Partial", "TriggeredPartial"]

/-- A declared transform, or the recorded source of a named kind.  The name of a declared one has no
separator, is no word with which a sink begins, and does not begin like a recorded source. -/
def PlainNames : Transform → Prop
  | .named name =>
      Kind.IsName name ∧ name ∉ sinkWords ∧ ¬"SourceAsTransform[".toList <+: name.toList
  | .source (.named name) [] [] => Kind.IsName name
  | .source .. => False

instance : DecidablePred PlainNames
  | .named _ => inferInstanceAs (Decidable (_ ∧ _ ∧ ¬_))
  | .source (.named name) [] [] => inferInstanceAs (Decidable (Kind.IsName name))
  | .source (.named _) (_ :: _) _ => isFalse id
  | .source (.named _) [] (_ :: _) => isFalse id
  | .source (.partialSink _) _ _ => isFalse id
  | .source (.triggeredSink ..) _ _ => isFalse id

end Transform

/-- All names in a kind and its transforms are plain. -/
structure Kind.PlainNames (k : Kind) : Prop where
  base : k.base.PlainNames
  localTransforms : ∀ t ∈ k.localTransforms, t.PlainNames
  globalTransforms : ∀ t ∈ k.globalTransforms, t.PlainNames

instance : DecidablePred Kind.PlainNames := fun k =>
  decidable_of_iff (k.base.PlainNames ∧ (∀ t ∈ k.localTransforms, t.PlainNames) ∧
      ∀ t ∈ k.globalTransforms, t.PlainNames)
    ⟨fun h => ⟨h.1, h.2.1, h.2.2⟩, fun h => ⟨h.base, h.localTransforms, h.globalTransforms⟩⟩

/-! ## Texts of transforms -/

namespace Transform

variable {t : Transform} {l m : List Transform}

theorem PlainNames.readable (h : t.PlainNames) : t.Readable := by
  unfold PlainNames at h
  split at h
  next name => exact ⟨h.1.1, h.1.2.1, h.2.2⟩
  next name => exact h
  next => exact h.elim

theorem PlainNames.separators (h : t.PlainNames) :
    ':' ∉ t.toText.toList ∧ '@' ∉ t.toText.toList := by
  refine ⟨(readable_iff.1 h.readable).2, ?_⟩
  unfold PlainNames at h
  split at h
  next name => exact h.1.2.2
  next name =>
    show '@' ∉ (ofKind (.named name)).toText.toList
    rw [toText_ofKind_named]
    simpa using h.2.2
  next => exact h.elim

/-- No transform prints as the first word of a sink. -/
theorem PlainNames.toText_not_mem_sinkWords (h : t.PlainNames) : t.toText ∉ sinkWords := by
  unfold PlainNames at h
  split at h
  next name => exact h.2.1
  next name =>
    show (ofKind (.named name)).toText ∉ sinkWords
    rw [toText_ofKind_named]
    intro word
    rcases List.mem_pair.1 word with same | same
    · exact absurd (congrArg String.toList same) (by simp)
    · exact absurd (congrArg String.toList same) (by simp)
  next => exact h.elim

/-- Lists that are read back from their texts have different texts, which an empty list has not. -/
theorem eq_of_front_eq (h : ∀ t ∈ l, t.Readable) (h' : ∀ t ∈ m, t.Readable)
    (same : (if l.isEmpty then [] else [listToText l]) =
      if m.isEmpty then [] else [listToText m]) : l = m := by
  cases l with
  | nil =>
      cases m with
      | nil => rfl
      | cons u m => cases same
  | cons t l =>
      cases m with
      | nil => cases same
      | cons u m =>
          have read := listOfText_eq_ok_iff.2 ⟨List.cons_ne_nil t l, h, rfl⟩
          rw [List.singleton_inj.1 same,
            listOfText_eq_ok_iff.2 ⟨List.cons_ne_nil u m, h', rfl⟩] at read
          exact (Except.ok.inj read).symm

theorem eq_of_toText_eq {u : Transform} (h : t.Readable) (h' : u.Readable)
    (same : t.toText = u.toText) : t = u := by
  have read := ofText_eq_ok_iff.2 ⟨(readable_iff.1 h).1, rfl⟩
  rw [ofText_eq_ok_iff.2 ⟨(readable_iff.1 h').1, same⟩] at read
  exact (Except.ok.inj read).symm

end Transform

/-! ## Words of bases -/

namespace BaseKind

/-- The pieces of the text of a base between its colons. -/
def words : BaseKind → List String
  | .named name => [name]
  | .partialSink sink => ["Partial", sink.name, sink.label]
  | .triggeredSink sink rule =>
      ["TriggeredPartial", sink.name, sink.label, toString rule.toInt]

theorem words_ne_nil (b : BaseKind) : b.words ≠ [] := by
  cases b <;> exact List.cons_ne_nil _ _

theorem join_words (b : BaseKind) : Separated.join ':' b.words = b.toText := by
  have colon : String.singleton ':' = ":" := rfl
  cases b with
  | named name => exact Separated.join_singleton ':' name
  | partialSink sink =>
      have first : "Partial:" = "Partial" ++ ":" := by decide
      show Separated.join ':' ["Partial", sink.name, sink.label] =
        "Partial:" ++ sink.name ++ ":" ++ sink.label
      simp only [Separated.join_cons (List.cons_ne_nil _ _), Separated.join_singleton, colon, first,
        String.append_assoc]
  | triggeredSink sink rule =>
      have first : "TriggeredPartial:" = "TriggeredPartial" ++ ":" := by decide
      show Separated.join ':' ["TriggeredPartial", sink.name, sink.label, toString rule.toInt] =
        "TriggeredPartial:" ++ sink.name ++ ":" ++ sink.label ++ ":" ++ toString rule.toInt
      simp only [Separated.join_cons (List.cons_ne_nil _ _), Separated.join_singleton, colon, first,
        String.append_assoc]

theorem PlainNames.separators {b : BaseKind} (h : b.PlainNames) :
    ∀ word ∈ b.words, ':' ∉ word.toList ∧ '@' ∉ word.toList := by
  cases b with
  | named name =>
      rw [words, List.forall_mem_singleton]
      exact h.2
  | partialSink sink =>
      obtain ⟨name, label⟩ := h
      rw [words, List.forall_mem_cons, List.forall_mem_cons, List.forall_mem_singleton]
      exact ⟨by decide, name.2, label.2⟩
  | triggeredSink sink rule =>
      obtain ⟨name, label⟩ := h
      rw [words, List.forall_mem_cons, List.forall_mem_cons, List.forall_mem_cons,
        List.forall_mem_singleton]
      have code : ∀ c, c.isDigit = false → c ≠ '-' → c ∉ (toString rule.toInt).toList :=
        fun _ digit sign => Decimal.not_mem_toString digit sign _
      exact ⟨by decide, name.2, label.2, code ':' rfl (by decide), code '@' rfl (by decide)⟩

/-- The first word of a base with more than one is that of a sink. -/
theorem mem_sinkWords_of_words {b : BaseKind} {word : String} {rest : List String}
    (h : b.words = word :: rest) (more : rest ≠ []) : word ∈ Transform.sinkWords := by
  cases b with
  | named name =>
      injection h with _ none
      exact absurd none.symm more
  | partialSink sink =>
      injection h with same
      exact List.mem_pair.2 (Or.inl same.symm)
  | triggeredSink sink rule =>
      injection h with same
      exact List.mem_pair.2 (Or.inr same.symm)

theorem eq_of_words_eq {b c : BaseKind} (h : b.words = c.words) : b = c := by
  cases b with
  | named name =>
      cases c with
      | named name' =>
          cases List.singleton_inj.1 h
          rfl
      | partialSink | triggeredSink => exact absurd (congrArg List.length h) (by simp [words])
  | partialSink sink =>
      cases c with
      | partialSink sink' =>
          injection h with _ h
          injection h with name h
          injection h with label
          cases sink
          cases sink'
          cases name
          cases label
          rfl
      | named | triggeredSink => exact absurd (congrArg List.length h) (by simp [words])
  | triggeredSink sink rule =>
      cases c with
      | triggeredSink sink' rule' =>
          injection h with _ h
          injection h with name h
          injection h with label h
          injection h with code
          cases Int64.toInt_inj.1 (Decimal.eq_of_toString_int_eq code)
          cases sink
          cases sink'
          cases name
          cases label
          rfl
      | named | partialSink => exact absurd (congrArg List.length h) (by simp [words])

end BaseKind

/-! ## Texts of kinds -/

namespace Kind

variable {k k' : Kind}

/-- The pieces between colons of what stands behind the local transforms. -/
def words (k : Kind) : List String := k.globalTransforms.map Transform.toText ++ k.base.words

theorem words_ne_nil (k : Kind) : k.words ≠ [] :=
  List.append_ne_nil_of_right_ne_nil _ k.base.words_ne_nil

theorem toText_eq (k : Kind) :
    k.toText = (if k.localTransforms.isEmpty then "" else
      Transform.listToText k.localTransforms ++ "@") ++ Separated.join ':' k.words := by
  have colon : String.singleton ':' = ":" := rfl
  rw [words, Separated.join_append k.base.words_ne_nil, BaseKind.join_words, colon, toText,
    assemble, List.isEmpty_map, List.isEmpty_map, String.append_assoc]
  rfl

theorem PlainNames.separators_words (h : k.PlainNames) :
    ∀ word ∈ k.words, ':' ∉ word.toList ∧ '@' ∉ word.toList := by
  rw [words, List.forall_mem_append, List.forall_mem_map]
  exact ⟨fun t ht => (h.globalTransforms t ht).separators, h.base.separators⟩

/-- A text is cut at its only `@`, behind the local transforms. -/
theorem split_toText (h : k.PlainNames) :
    Separated.split '@' k.toText =
      (if k.localTransforms.isEmpty then [] else [Transform.listToText k.localTransforms]) ++
        [Separated.join ':' k.words] := by
  have rest : '@' ∉ (Separated.join ':' k.words).toList :=
    Separated.not_mem_join (by decide) fun word hword => (h.separators_words word hword).2
  rw [toText_eq]
  cases none : k.localTransforms.isEmpty with
  | true => simpa using Separated.split_of_not_mem rest
  | false =>
      have front : '@' ∉ (Transform.listToText k.localTransforms).toList := by
        refine Separated.not_mem_join (by decide) fun text htext => ?_
        obtain ⟨t, ht, rfl⟩ := List.mem_map.1 htext
        exact (h.localTransforms t ht).separators.2
      have cut : Separated.split '@' (Transform.listToText k.localTransforms ++
          (String.singleton '@' ++ Separated.join ':' k.words)) = _ := Separated.split_append front
      rw [Separated.split_of_not_mem rest] at cut
      rw [if_neg Bool.noConfusion, if_neg Bool.noConfusion, String.append_assoc]
      exact cut

/-- The words of one base do not end those of a longer one behind plain transforms. -/
theorem eq_nil_of_words_append {b c : BaseKind} {l : List Transform} {between : List String}
    (h : ∀ t ∈ l, t.PlainNames) (front : ∀ text ∈ between, text ∈ l.map Transform.toText)
    (same : c.words = between ++ b.words) : between = [] := by
  cases between with
  | nil => rfl
  | cons word between =>
      have more : between ++ b.words ≠ [] :=
        List.append_ne_nil_of_right_ne_nil _ b.words_ne_nil
      have sink := BaseKind.mem_sinkWords_of_words same more
      obtain ⟨t, ht, rfl⟩ := List.mem_map.1 (front word (List.mem_cons_self ..))
      exact absurd sink (h t ht).toText_not_mem_sinkWords

/-- The words of a kind are those of its global transforms and its base in one way only. -/
theorem eq_of_words_eq (h : k.PlainNames) (h' : k'.PlainNames) (same : k.words = k'.words) :
    k.globalTransforms = k'.globalTransforms ∧ k.base = k'.base := by
  have globals := fun t ht => (h.globalTransforms t ht).readable
  have globals' := fun t ht => (h'.globalTransforms t ht).readable
  rcases List.append_eq_append_iff.1 same with ⟨between, texts, words⟩ | ⟨between, texts, words⟩
  · have none := eq_nil_of_words_append h'.globalTransforms
      (fun text htext => texts ▸ List.mem_append_right _ htext) words
    subst none
    rw [List.append_nil] at texts
    refine ⟨eq_of_map_eq (fun t ht u hu => ?_) texts.symm, BaseKind.eq_of_words_eq words⟩
    exact Transform.eq_of_toText_eq (globals t ht) (globals' u hu)
  · have none := eq_nil_of_words_append h.globalTransforms
      (fun text htext => texts ▸ List.mem_append_right _ htext) words
    subst none
    rw [List.append_nil] at texts
    refine ⟨eq_of_map_eq (fun t ht u hu => ?_) texts, (BaseKind.eq_of_words_eq words).symm⟩
    exact Transform.eq_of_toText_eq (globals t ht) (globals' u hu)

/-- Kinds with plain names and the same text are the same kind. -/
theorem eq_of_toText_eq (h : k.PlainNames) (h' : k'.PlainNames) (same : k.toText = k'.toText) :
    k = k' := by
  have cut := split_toText h
  rw [same, split_toText h'] at cut
  obtain ⟨front, rest⟩ := List.append_inj' cut rfl
  have words : k.words = k'.words := by
    have rest := congrArg (Separated.split ':') (List.singleton_inj.1 rest)
    rw [Separated.split_join k'.words_ne_nil fun word hword => (h'.separators_words word hword).1,
      Separated.split_join k.words_ne_nil fun word hword => (h.separators_words word hword).1]
      at rest
    exact rest.symm
  obtain ⟨globals, base⟩ := eq_of_words_eq h h' words
  have locals : k.localTransforms = k'.localTransforms :=
    Transform.eq_of_front_eq (fun t ht => (h.localTransforms t ht).readable)
      (fun t ht => (h'.localTransforms t ht).readable) front.symm
  cases k
  cases k'
  cases base
  cases locals
  cases globals
  rfl

end Kind

end TaintFlow
