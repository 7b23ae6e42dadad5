/-!
# Prefixes and suffixes of texts

`after?`, `before?` and `between?` take a fixed beginning and a fixed end off a text.  Each is
pinned down by one statement: it returns `r` exactly when the text is `r` with the fixed parts put
back.
-/

namespace TaintFlow.Affix

/-- What follows `beginning` in a list that starts with it. -/
def restAfter : List Char → List Char → Option (List Char)
  | [], cs => some cs
  | _ :: _, [] => none
  | b :: beginning, c :: cs => if b = c then restAfter beginning cs else none

theorem restAfter_eq_some_iff {beginning cs r : List Char} :
    restAfter beginning cs = some r ↔ cs = beginning ++ r := by
  induction beginning generalizing cs with
  | nil => simp [restAfter, eq_comm]
  | cons b beginning ih =>
      cases cs with
      | nil => simp [restAfter]
      | cons c cs =>
          simp only [restAfter, List.cons_append, List.cons.injEq]
          split
          next same => simp [ih, same]
          next other => simp [Ne.symm other]

/-- What follows `beginning` in a text that starts with it. -/
def after? (beginning text : String) : Option String :=
  (restAfter beginning.toList text.toList).map String.ofList

/-- What stands before `ending` in a text that ends with it. -/
def before? (ending text : String) : Option String :=
  (restAfter ending.toList.reverse text.toList.reverse).map fun r => String.ofList r.reverse

/-- What stands between `beginning` and `ending` in a text that starts and ends with them. -/
def between? (beginning ending text : String) : Option String :=
  (after? beginning text).bind (before? ending)

theorem after?_eq_some_iff {beginning text r : String} :
    after? beginning text = some r ↔ text = beginning ++ r := by
  simp only [after?, Option.map_eq_some_iff, restAfter_eq_some_iff]
  constructor
  · rintro ⟨cs, h, rfl⟩
    exact String.toList_inj.1 (by simp [h])
  · intro h
    exact ⟨r.toList, by simp [h], by simp⟩

theorem after?_eq_none_iff {beginning text : String} :
    after? beginning text = none ↔ ¬beginning.toList <+: text.toList := by
  rw [Option.eq_none_iff_forall_ne_some]
  constructor
  · rintro absent ⟨rest, hrest⟩
    refine absent (String.ofList rest) (after?_eq_some_iff.2 ?_)
    apply String.toList_inj.1
    rw [← hrest, String.toList_append, String.toList_ofList]
  · intro other rest hrest
    rw [after?_eq_some_iff] at hrest
    subst hrest
    exact other ⟨rest.toList, String.toList_append.symm⟩

theorem before?_eq_some_iff {ending text r : String} :
    before? ending text = some r ↔ text = r ++ ending := by
  simp only [before?, Option.map_eq_some_iff, restAfter_eq_some_iff]
  constructor
  · rintro ⟨cs, h, rfl⟩
    have h := congrArg List.reverse h
    exact String.toList_inj.1 (by simpa using h)
  · intro h
    exact ⟨r.toList.reverse, by simp [h], by simp⟩

theorem between?_eq_some_iff {beginning ending text r : String} :
    between? beginning ending text = some r ↔ text = beginning ++ r ++ ending := by
  simp only [between?, Option.bind_eq_some_iff, after?_eq_some_iff, before?_eq_some_iff]
  constructor
  · rintro ⟨s, rfl, rfl⟩
    simp [String.append_assoc]
  · rintro rfl
    exact ⟨r ++ ending, by simp [String.append_assoc], rfl⟩

end TaintFlow.Affix
