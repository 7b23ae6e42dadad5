import TaintFlow.Json.Reader
import TaintFlow.Proofs.Checked

/-!
# What the readers of JSON accept

A reader of a member returns what the object holds under the name of the member, when it has the
wanted type: `Json.textField_eq_ok_iff` says so of texts and `Json.integerField_eq_ok_iff` of
integers of 64 bits.

`Json.HasOnly` says of a value that it has no members beside the named ones.
-/

namespace TaintFlow.Json

theorem members_eq_ok_iff {v : Json} {members : List (String × Json)} :
    v.members = .ok members ↔ v = .object members := by
  cases v with
  | object others => simp [Json.members]
  | null | bool | integer | point | string | array => simp [Json.members, refuse]

theorem text_eq_ok_iff {v : Json} {text : String} : v.text = .ok text ↔ v = .string text := by
  cases v with
  | string other => simp [Json.text]
  | null | bool | integer | point | array | object => simp [Json.text, refuse]

theorem member_eq_ok_iff {v found : Json} {field : String} {expected : Expectation} :
    v.member field expected = .ok found ↔ v.get? field = some found := by
  rw [member, Checked.bind_eq_ok_iff]
  constructor
  · rintro ⟨members, hmembers, h⟩
    obtain rfl := members_eq_ok_iff.1 hmembers
    rw [get?]
    split at h
    next hfound =>
      cases h
      exact hfound
    next => cases h
  · intro h
    cases v with
    | object members =>
        refine ⟨members, rfl, ?_⟩
        rw [get?] at h
        rw [h]
    | null | bool | integer | point | string | array => cases h

theorem textField_eq_ok_iff {v : Json} {field text : String} :
    v.textField field = .ok text ↔ v.get? field = some (.string text) := by
  rw [textField, Checked.bind_eq_ok_iff]
  constructor
  · rintro ⟨found, hfound, h⟩
    rw [member_eq_ok_iff] at hfound
    split at h
    next =>
      cases h
      exact hfound
    next => cases h
  · intro h
    exact ⟨.string text, member_eq_ok_iff.2 h, rfl⟩

theorem fitsInt64_toInt (n : Int64) : fitsInt64 n.toInt = true := by
  have low : -9223372036854775808 ≤ n.toInt := n.le_toInt
  have high : n.toInt < 9223372036854775808 := n.toInt_lt
  simp [fitsInt64, low, high]

theorem toInt_ofInt_of_fitsInt64 {n : Int} (h : fitsInt64 n = true) :
    (Int64.ofInt n).toInt = n := by
  rw [fitsInt64, Bool.and_eq_true, decide_eq_true_iff, decide_eq_true_iff] at h
  exact Int64.toInt_ofInt_of_le h.1 h.2

theorem integerField_eq_ok_iff {v : Json} {field : String} {n : Int64} :
    v.integerField field = .ok n ↔ v.get? field = some (.integer n.toInt) := by
  rw [integerField, Checked.bind_eq_ok_iff]
  constructor
  · rintro ⟨found, hfound, h⟩
    rw [member_eq_ok_iff] at hfound
    split at h
    next =>
      split at h
      next fits =>
        cases h
        rw [hfound, toInt_ofInt_of_fitsInt64 fits]
      next => cases h
    next => cases h
  · intro h
    refine ⟨.integer n.toInt, member_eq_ok_iff.2 h, ?_⟩
    simp only
    rw [if_pos (fitsInt64_toInt n), Int64.ofInt_toInt]

theorem objectField_eq_ok_iff {v : Json} {field : String} {members : List (String × Json)} :
    v.objectField field = .ok members ↔ v.get? field = some (.object members) := by
  rw [objectField, Checked.bind_eq_ok_iff]
  constructor
  · rintro ⟨found, hfound, h⟩
    rw [member_eq_ok_iff] at hfound
    split at h
    next =>
      cases h
      exact hfound
    next => cases h
  · intro h
    exact ⟨.object members, member_eq_ok_iff.2 h, rfl⟩

theorem nonemptyArrayField_eq_ok_iff {v : Json} {field : String} {items : List Json} :
    v.nonemptyArrayField field = .ok items ↔ items ≠ [] ∧ v.get? field = some (.array items) := by
  rw [nonemptyArrayField, Checked.bind_eq_ok_iff]
  constructor
  · rintro ⟨found, hfound, h⟩
    rw [member_eq_ok_iff] at hfound
    split at h
    next =>
      cases h
      exact ⟨List.cons_ne_nil _ _, hfound⟩
    next => cases h
  · rintro ⟨nonempty, h⟩
    cases items with
    | nil => exact absurd rfl nonempty
    | cons first rest => exact ⟨.array (first :: rest), member_eq_ok_iff.2 h, rfl⟩

/-! ## The members of an object -/

/-- No member has another name than these. -/
def HasOnly (v : Json) (names : List String) : Prop :=
  ∀ key, (v.get? key).isSome = true → key ∈ names

theorem isSome_get?_object_iff {members : List (String × Json)} {key : String} :
    ((object members).get? key).isSome = true ↔ key ∈ members.map Prod.fst := by
  rw [get?, List.lookup_isSome_iff]
  simp

theorem hasOnly_of_subset {members : List (String × Json)} {names : List String}
    (h : members.map Prod.fst ⊆ names) : (object members).HasOnly names :=
  fun _ held => h (isSome_get?_object_iff.1 held)

theorem isObject_of_get? {v found : Json} {key : String} (h : v.get? key = some found) :
    v.isObject = true := by
  cases v with
  | object members => rfl
  | null | bool | integer | point | string | array => cases h

theorem exists_members_of_isObject {v : Json} (h : v.isObject = true) :
    ∃ members, v = .object members := by
  cases v with
  | object members => exact ⟨members, rfl⟩
  | null | bool | integer | point | string | array => cases h

theorem onlyFields_eq_ok_iff {v : Json} {names : List String} :
    v.onlyFields names = .ok () ↔ v.isObject = true ∧ v.HasOnly names := by
  cases v with
  | object members =>
      have named : (object members).HasOnly names ↔ ∀ m ∈ members, m.1 ∈ names := by
        simp only [HasOnly, isSome_get?_object_iff, List.forall_mem_map]
      rw [named, onlyFields, Json.members, Checked.bind_ok]
      split
      next none => simpa [isObject] using none
      next other found =>
        have stranger := List.find?_some found
        have member := List.mem_of_find?_eq_some found
        simp only [refuse, reduceCtorEq, false_iff, not_and, not_forall]
        exact fun _ => ⟨_, member, by simpa using stranger⟩
  | null | bool | integer | point | string | array =>
      simp [onlyFields, Json.members, refuse, isObject]

end TaintFlow.Json
