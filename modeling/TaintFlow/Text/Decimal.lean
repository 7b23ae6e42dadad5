/-!
# Numbers in decimal

`Decimal.read?` accepts exactly the non-empty runs of digits, with any number of leading zeros, and
gives their value.  A number reads back from the digits that it prints as.  A negative integer
prints with a sign in front of its digits, so different integers print differently
(`eq_of_toString_int_eq`).
-/

namespace TaintFlow.Decimal

/-- The value of a non-empty run of digits. -/
def read? (text : String) : Option Nat :=
  if text.toList ≠ [] ∧ text.toList.all Char.isDigit then
    some (Nat.ofDigitChars 10 text.toList 0)
  else none

theorem read?_eq_some_iff {text : String} {n : Nat} :
    read? text = some n ↔
      text.toList ≠ [] ∧ (∀ c ∈ text.toList, c.isDigit = true) ∧
        Nat.ofDigitChars 10 text.toList 0 = n := by
  simp only [read?, List.all_eq_true]
  split
  next h => exact ⟨fun e => ⟨h.1, h.2, by simpa using e⟩, fun e => by rw [e.2.2]⟩
  next h =>
    constructor
    · intro e
      simp at e
    · rintro ⟨h₁, h₂, _⟩
      exact absurd ⟨h₁, h₂⟩ h

theorem read?_toString (n : Nat) : read? (toString n) = some n := by
  rw [read?_eq_some_iff]
  refine ⟨?_, ?_, ?_⟩
  · simp [Nat.toDigits_ne_nil]
  · intro c hc
    simp only [Nat.toString_eq_ofList_toDigits, String.toList_ofList] at hc
    exact Nat.isDigit_of_mem_toDigits (by decide) (by decide) hc
  · simp [Nat.ofDigitChars_toDigits]

/-! ## Integers -/

theorem isDigit_of_mem_toString {n : Nat} {c : Char} (h : c ∈ (toString n).toList) :
    c.isDigit = true :=
  (read?_eq_some_iff.1 (read?_toString n)).2.1 c h

theorem toString_negSucc (n : Nat) : toString (Int.negSucc n) = "-" ++ toString (n + 1) := rfl

theorem isDigit_or_eq_minus {n : Int} {c : Char} (h : c ∈ (toString n).toList) :
    c.isDigit = true ∨ c = '-' := by
  cases n with
  | ofNat n => exact Or.inl (isDigit_of_mem_toString h)
  | negSucc n =>
      rw [toString_negSucc, String.toList_append, List.mem_append] at h
      rcases h with sign | digit
      · exact Or.inr (List.mem_singleton.1 sign)
      · exact Or.inl (isDigit_of_mem_toString digit)

theorem not_mem_toString {c : Char} (digit : c.isDigit = false) (sign : c ≠ '-') (n : Int) :
    c ∉ (toString n).toList := by
  intro h
  rcases isDigit_or_eq_minus h with found | found
  · rw [digit] at found
    cases found
  · exact sign found

theorem eq_of_toString_eq {m n : Nat} (h : toString m = toString n) : m = n :=
  Option.some.inj ((read?_toString m).symm.trans ((congrArg read? h).trans (read?_toString n)))

/-- A sign is no digit. -/
theorem toString_ofNat_ne_negSucc (m n : Nat) :
    toString (Int.ofNat m) ≠ toString (Int.negSucc n) := by
  intro same
  have sign : '-' ∈ (toString (Int.negSucc n)).toList := by
    rw [toString_negSucc, String.toList_append, List.mem_append]
    exact Or.inl (List.mem_singleton_self _)
  rw [← same] at sign
  have digit : '-'.isDigit = true := isDigit_of_mem_toString sign
  exact absurd digit (by decide)

theorem eq_of_toString_int_eq {m n : Int} (h : toString m = toString n) : m = n := by
  cases m with
  | ofNat m =>
      cases n with
      | ofNat n => exact congrArg Int.ofNat (eq_of_toString_eq h)
      | negSucc n => exact absurd h (toString_ofNat_ne_negSucc m n)
  | negSucc m =>
      cases n with
      | ofNat n => exact absurd h.symm (toString_ofNat_ne_negSucc n m)
      | negSucc n =>
          rw [toString_negSucc, toString_negSucc, String.append_right_inj] at h
          rw [Nat.succ.inj (eq_of_toString_eq h)]

end TaintFlow.Decimal
