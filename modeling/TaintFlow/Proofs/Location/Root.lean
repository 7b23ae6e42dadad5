import TaintFlow.Proofs.Location.Segment
import TaintFlow.Location.Root

/-!
# The texts of roots

`Root.Written` says how a root is written in a configuration: an argument as a decimal number
between parentheses, any other root as its text, and the receiver of other analyzers not at all.  A
text is read as a root exactly when the root is written so (`Root.ofText_eq_ok_iff`).  The number
may have any length, and it is its value that decides: a text whose value is the encoding of another
root is refused (`Root.ofText_of_large`).

So a root is read back from its text (`Root.ofText_toText`), and the one root for which that is
refused is returned for no text (`Root.ne_canonicalThis_of_ofText`).  The text of a root is the name
of a field, so it ends where the path begins (`Root.wellFormed_toText`).
-/

namespace TaintFlow

/-- The digits are those of `n`, perhaps with zeros in front. -/
structure Decimal.Denotes (digits : String) (n : Nat) : Prop where
  nonempty : digits ≠ ""
  digit : ∀ c ∈ digits.toList, c.isDigit = true
  value : Nat.ofDigitChars 10 digits.toList 0 = n

theorem Decimal.read?_eq_some_iff_denotes {digits : String} {n : Nat} :
    read? digits = some n ↔ Denotes digits n := by
  rw [read?_eq_some_iff, ne_eq, String.toList_eq_nil_iff]
  exact ⟨fun ⟨nonempty, digit, value⟩ => ⟨nonempty, digit, value⟩,
    fun ⟨nonempty, digit, value⟩ => ⟨nonempty, digit, value⟩⟩

theorem ArgumentPosition.ofText?_eq_some_iff {text : String} {position : ArgumentPosition} :
    ofText? text = some position ↔ Decimal.Denotes text position.val := by
  rw [ofText?, Option.bind_eq_some_iff, ← Decimal.read?_eq_some_iff_denotes]
  constructor
  · rintro ⟨n, read, h⟩
    split at h
    next =>
      cases h
      exact read
    next => cases h
  · intro read
    exact ⟨position.val, read, dif_pos position.isLt⟩

namespace Root

/-! ## What is read as a root -/

/-- How roots are written.  Leading zeros do not count. -/
inductive Written : Root → String → Prop where
  /-- An argument, with the digits of its position. -/
  | argument {digits : String} {position : ArgumentPosition}
      (number : Decimal.Denotes digits position.val) :
      Written (.argument position) ("Argument(" ++ digits ++ ")")
  /-- Any other root that can be configured. -/
  | name {r : Root} (other : r.isArgument = false) (configurable : r ≠ .canonicalThis) :
      Written r r.toText

/-- Every root but the receiver is written as its text. -/
theorem written_toText {r : Root} (h : r ≠ .canonicalThis) : Written r r.toText := by
  cases r with
  | argument position =>
      exact .argument (Decimal.read?_eq_some_iff_denotes.1 (Decimal.read?_toString position.val))
  | canonicalThis => exact absurd rfl h
  | returnValue | leaf | anchor | producer | callChain | callChainExploitability
  | callEffectIntent => exact .name rfl h

theorem between?_filter_eq_some_iff {text digits : String} :
    (Affix.between? "Argument(" ")" text).filter (· ≠ "") = some digits ↔
      text = "Argument(" ++ digits ++ ")" ∧ digits ≠ "" := by
  rw [Option.filter_eq_some_iff, Affix.between?_eq_some_iff, decide_eq_true_iff]

theorem mem_configurable_iff {r : Root} :
    r ∈ configurable ↔ r.isArgument = false ∧ r ≠ .canonicalThis := by
  cases r <;> simp [configurable, isArgument]

theorem find?_configurable_eq_some_iff {text : String} {r : Root} :
    configurable.find? (·.toText = text) = some r ↔ r ∈ configurable ∧ r.toText = text := by
  constructor
  · intro found
    exact ⟨List.mem_of_find?_eq_some found, by simpa using List.find?_some found⟩
  · rintro ⟨listed, rfl⟩
    revert r
    decide

/-- A name is not of the form of an argument root. -/
theorem between?_filter_of_mem_configurable {r : Root} (listed : r ∈ configurable) :
    (Affix.between? "Argument(" ")" r.toText).filter (· ≠ "") = none := by
  revert r
  decide

/-- What stands between the parentheses decides, unless nothing does. -/
theorem ofText_between {digits : String} (nonempty : digits ≠ "") :
    ofText ("Argument(" ++ digits ++ ")") =
      (ArgumentPosition.ofText? digits).elim
        (.error (.validation ("Argument(" ++ digits ++ ")") none
          (.argumentRoot ("Argument(" ++ digits ++ ")"))))
        (fun position => .ok (.argument position)) := by
  rw [ofText, between?_filter_eq_some_iff.2 ⟨rfl, nonempty⟩]
  dsimp only
  cases ArgumentPosition.ofText? digits with
  | some position => rfl
  | none => rfl

/-- A text is read as a root exactly when the root is written so. -/
theorem ofText_eq_ok_iff {text : String} {r : Root} : ofText text = .ok r ↔ Written r text := by
  constructor
  · intro read
    rw [ofText] at read
    split at read
    next digits inside =>
      obtain ⟨rfl, _⟩ := between?_filter_eq_some_iff.1 inside
      split at read
      next position found =>
        cases read
        exact .argument (ArgumentPosition.ofText?_eq_some_iff.1 found)
      next => cases read
    next =>
      split at read
      next root found =>
        cases read
        obtain ⟨listed, rfl⟩ := find?_configurable_eq_some_iff.1 found
        obtain ⟨other, configurable⟩ := mem_configurable_iff.1 listed
        exact .name other configurable
      next => cases read
  · intro written
    cases written with
    | argument number =>
        rw [ofText_between number.nonempty, ArgumentPosition.ofText?_eq_some_iff.2 number,
          Option.elim_some]
    | name other configurable =>
        have listed := mem_configurable_iff.2 ⟨other, configurable⟩
        rw [ofText, between?_filter_of_mem_configurable listed]
        simp only [find?_configurable_eq_some_iff.2 ⟨listed, rfl⟩]

theorem ofText_toText {r : Root} (h : r ≠ .canonicalThis) : ofText r.toText = .ok r :=
  ofText_eq_ok_iff.2 (written_toText h)

theorem ne_canonicalThis_of_ofText {text : String} {r : Root} (h : ofText text = .ok r) :
    r ≠ .canonicalThis := by
  rintro rfl
  cases ofText_eq_ok_iff.1 h with
  | name _ configurable => exact configurable rfl

/-- Digits whose value is the encoding of another root, or of none, are refused. -/
theorem ofText_of_large {digits : String} {n : Nat} (number : Decimal.Denotes digits n)
    (large : 4294967287 < n) :
    ofText ("Argument(" ++ digits ++ ")") =
      .error (.validation ("Argument(" ++ digits ++ ")") none
        (.argumentRoot ("Argument(" ++ digits ++ ")"))) := by
  have refused : ArgumentPosition.ofText? digits = none := by
    rw [ArgumentPosition.ofText?, Decimal.read?_eq_some_iff_denotes.2 number, Option.bind_some,
      dif_neg (Nat.not_lt.2 large)]
  rw [ofText_between number.nonempty, refused, Option.elim_none]

/-! ## Encodings -/

theorem toNat_encode_argument (position : ArgumentPosition) :
    (argument position).encode.toNat = position.val :=
  UInt32.toNat_ofNat_of_lt' (Nat.lt_trans position.isLt (by decide))

/-- The arguments have the encodings up to that of the last position. -/
theorem isArgument_iff_encode_le {r : Root} :
    r.isArgument = true ↔ r.encode.toNat ≤ 4294967287 := by
  cases r with
  | argument position =>
      rw [toNat_encode_argument]
      exact iff_of_true rfl (Nat.le_of_lt_succ position.isLt)
  | _ => decide

/-- Above the arguments there are as many encodings as there are other roots. -/
theorem exists_encode_eq (encoding : UInt32) : ∃ r : Root, r.encode = encoding := by
  suffices named : ∃ r, decode encoding = some r by
    obtain ⟨r, hr⟩ := named
    exact ⟨r, encode_of_decode hr⟩
  rw [decode]
  split
  next small => exact ⟨_, rfl⟩
  next large =>
    have bound : encoding.toNat < 4294967296 := encoding.toNat_lt
    have cases : encoding.toNat = 4294967288 ∨ encoding.toNat = 4294967289 ∨
        encoding.toNat = 4294967290 ∨ encoding.toNat = 4294967291 ∨
        encoding.toNat = 4294967292 ∨ encoding.toNat = 4294967293 ∨
        encoding.toNat = 4294967294 ∨ encoding.toNat = 4294967295 := by omega
    rcases cases with h | h | h | h | h | h | h | h <;> rw [h] <;> exact ⟨_, rfl⟩

/-- What is read from digits between the parentheses is the root that their value encodes, as long
as that is an argument. -/
theorem ofText_digits_eq_ok_iff {digits : String} {n : Nat} {r : Root}
    (number : Decimal.Denotes digits n) :
    ofText ("Argument(" ++ digits ++ ")") = .ok r ↔ r.encode.toNat = n ∧ n ≤ 4294967287 := by
  by_cases small : n < 4294967288
  · have found : ArgumentPosition.ofText? digits = some ⟨n, small⟩ :=
      ArgumentPosition.ofText?_eq_some_iff.2 number
    rw [ofText_between number.nonempty, found, Option.elim_some]
    constructor
    · intro h
      cases h
      exact ⟨toNat_encode_argument _, Nat.le_of_lt_succ small⟩
    · rintro ⟨same, _⟩
      have encodings : (argument ⟨n, small⟩).encode = r.encode :=
        UInt32.toNat_inj.1 ((toNat_encode_argument _).trans same.symm)
      exact congrArg Except.ok (encode_injective encodings)
  · rw [ofText_of_large number (Nat.not_lt.1 small)]
    constructor
    · intro h
      cases h
    · rintro ⟨_, bound⟩
      exact absurd (Nat.lt_succ_of_le bound) small

/-- A text is read as a root exactly when the root is written so.  That is the case of the text of
every root but the receiver, which no text is read as.  A number of any length is read as the
argument that it encodes, and is refused when it lies beyond the last one. -/
theorem ofText_iff_written :
    (∀ text r, ofText text = .ok r ↔ Written r text) ∧
    (∀ r, ofText r.toText = .ok r ↔ r ≠ .canonicalThis) ∧
    (∀ text, ofText text ≠ .ok .canonicalThis) ∧
    ∀ digits n, Decimal.Denotes digits n →
      (∀ r, ofText ("Argument(" ++ digits ++ ")") = .ok r ↔ r.encode.toNat = n ∧ n ≤ 4294967287) ∧
      (4294967287 < n →
        ofText ("Argument(" ++ digits ++ ")") =
          .error (.validation ("Argument(" ++ digits ++ ")") none
            (.argumentRoot ("Argument(" ++ digits ++ ")")))) := by
  refine ⟨fun _ _ => ofText_eq_ok_iff, fun r => ?_, fun text read => ?_, fun digits n number => ?_⟩
  · exact ⟨ne_canonicalThis_of_ofText, ofText_toText⟩
  · exact ne_canonicalThis_of_ofText read rfl
  · exact ⟨fun _ => ofText_digits_eq_ok_iff number, ofText_of_large number⟩

/-- Leading zeros do not count, the last position is read, and the next number is refused although
it encodes a root. -/
theorem ofText_iff_written_samples :
    ofText "Argument(007)" = .ok (.argument 7) ∧
    ofText "Argument(4294967287)" = .ok (.argument 4294967287) ∧
    callEffectIntent.encode.toNat = 4294967288 ∧
    ofText "Argument(4294967288)" =
      .error (.validation "Argument(4294967288)" none (.argumentRoot "Argument(4294967288)")) ∧
    ofText canonicalThis.toText ≠ .ok .canonicalThis := by
  obtain ⟨written, printed, receiver, numbers⟩ := ofText_iff_written
  have seven : Decimal.Denotes "007" 7 := Decimal.read?_eq_some_iff_denotes.1 (by decide)
  have next : Decimal.Denotes "4294967288" 4294967288 :=
    Decimal.read?_eq_some_iff_denotes.1 (by decide)
  exact ⟨(written _ _).2 (@Written.argument "007" 7 seven),
    (printed (.argument 4294967287)).2 Root.noConfusion, rfl, (numbers _ _ next).2 (by decide),
    receiver _⟩

/-! ## The text of a root as the name of a field -/

theorem isFieldChar_of_isDigit {c : Char} (h : c.isDigit = true) : Segment.IsFieldChar c := by
  refine ⟨?_, ?_, ?_⟩
  · rintro rfl
    cases h
  · rintro rfl
    cases h
  · rintro rfl
    cases h

theorem fieldChars_toString (n : Nat) : Segment.FieldChars (toString n) := by
  intro c hc
  exact isFieldChar_of_isDigit (Decimal.isDigit_of_mem_toString hc)

theorem wellFormed_toText (r : Root) : (Segment.field r.toText).WellFormed := by
  cases r with
  | argument position =>
      constructor
      · intro empty
        have := congrArg String.toList empty
        simp [toText] at this
      · rw [toText, Segment.fieldChars_append, Segment.fieldChars_append]
        exact ⟨⟨by decide, fieldChars_toString _⟩, by decide⟩
  | returnValue | leaf | anchor | producer | canonicalThis | callChain | callChainExploitability
  | callEffectIntent => exact ⟨by decide, by decide⟩

end Root

end TaintFlow
