import Mathlib
import TensorBridge.Number.Integer

/-!
# Digits and integers

What digits stand for, and which texts are read as integers.

* `readInteger_eq_ok_iff`: just the texts with an optional sign and at least one digit are read, if
  their number lies in the range.
* `IntegerText.toString`: the text of an integer is such a text.
-/

namespace TensorBridge

/-! ## Digits -/

/-- The text is a run of at least one decimal digit. -/
structure IsDigits (text : List Char) : Prop where
  /-- There is a digit. -/
  ne_nil : text ≠ []
  /-- There is nothing else. -/
  isDigit : ∀ c ∈ text, c.isDigit = true

lemma isDigits_digitsOf (n : Nat) : IsDigits (digitsOf n) :=
  ⟨Nat.toDigits_ne_nil, fun _ => Nat.isDigit_of_mem_toDigits (by decide) (by decide)⟩

@[simp] lemma ofDigits_digitsOf (n : Nat) : ofDigits (digitsOf n) = n :=
  Nat.ofDigitChars_ten_toDigits

lemma ofDigits_append (first second : List Char) :
    ofDigits (first ++ second) = 10 ^ second.length * ofDigits first + ofDigits second := by
  rw [ofDigits, Nat.ofDigitChars_append, Nat.ofDigitChars_eq_ofDigitChars_zero]
  rfl

lemma isAlphanum_of_isDigit {c : Char} (h : c.isDigit = true) : c.isAlphanum = true := by
  rw [Char.isAlphanum, h, Bool.or_true]

/-- The text of a number that is not negative is its digits. -/
lemma toList_toString_of_nonneg {n : Int} (h : 0 ≤ n) : (toString n).toList = digitsOf n.toNat := by
  rw [Int.toString_eq_repr, Int.repr_eq_if, if_pos h, Nat.repr_eq_ofList_toDigits,
    String.toList_ofList]
  rfl

/-! ## Integers -/

/-- The text is an optional sign and at least one digit, and stands for the integer. -/
inductive IntegerText : List Char → Int → Prop where
  /-- There is no sign. -/
  | unsigned {digits : List Char} (h : IsDigits digits) : IntegerText digits (ofDigits digits)
  /-- There is a plus sign. -/
  | plus {digits : List Char} (h : IsDigits digits) : IntegerText ('+' :: digits) (ofDigits digits)
  /-- There is a minus sign. -/
  | minus {digits : List Char} (h : IsDigits digits) :
    IntegerText ('-' :: digits) (-(ofDigits digits : Int))

lemma readMagnitude_eq_ok_iff {limit magnitude n : Nat} {overflow : IntegerFault}
    {text : List Char} (hmagnitude : magnitude ≤ limit) :
    readMagnitude limit overflow magnitude text = .ok n ↔
      (∀ c ∈ text, c.isDigit = true) ∧ n = Nat.ofDigitChars 10 text magnitude ∧ n ≤ limit := by
  induction text generalizing magnitude with
  | nil =>
    simp only [readMagnitude, Except.ok.injEq, Nat.ofDigitChars_nil]
    constructor
    · rintro rfl
      exact ⟨by simp, rfl, hmagnitude⟩
    · rintro ⟨-, rfl, -⟩
      rfl
  | cons c rest ih =>
    rw [readMagnitude, Nat.ofDigitChars_cons, List.forall_mem_cons]
    dsimp only
    by_cases hc : c.isDigit = true
    · simp only [hc, Bool.not_true, Bool.false_eq_true, if_false, true_and]
      by_cases hlimit : limit < 10 * magnitude + (c.toNat - '0'.toNat)
      · simp only [hlimit, if_true, reduceCtorEq, false_iff]
        rintro ⟨-, rfl, hle⟩
        -- Further digits do not make the number smaller.
        rw [Nat.ofDigitChars_eq_ofDigitChars_zero] at hle
        have hgrow : 10 * magnitude + (c.toNat - '0'.toNat) ≤
            10 ^ rest.length * (10 * magnitude + (c.toNat - '0'.toNat)) :=
          Nat.le_mul_of_pos_left _ (Nat.pow_pos (by decide))
        omega
      · simp only [hlimit, if_false]
        exact ih (Nat.le_of_not_lt hlimit)
    · simp only [hc, Bool.not_false, if_true, reduceCtorEq, Bool.false_eq_true, false_and]

/-- Reading a run of digits. -/
lemma readMagnitude_zero_eq_ok_iff {limit n : Nat} {overflow : IntegerFault} {text : List Char}
    (htext : text ≠ []) :
    readMagnitude limit overflow 0 text = .ok n ↔
      IsDigits text ∧ n = ofDigits text ∧ n ≤ limit := by
  rw [readMagnitude_eq_ok_iff (Nat.zero_le limit)]
  exact ⟨fun h => ⟨⟨htext, h.1⟩, h.2⟩, fun h => ⟨h.1.isDigit, h.2⟩⟩

lemma splitSign_of_isDigits {text : List Char} (h : IsDigits text) :
    splitSign text = (false, text) := by
  unfold splitSign
  split
  · exact absurd (h.isDigit '-' List.mem_cons_self) (by decide)
  · exact absurd (h.isDigit '+' List.mem_cons_self) (by decide)
  · rfl

/-- The sign and what stands behind it. -/
lemma splitSign_cases (text : List Char) :
    (∃ rest, text = '-' :: rest ∧ splitSign text = (true, rest)) ∨
      (∃ rest, text = '+' :: rest ∧ splitSign text = (false, rest)) ∨
      splitSign text = (false, text) := by
  unfold splitSign
  split
  · exact .inl ⟨_, rfl, rfl⟩
  · exact .inr (.inl ⟨_, rfl, rfl⟩)
  · exact .inr (.inr rfl)

/-- Reading a run of digits and giving it a sign. -/
lemma map_readMagnitude_eq_ok_iff {limit : Nat} {overflow : IntegerFault} {digits : List Char}
    {f : Int → Int} {n : Int} (hdigits : digits ≠ []) :
    (do let m ← readMagnitude limit overflow 0 digits; pure (m : Int) :
        Except IntegerFault Int).map f = .ok n ↔
      IsDigits digits ∧ n = f (ofDigits digits) ∧ ofDigits digits ≤ limit := by
  have hread (m : Nat) : readMagnitude limit overflow 0 digits = .ok m ↔
      IsDigits digits ∧ m = ofDigits digits ∧ m ≤ limit := readMagnitude_zero_eq_ok_iff hdigits
  rcases hresult : readMagnitude limit overflow 0 digits with e | m
  · refine ⟨fun h => (by cases h), fun ⟨h, _, hle⟩ => ?_⟩
    rw [(hread _).2 ⟨h, rfl, hle⟩] at hresult
    cases hresult
  · obtain ⟨h, rfl, hle⟩ := (hread m).1 hresult
    exact ⟨fun heq => ⟨h, (Except.ok.inj heq).symm, hle⟩, fun ⟨_, heq, _⟩ => congrArg _ heq.symm⟩

/-- Reading the digits behind a sign. -/
lemma readInteger_eq_ok_iff_of_split {limit : Nat} {text digits : List Char} {negative : Bool}
    {n : Int} (htext : text ≠ []) (hsplit : splitSign text = (negative, digits)) :
    readInteger limit text = .ok n ↔ IsDigits digits ∧
      (n = if negative then -(ofDigits digits : Int) else ofDigits digits) ∧
        ofDigits digits ≤ if negative then limit + 1 else limit := by
  rw [readInteger, if_neg htext, hsplit]
  dsimp only
  by_cases hdigits : digits = []
  · rw [if_pos hdigits]
    exact ⟨fun h => (by cases h), fun h => absurd hdigits h.1.ne_nil⟩
  rw [if_neg hdigits]
  cases negative with
  | false => exact map_readMagnitude_eq_ok_iff hdigits
  | true => exact map_readMagnitude_eq_ok_iff hdigits

/-- **Reading an integer.** -/
theorem readInteger_eq_ok_iff {limit : Nat} {text : List Char} {n : Int} :
    readInteger limit text = .ok n ↔ IntegerText text n ∧ -(limit + 1 : Int) ≤ n ∧ n ≤ limit := by
  constructor
  · intro h
    have htext : text ≠ [] := by
      rintro rfl
      cases h
    rcases splitSign_cases text with ⟨rest, rfl, hsplit⟩ | ⟨rest, rfl, hsplit⟩ | hsplit
    · obtain ⟨hdigits, rfl, hle⟩ := (readInteger_eq_ok_iff_of_split htext hsplit).1 h
      simp only [if_true] at hle ⊢
      exact ⟨.minus hdigits, by omega, by omega⟩
    · obtain ⟨hdigits, rfl, hle⟩ := (readInteger_eq_ok_iff_of_split htext hsplit).1 h
      simp only [Bool.false_eq_true, if_false] at hle ⊢
      exact ⟨.plus hdigits, by omega, by omega⟩
    · obtain ⟨hdigits, rfl, hle⟩ := (readInteger_eq_ok_iff_of_split htext hsplit).1 h
      simp only [Bool.false_eq_true, if_false] at hle ⊢
      exact ⟨.unsigned hdigits, by omega, by omega⟩
  · rintro ⟨htext, hlow, hhigh⟩
    cases htext with
    | unsigned hdigits =>
      refine (readInteger_eq_ok_iff_of_split hdigits.ne_nil (splitSign_of_isDigits hdigits)).2 ?_
      exact ⟨hdigits, rfl, by simp only [Bool.false_eq_true, if_false]; omega⟩
    | plus hdigits =>
      refine (readInteger_eq_ok_iff_of_split (List.cons_ne_nil _ _) rfl).2 ?_
      exact ⟨hdigits, rfl, by simp only [Bool.false_eq_true, if_false]; omega⟩
    | minus hdigits =>
      refine (readInteger_eq_ok_iff_of_split (List.cons_ne_nil _ _) rfl).2 ?_
      exact ⟨hdigits, rfl, by simp only [if_true]; omega⟩

/-- **The text of an integer** stands for it. -/
theorem IntegerText.toString (n : Int) : IntegerText (ToString.toString n).toList n := by
  rcases le_or_gt 0 n with hsign | hsign
  · have htext := IntegerText.unsigned (isDigits_digitsOf n.toNat)
    rwa [ofDigits_digitsOf, Int.toNat_of_nonneg hsign, ← toList_toString_of_nonneg hsign] at htext
  · rw [Int.toString_eq_repr, Int.repr_eq_if, if_neg (Int.not_le.2 hsign)]
    simp only [Nat.repr_eq_ofList_toDigits, String.toList_append, String.toList_ofList]
    have htext := IntegerText.minus (isDigits_digitsOf (-n).toNat)
    rwa [ofDigits_digitsOf, Int.toNat_of_nonneg (by omega), Int.neg_neg] at htext

end TensorBridge
