import TensorBridge.Proofs.Number.Integer

/-!
# Decimal numerals

Which texts are read as decimal numbers, and as which.  A numeral is an optional sign, digits with
at most one point among, before or behind them, and an optional exponent.

* `Numeral`: the form, with the number that a text of it stands for.
* `read?_eq_decimal_iff`: just the numerals are read as decimal numbers.
-/

namespace TensorBridge

/-! ## Form -/

/-- The text is nothing or a sign; the flag says that it is a minus. -/
inductive SignText : List Char → Bool → Prop where
  /-- There is no sign. -/
  | none : SignText [] false
  /-- There is a plus sign. -/
  | plus : SignText ['+'] false
  /-- There is a minus sign. -/
  | minus : SignText ['-'] true

/-- The text is nothing or a point and any digits. -/
inductive FractionText : List Char → List Char → Prop where
  /-- There is no point. -/
  | none : FractionText [] []
  /-- There is a point, with the digits behind it. -/
  | point {digits : List Char} (h : ∀ c ∈ digits, c.isDigit = true) :
    FractionText ('.' :: digits) digits

/-- The text is nothing or a letter and an integer. -/
inductive ExponentText : List Char → ℤ → Prop where
  /-- There is no exponent. -/
  | none : ExponentText [] 0
  /-- The letter is a small one. -/
  | lower {text : List Char} {n : ℤ} (h : IntegerText text n) : ExponentText ('e' :: text) n
  /-- The letter is a capital one. -/
  | upper {text : List Char} {n : ℤ} (h : IntegerText text n) : ExponentText ('E' :: text) n

/-- The text is a sign, digits with a point or without, of which there is at least one, and an
exponent.  The number is the integer of all digits, scaled by the exponent less the count of digits
behind the point. -/
inductive Numeral : List Char → Decimal → Prop where
  /-- The parts in their order. -/
  | parts {sign whole point digits exponent : List Char} {negative : Bool} {e : ℤ}
      (hsign : SignText sign negative) (hwhole : ∀ c ∈ whole, c.isDigit = true)
      (hpoint : FractionText point digits) (hne : whole ++ digits ≠ [])
      (hexponent : ExponentText exponent e) :
    Numeral (sign ++ (whole ++ (point ++ exponent)))
      ⟨negative, ofDigits (whole ++ digits), e - digits.length⟩

/-! ## Reading the parts -/

/-- A text that begins with no sign. -/
lemma splitSign_cons {c : Char} {rest : List Char} (hminus : c ≠ '-') (hplus : c ≠ '+') :
    splitSign (c :: rest) = (false, c :: rest) := by
  unfold splitSign
  split
  · rename_i heq
    exact absurd (List.cons.inj heq).1 hminus
  · rename_i heq
    exact absurd (List.cons.inj heq).1 hplus
  · rfl

/-- What is left of a text stands behind its sign. -/
lemma exists_signText (text : List Char) :
    ∃ sign, SignText sign (splitSign text).1 ∧ text = sign ++ (splitSign text).2 := by
  rcases splitSign_cases text with ⟨rest, rfl, hsplit⟩ | ⟨rest, rfl, hsplit⟩ | hsplit
  · rw [hsplit]
    exact ⟨_, .minus, rfl⟩
  · rw [hsplit]
    exact ⟨_, .plus, rfl⟩
  · rw [hsplit]
    exact ⟨_, .none, rfl⟩

/-- An integer is a sign and digits. -/
lemma integerText_iff {text : List Char} {n : ℤ} :
    IntegerText text n ↔ IsDigits (splitSign text).2 ∧
      n = if (splitSign text).1 then -(ofDigits (splitSign text).2 : ℤ)
        else ofDigits (splitSign text).2 := by
  constructor
  · intro h
    cases h with
    | unsigned hdigits => rw [splitSign_of_isDigits hdigits]; exact ⟨hdigits, rfl⟩
    | plus hdigits => exact ⟨hdigits, rfl⟩
    | minus hdigits => exact ⟨hdigits, rfl⟩
  · rintro ⟨hdigits, rfl⟩
    rcases splitSign_cases text with ⟨rest, rfl, hsplit⟩ | ⟨rest, rfl, hsplit⟩ | hsplit <;>
      rw [hsplit] at hdigits ⊢
    · exact .minus hdigits
    · exact .plus hdigits
    · exact .unsigned hdigits

/-- **Reading an exponent.** -/
lemma readExponent?_eq_some_iff {text : List Char} {e : ℤ} :
    Decimal.readExponent? text = some e ↔ ExponentText text e := by
  cases text with
  | nil =>
    rw [Decimal.readExponent?, Option.some_inj]
    constructor
    · rintro rfl
      exact .none
    · intro h
      cases h
      rfl
  | cons c rest =>
    have hdigits : (splitSign rest).2 ≠ [] ∧ (splitSign rest).2.all Char.isDigit = true ↔
        IsDigits (splitSign rest).2 := by
      rw [List.all_eq_true]
      exact ⟨fun h => ⟨h.1, h.2⟩, fun h => ⟨h.ne_nil, h.isDigit⟩⟩
    have htext : Decimal.readExponent? (c :: rest) = some e ↔
        (c = 'e' ∨ c = 'E') ∧ IntegerText rest e := by
      rw [Decimal.readExponent?, integerText_iff]
      simp only [hdigits, Option.ite_none_right_eq_some, Option.some_inj, and_assoc]
      rw [eq_comm (a := e)]
    rw [htext]
    constructor
    · rintro ⟨rfl | rfl, h⟩
      · exact .lower h
      · exact .upper h
    · intro h
      cases h with
      | lower h => exact ⟨.inl rfl, h⟩
      | upper h => exact ⟨.inr rfl, h⟩

/-- What is left of a text stands behind its point and the digits there. -/
lemma exists_fractionText (text : List Char) :
    ∃ point, FractionText point (Decimal.splitFraction text).1 ∧
      text = point ++ (Decimal.splitFraction text).2 := by
  unfold Decimal.splitFraction
  split
  · rename_i rest
    refine ⟨'.' :: rest.takeWhile Char.isDigit, .point fun c hc => List.mem_takeWhile_imp hc, ?_⟩
    rw [List.cons_append, List.takeWhile_append_dropWhile]
  · exact ⟨[], .none, rfl⟩

section Exponent

variable {exponent : List Char} {e : ℤ} (h : ExponentText exponent e)

include h

/-- An exponent begins with no digit. -/
lemma ExponentText.takeWhile_eq (digits : List Char) (hdigits : ∀ c ∈ digits, c.isDigit = true) :
    (digits ++ exponent).takeWhile Char.isDigit = digits ∧
      (digits ++ exponent).dropWhile Char.isDigit = exponent := by
  rw [List.takeWhile_append_of_pos hdigits, List.dropWhile_append_of_pos hdigits]
  cases h <;> simp [Char.isDigit]

/-- Nor does a point with what is behind it. -/
lemma FractionText.takeWhile_eq {point fraction : List Char} (hpoint : FractionText point fraction)
    (digits : List Char) (hdigits : ∀ c ∈ digits, c.isDigit = true) :
    (digits ++ (point ++ exponent)).takeWhile Char.isDigit = digits ∧
      (digits ++ (point ++ exponent)).dropWhile Char.isDigit = point ++ exponent := by
  cases hpoint with
  | none => exact h.takeWhile_eq digits hdigits
  | point =>
    rw [List.takeWhile_append_of_pos hdigits, List.dropWhile_append_of_pos hdigits]
    simp [Char.isDigit]

lemma FractionText.splitFraction_eq {point fraction : List Char}
    (hpoint : FractionText point fraction) :
    Decimal.splitFraction (point ++ exponent) = (fraction, exponent) := by
  cases hpoint with
  | none => cases h <;> rfl
  | point hdigits =>
    obtain ⟨htake, hdrop⟩ := h.takeWhile_eq _ hdigits
    rw [List.cons_append, Decimal.splitFraction, htake, hdrop]

end Exponent

/-- **Reading a decimal number** without its sign. -/
lemma decimal_read?_eq_some_iff {negative : Bool} {text : List Char} {d : Decimal} :
    Decimal.read? negative text = some d ↔ ∃ whole point digits exponent e,
      (∀ c ∈ whole, c.isDigit = true) ∧ FractionText point digits ∧ whole ++ digits ≠ [] ∧
        ExponentText exponent e ∧ text = whole ++ (point ++ exponent) ∧
          d = ⟨negative, ofDigits (whole ++ digits), e - digits.length⟩ := by
  constructor
  · intro h
    obtain ⟨point, hpoint, hbehind⟩ := exists_fractionText (text.dropWhile Char.isDigit)
    unfold Decimal.read? at h
    dsimp only at h
    split_ifs at h with hnone
    obtain ⟨e, he, rfl⟩ := Option.map_eq_some_iff.1 h
    refine ⟨text.takeWhile Char.isDigit, point, _, _, e, fun c hc => List.mem_takeWhile_imp hc,
      hpoint, fun hnil => hnone (List.append_eq_nil_iff.1 hnil), readExponent?_eq_some_iff.1 he,
      ?_, rfl⟩
    rw [← hbehind, List.takeWhile_append_dropWhile]
  · rintro ⟨whole, point, digits, exponent, e, hwhole, hpoint, hne, hexponent, rfl, rfl⟩
    obtain ⟨htake, hdrop⟩ := hpoint.takeWhile_eq hexponent whole hwhole
    unfold Decimal.read?
    dsimp only
    rw [htake, hdrop, hpoint.splitFraction_eq hexponent, if_neg (by rwa [← List.append_eq_nil_iff]),
      readExponent?_eq_some_iff.2 hexponent, Option.map_some]

/-- What follows a sign begins with none. -/
lemma SignText.splitSign_eq {sign whole point digits exponent : List Char} {negative : Bool}
    (hsign : SignText sign negative) (hwhole : ∀ c ∈ whole, c.isDigit = true)
    (hpoint : FractionText point digits) (hne : whole ++ digits ≠ []) :
    splitSign (sign ++ (whole ++ (point ++ exponent))) =
      (negative, whole ++ (point ++ exponent)) := by
  cases hsign with
  | none =>
    rcases whole with _ | ⟨c, rest⟩
    · cases hpoint with
      | none => exact absurd rfl hne
      | point => rfl
    · have hc := hwhole c List.mem_cons_self
      exact splitSign_cons (by rintro rfl; cases hc) (by rintro rfl; cases hc)
  | plus => rfl
  | minus => rfl

/-- **Reading a numeral.**  Just the numerals are read as decimal numbers. -/
theorem read?_eq_decimal_iff {text : List Char} {d : Decimal} :
    FloatText.read? text = some (.decimal d) ↔ Numeral text d := by
  have hread : FloatText.read? text = some (.decimal d) ↔
      Decimal.read? (splitSign text).1 (splitSign text).2 = some d := by
    unfold FloatText.read?
    dsimp only
    split
    · rename_i number heq
      rw [heq]
      simp
    · rename_i heq
      rw [heq]
      unfold FloatText.readWord?
      dsimp only
      split_ifs <;> simp
  -- The words for what is no decimal number are tried last, so they do not get in the way.
  rw [hread, decimal_read?_eq_some_iff]
  constructor
  · rintro ⟨whole, point, digits, exponent, e, hwhole, hpoint, hne, hexponent, hrest, rfl⟩
    obtain ⟨sign, hsign, htext⟩ := exists_signText text
    have hnumeral := Numeral.parts hsign hwhole hpoint hne hexponent
    rwa [← hrest, ← htext] at hnumeral
  · rintro ⟨hsign, hwhole, hpoint, hne, hexponent⟩
    rw [hsign.splitSign_eq hwhole hpoint hne]
    exact ⟨_, _, _, _, _, hwhole, hpoint, hne, hexponent, rfl, rfl⟩

end TensorBridge
