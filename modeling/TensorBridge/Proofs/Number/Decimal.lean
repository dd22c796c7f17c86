import TensorBridge.Proofs.Number.Integer
import TensorBridge.Proofs.Number.Shortest

/-!
# Numbers as text and back

The text that is shown for a word of a binary format is read as that word.

* `decimalText_positional`: positional notation is a decimal text for its number.
* `BinaryFormat.roundDecimal_eq`: rounding a decimal number, with the sizes that leave the format
  told by the count of digits.
* `BinaryFormat.read?_display`: what is shown for a word is read as the word, and as a fixed word if
  the word stands for no number.
-/

namespace TensorBridge

/-! ## Decimal texts -/

/-- The text is a run of digits, or two with a point between them, and stands for the number. -/
inductive DecimalText : List Char → ℚ → Prop where
  /-- There is no point. -/
  | whole {digits : List Char} (h : IsDigits digits) : DecimalText digits (ofDigits digits)
  /-- There is a point. -/
  | point {whole fraction : List Char} (hwhole : IsDigits whole) (hfraction : IsDigits fraction) :
    DecimalText (whole ++ '.' :: fraction) (ofDigits (whole ++ fraction) / 10 ^ fraction.length)

lemma IsDigits.append {first second : List Char} (h : IsDigits first)
    (hsecond : ∀ c ∈ second, c.isDigit = true) : IsDigits (first ++ second) :=
  ⟨List.append_ne_nil_of_left_ne_nil h.ne_nil second, fun c hc =>
    (List.mem_append.1 hc).elim (h.isDigit c) (hsecond c)⟩

lemma isDigit_of_mem_zeros {n : ℕ} {c : Char} (hc : c ∈ List.replicate n '0') :
    c.isDigit = true := by
  rw [List.eq_of_mem_replicate hc]
  rfl

@[simp] lemma ofDigits_zeros (n : ℕ) : ofDigits (List.replicate n '0') = 0 := by
  rw [ofDigits, Nat.ofDigitChars_replicate_zero, Nat.mul_zero]

/-- A point stands before as many digits as the exponent tells. -/
lemma DecimalText.of_places {whole fraction : List Char} {c : ℕ} {k : ℤ} (hk : k ≤ 0)
    (hwhole : IsDigits whole) (hfraction : IsDigits fraction)
    (hvalue : ofDigits (whole ++ fraction) = c) (hlength : fraction.length = (-k).toNat) :
    DecimalText (whole ++ '.' :: fraction) (c * 10 ^ k) := by
  have htext := DecimalText.point hwhole hfraction
  rwa [hvalue, hlength, div_eq_mul_inv, ← zpow_eq_inv_pow_toNat hk] at htext

/-- **Positional notation** stands for its number. -/
theorem decimalText_positional (c : ℕ) (k : ℤ) : DecimalText (positional c k) (c * 10 ^ k) := by
  have hdigits := isDigits_digitsOf c
  unfold positional
  dsimp only
  split_ifs with hk hplaces
  -- Zeros are put behind the digits.
  · have htext := DecimalText.whole
      (hdigits.append fun _ => isDigit_of_mem_zeros (n := k.toNat))
    rw [ofDigits_append, ofDigits_digitsOf, ofDigits_zeros, List.length_replicate] at htext
    rw [zpow_eq_pow_toNat hk]
    convert htext using 1
    push_cast
    ring
  -- The point stands between two digits.
  · have hwhole : IsDigits ((digitsOf c).take ((digitsOf c).length - (-k).toNat)) :=
      ⟨List.ne_nil_of_length_pos (by rw [List.length_take]; omega), fun d hd =>
        hdigits.isDigit d (List.mem_of_mem_take hd)⟩
    have hlength : ((digitsOf c).drop ((digitsOf c).length - (-k).toNat)).length = (-k).toNat := by
      rw [List.length_drop]
      omega
    have hfraction : IsDigits ((digitsOf c).drop ((digitsOf c).length - (-k).toNat)) :=
      ⟨List.ne_nil_of_length_pos (by omega), fun d hd =>
        hdigits.isDigit d (List.mem_of_mem_drop hd)⟩
    refine .of_places (by omega) hwhole hfraction ?_ hlength
    rw [List.take_append_drop, ofDigits_digitsOf]
  -- Zeros are put between the point and the digits.
  · have hzero : IsDigits ['0'] := ⟨List.cons_ne_nil _ _, by simp [Char.isDigit]⟩
    have hfraction : IsDigits
        (List.replicate ((-k).toNat - (digitsOf c).length) '0' ++ digitsOf c) :=
      ⟨List.append_ne_nil_of_right_ne_nil _ hdigits.ne_nil, fun d hd =>
        (List.mem_append.1 hd).elim isDigit_of_mem_zeros (hdigits.isDigit d)⟩
    have hvalue : ofDigits (['0'] ++
        (List.replicate ((-k).toNat - (digitsOf c).length) '0' ++ digitsOf c)) = c := by
      rw [ofDigits_append, ofDigits_append, ofDigits_zeros, ofDigits_digitsOf,
        show ofDigits ['0'] = 0 from rfl, Nat.mul_zero, Nat.mul_zero, Nat.zero_add, Nat.zero_add]
    have hlength : (List.replicate ((-k).toNat - (digitsOf c).length) '0' ++ digitsOf c).length =
        (-k).toNat := by
      rw [List.length_append, List.length_replicate]
      omega
    exact .of_places (by omega) hzero hfraction hvalue hlength

namespace DecimalText

variable {text : List Char} {x : ℚ}

/-- A decimal text begins with a digit. -/
lemma exists_cons (h : DecimalText text x) : ∃ c rest, text = c :: rest ∧ c.isDigit = true := by
  cases h with
  | whole h =>
    obtain ⟨c, rest, rfl⟩ := List.exists_cons_of_ne_nil h.ne_nil
    exact ⟨c, rest, rfl, h.isDigit c List.mem_cons_self⟩
  | point hwhole _ =>
    obtain ⟨c, rest, rfl⟩ := List.exists_cons_of_ne_nil hwhole.ne_nil
    exact ⟨c, rest ++ _, rfl, hwhole.isDigit c List.mem_cons_self⟩

lemma isDigit_or_point (h : DecimalText text x) : ∀ c ∈ text, c.isDigit = true ∨ c = '.' := by
  intro c hc
  cases h with
  | whole h => exact .inl (h.isDigit c hc)
  | point hwhole hfraction =>
    rcases List.mem_append.1 hc with hc | hc
    · exact .inl (hwhole.isDigit c hc)
    · rcases List.mem_cons.1 hc with rfl | hc
      · exact .inr rfl
      · exact .inl (hfraction.isDigit c hc)

/-- There is no sign in front. -/
lemma splitSign_eq (h : DecimalText text x) : splitSign text = (false, text) := by
  obtain ⟨c, rest, rfl, hc⟩ := h.exists_cons
  unfold splitSign
  split
  · rename_i heq
    cases heq
    cases hc
  · rename_i heq
    cases heq
    cases hc
  · rfl

/-- **A decimal text** is read as a decimal number of the same value. -/
theorem read?_eq (h : DecimalText text x) (negative : Bool) :
    ∃ (c : ℕ) (k : ℤ), (c : ℚ) * 10 ^ k = x ∧
      Decimal.read? negative text = some ⟨negative, c, k⟩ := by
  cases h with
  | whole h =>
    refine ⟨ofDigits text, 0, by simp, ?_⟩
    have htake : text.takeWhile Char.isDigit = text := List.takeWhile_eq_self_iff.2 h.isDigit
    have hdrop : text.dropWhile Char.isDigit = [] := List.dropWhile_eq_nil_iff.2 h.isDigit
    simp [Decimal.read?, htake, hdrop, Decimal.splitFraction, Decimal.readExponent?, h.ne_nil]
  | @point whole fraction hwhole hfraction =>
    refine ⟨ofDigits (whole ++ fraction), -fraction.length, ?_, ?_⟩
    · rw [zpow_neg, zpow_natCast, div_eq_mul_inv]
    have htake : (whole ++ '.' :: fraction).takeWhile Char.isDigit = whole := by
      rw [List.takeWhile_append_of_pos hwhole.isDigit, List.takeWhile_cons_of_neg (by decide),
        List.append_nil]
    have hdrop : (whole ++ '.' :: fraction).dropWhile Char.isDigit = '.' :: fraction := by
      rw [List.dropWhile_append_of_pos hwhole.isDigit, List.dropWhile_cons_of_neg (by decide)]
    have htake' : fraction.takeWhile Char.isDigit = fraction :=
      List.takeWhile_eq_self_iff.2 hfraction.isDigit
    have hdrop' : fraction.dropWhile Char.isDigit = [] :=
      List.dropWhile_eq_nil_iff.2 hfraction.isDigit
    simp [Decimal.read?, htake, hdrop, Decimal.splitFraction, htake', hdrop', Decimal.readExponent?,
      hwhole.ne_nil]

/-- A decimal text with or without a minus sign is read with that sign. -/
lemma read?_signed (h : DecimalText text x) (negative : Bool) :
    ∃ (c : ℕ) (k : ℤ), (c : ℚ) * 10 ^ k = x ∧
      FloatText.read? (if negative then '-' :: text else text) =
        some (.decimal ⟨negative, c, k⟩) := by
  obtain ⟨c, k, hvalue, hread⟩ := h.read?_eq negative
  refine ⟨c, k, hvalue, ?_⟩
  have hsplit : splitSign (if negative then '-' :: text else text) = (negative, text) := by
    cases negative with
    | false => exact h.splitSign_eq
    | true => rfl
  simp only [FloatText.read?, hsplit, hread]

end DecimalText

/-! ## Rounding decimal numbers -/

namespace BinaryFormat

variable {f : BinaryFormat} {m : ℕ} {e : ℤ} {x : ℚ}

/-- What rounds to a number of the format is below a bound that goes by the exponent field. -/
lemma Rounds.lt_zpow (hx : f.Rounds m e x) (hf : f.Proper) (h : f.Canonical m e) :
    x < 2 ^ ((2 ^ (f.exponentBits - 1) : ℕ) : ℤ) := by
  have hunit : (0 : ℚ) < 2 ^ e := by positivity
  have hlt : (m : ℚ) + 1 ≤ 2 * f.hiddenBit := by exact_mod_cast h.lt
  have hmax := minExponent_eq hf
  have hle := h.le_max
  calc x ≤ (m + 1 / 2) * 2 ^ e := hx.high
    _ < 2 * f.hiddenBit * 2 ^ e := by gcongr; linarith
    _ = 2 ^ ((f.fractionBits : ℤ) + 1 + e) := by rw [zpow_fractionBits_add, zpow_one]; ring
    _ ≤ 2 ^ ((2 ^ (f.exponentBits - 1) : ℕ) : ℤ) := zpow_le_zpow_right₀ one_le_two (by omega)

/-- What rounds to a number other than zero is at least half of the least one. -/
lemma Rounds.zpow_le (hx : f.Rounds m e x) (hm : 0 < m) (h : f.Canonical m e) :
    (2 : ℚ) ^ (f.minExponent - 1) ≤ x := by
  have hunit : (0 : ℚ) < 2 ^ e := by positivity
  have hm' : (1 : ℚ) ≤ m := by exact_mod_cast hm
  calc (2 : ℚ) ^ (f.minExponent - 1) ≤ 2 ^ (e - 1) :=
        zpow_le_zpow_right₀ one_le_two (Int.sub_le_sub_right h.min_le 1)
    _ = (1 - 1 / 2) * 2 ^ e := by rw [zpow_sub_one₀ two_ne_zero]; ring
    _ ≤ (m - 1 / 2) * 2 ^ e := by gcongr
    _ ≤ x := hx.low

/-- The count of its digits tells where a decimal number lies. -/
lemma zpow_digits_le_and_lt {c : ℕ} (hc : 0 < c) (k : ℤ) :
    (10 : ℚ) ^ (k + (digitsOf c).length - 1) ≤ c * 10 ^ k ∧
      (c : ℚ) * 10 ^ k < 10 ^ (k + (digitsOf c).length) := by
  have hten : (10 : ℚ) ≠ 0 := by norm_num
  have hlength := length_digitsOf_pos c
  constructor
  · rw [show k + (digitsOf c).length - 1 = ((digitsOf c).length - 1 : ℕ) + k by omega,
      zpow_add₀ hten, zpow_natCast]
    gcongr
    exact_mod_cast pow_length_digitsOf_le hc
  · rw [add_comm, zpow_add₀ hten, zpow_natCast]
    gcongr
    exact_mod_cast lt_pow_length_digitsOf c

section RoundDecimal

variable {c : ℕ} {k : ℤ}

/-- A number with many digits before the point is large. -/
lemma zpow_le_of_lt_top (hc : 0 < c) {n : ℕ} (hlarge : (n : ℤ) < k + (digitsOf c).length) :
    (2 : ℚ) ^ (n : ℤ) ≤ c * 10 ^ k :=
  calc (2 : ℚ) ^ (n : ℤ) ≤ 10 ^ (n : ℤ) := by
        rw [zpow_natCast, zpow_natCast]
        gcongr
        norm_num
    _ ≤ 10 ^ (k + (digitsOf c).length - 1) := zpow_le_zpow_right₀ (by norm_num) (by omega)
    _ ≤ c * 10 ^ k := (zpow_digits_le_and_lt hc k).1

/-- A number with many zeros behind the point is small. -/
lemma lt_zpow_of_top_le (hc : 0 < c) {e : ℤ} (he : e ≤ 0) (hsmall : k + (digitsOf c).length ≤ e) :
    (c : ℚ) * 10 ^ k < 2 ^ e :=
  calc (c : ℚ) * 10 ^ k < 10 ^ (k + (digitsOf c).length) := (zpow_digits_le_and_lt hc k).2
    _ ≤ 10 ^ e := zpow_le_zpow_right₀ (by norm_num) hsmall
    _ ≤ 2 ^ e := by
        rw [zpow_eq_inv_pow_toNat he, zpow_eq_inv_pow_toNat he]
        gcongr
        norm_num

/-- There are not too many digits before the point. -/
lemma Rounds.top_le (hx : f.Rounds m e (c * 10 ^ k)) (hf : f.Proper) (h : f.Canonical m e)
    (hc : 0 < c) : k + (digitsOf c).length ≤ (2 ^ (f.exponentBits - 1) : ℕ) := by
  by_contra! hlarge
  exact (zpow_le_of_lt_top hc hlarge).not_gt (hx.lt_zpow hf h)

lemma Proper.minExponent_nonpos (hf : f.Proper) : f.minExponent ≤ 0 := by
  have hpow : 2 ^ 1 ≤ 2 ^ (f.exponentBits - 1) :=
    Nat.pow_le_pow_right (by decide) (by have := hf.exponent; omega)
  rw [minExponent, Nat.pow_eq]
  omega

/-- There are not too many zeros behind the point. -/
lemma Rounds.le_top (hx : f.Rounds m e (c * 10 ^ k)) (hf : f.Proper) (h : f.Canonical m e)
    (hm : 0 < m) (hc : 0 < c) : f.minExponent ≤ k + (digitsOf c).length := by
  have hneg := hf.minExponent_nonpos
  by_contra! hsmall
  exact (hx.zpow_le hm h).not_gt (lt_zpow_of_top_le hc (by omega) (by omega))

/-- **A decimal number** is rounded to the number of the format that it lies nearest to: it has
neither too many nor too few digits for the format. -/
theorem roundDecimal_eq (hf : f.Proper) (h : f.Canonical m e) (hm : 0 < m)
    (hx : f.Rounds m e (c * 10 ^ k)) : f.roundDecimal c k = f.magnitude m e := by
  have hc : 0 < c := by
    have hlow := hx.zpow_le hm h
    rcases Nat.eq_zero_or_pos c with rfl | hc
    · rw [Nat.cast_zero, zero_mul] at hlow
      exact absurd hlow (not_le.2 (by positivity))
    · exact hc
  have hlarge := hx.top_le hf h hc
  have hsmall := hx.le_top hf h hm hc
  unfold roundDecimal
  dsimp only
  rw [if_neg hc.ne', Nat.pow_eq, if_neg (not_lt.2 (by exact_mod_cast hlarge)),
    if_neg (not_lt.2 hsmall), Nat.pow_eq, Nat.pow_eq]
  split_ifs with hk
  · refine roundRatio_eq h hm one_pos ?_
    rw [zpow_eq_pow_toNat hk] at hx
    rw [Nat.cast_one, div_one]
    exact_mod_cast hx
  · refine roundRatio_eq h hm (Nat.pow_pos (by decide)) ?_
    rw [zpow_eq_inv_pow_toNat (by omega), ← div_eq_mul_inv] at hx
    exact_mod_cast hx

end RoundDecimal

/-! ## Showing words -/

/-- The word itself if it stands for a number, otherwise the word of the quiet number that is none,
without a sign. -/
def canonicalWord (f : BinaryFormat) (w : ℕ) : ℕ :=
  match f.decode w with
  | .nan _ => f.quietNaN false
  | _ => w

lemma canonicalWord_of_nan {w : ℕ} {negative : Bool} (h : f.decode w = .nan negative) :
    f.canonicalWord w = f.quietNaN false := by
  rw [canonicalWord, h]

lemma canonicalWord_of_ne_nan {w : ℕ} (h : ∀ negative, f.decode w ≠ .nan negative) :
    f.canonicalWord w = w := by
  unfold canonicalWord
  split
  · rename_i negative hnan
    exact absurd hnan (h negative)
  · rfl

lemma display_infinite (f : BinaryFormat) (negative : Bool) :
    f.display (.infinite negative) = if negative then "-inf" else "inf" := rfl

lemma display_nan (f : BinaryFormat) (negative : Bool) : f.display (.nan negative) = "NaN" := rfl

/-- What is shown for a finite value is a decimal text. -/
lemma display_finite (f : BinaryFormat) (negative : Bool) (m : ℕ) (e : ℤ) :
    ∃ text x, f.display (.finite negative m e) =
        String.ofList (if negative then '-' :: text else text) ∧ DecimalText text x ∧
      (f.Proper → f.Canonical m e → ∀ (c : ℕ) (k : ℤ), (c : ℚ) * 10 ^ k = x →
        f.roundDecimal c k = f.magnitude m e) := by
  rcases Nat.eq_zero_or_pos m with rfl | hm
  · refine ⟨['0'], 0, rfl, ?_, fun _ h c k hvalue => ?_⟩
    · have htext := DecimalText.whole (isDigits_digitsOf 0)
      rwa [ofDigits_digitsOf, Nat.cast_zero] at htext
    · have hpow : (10 : ℚ) ^ k ≠ 0 := by positivity
      obtain rfl : c = 0 := by simpa [hpow] using hvalue
      obtain rfl := h.eq_minExponent
      simp [roundDecimal, magnitude]
  · refine ⟨positional (f.shortest .toUpper m e).1 (f.shortest .toUpper m e).2, _,
      by simp only [display, if_neg hm.ne'], decimalText_positional _ _, fun hf h c k hvalue => ?_⟩
    refine roundDecimal_eq hf h hm ?_
    rw [hvalue]
    exact rounds_shortest .toUpper hm h.lt

/-- **Showing and reading.**  What is shown for a word is read as the word. -/
theorem read?_display (hf : f.Proper) {w : ℕ} (hw : w < 2 * f.signWeight) :
    ∃ number, FloatText.read? (f.display (f.decode w)).toList = some number ∧
      f.ofText number = f.canonicalWord w := by
  have hdecoded := decoded_decode hf hw
  unfold canonicalWord
  generalize f.decode w = v at hdecoded ⊢
  rcases v with ⟨negative, m, e⟩ | negative | negative
  · cases hdecoded with
    | finite h hw =>
      obtain ⟨text, x, hshown, htext, hround⟩ := f.display_finite negative m e
      obtain ⟨c, k, hvalue, hread⟩ := htext.read?_signed negative
      refine ⟨_, by rw [hshown, String.toList_ofList, hread], ?_⟩
      rw [ofText, ofDecimal, hround hf h c k hvalue, hw]
  · cases hdecoded with
    | infinite hw =>
      refine ⟨.infinity negative, ?_, hw.symm⟩
      rw [display_infinite]
      cases negative <;> decide
  · refine ⟨.nan false, ?_, rfl⟩
    rw [display_nan]
    decide

/-- What is shown is some letters, digits, a sign and a point. -/
lemma mem_display {v : FloatValue} {c : Char} (hc : c ∈ (f.display v).toList) :
    c.isAlphanum = true ∨ c = '-' ∨ c = '.' := by
  rcases v with ⟨negative, m, e⟩ | negative | negative
  · obtain ⟨text, x, hshown, htext, -⟩ := f.display_finite negative m e
    have hmem (hc : c ∈ text) : c.isAlphanum = true ∨ c = '-' ∨ c = '.' := by
      rcases htext.isDigit_or_point c hc with hdigit | rfl
      · exact .inl (isAlphanum_of_isDigit hdigit)
      · exact .inr (.inr rfl)
    rw [hshown, String.toList_ofList] at hc
    cases negative with
    | false => exact hmem hc
    | true =>
      rcases List.mem_cons.1 hc with rfl | hc
      · exact .inr (.inl rfl)
      · exact hmem hc
  · have hword : ∀ c ∈ (if negative then "-inf" else "inf").toList,
        c.isAlphanum = true ∨ c = '-' ∨ c = '.' := by
      cases negative <;> simp [Char.isAlphanum, Char.isAlpha, Char.isUpper, Char.isLower]
    exact hword c hc
  · have hword : ∀ c ∈ "NaN".toList, c.isAlphanum = true ∨ c = '-' ∨ c = '.' := by
      simp [Char.isAlphanum, Char.isAlpha, Char.isUpper, Char.isLower]
    exact hword c hc

lemma display_ne_nil (v : FloatValue) : (f.display v).toList ≠ [] := by
  rcases v with ⟨negative, m, e⟩ | negative | negative
  · obtain ⟨text, x, hshown, htext, -⟩ := f.display_finite negative m e
    obtain ⟨c, rest, rfl, -⟩ := htext.exists_cons
    rw [hshown, String.toList_ofList]
    split_ifs <;> exact List.cons_ne_nil _ _
  · rw [display_infinite]
    cases negative <;> decide
  · rw [display_nan]
    decide

end BinaryFormat

end TensorBridge
