import Mathlib
import TensorBridge.Number.BinaryFormat

/-!
# Rounding to a binary format

The numbers of a binary format are significands times powers of two.  Every word has one such pair
of a kind, and `BinaryFormat.Rounds` tells which rationals lie nearest to a pair.

* `BinaryFormat.roundRatio_eq`: a quotient of natural numbers is rounded to the word of the pair
  that it lies nearest to.
* `BinaryFormat.decoded_decode`: what words stand for, and that they are the words of that.
* `BinaryFormat.convert_convert`: a number that is taken to a wider format is taken back.
-/

namespace TensorBridge

/-! ## Rounding to natural numbers -/

/-- The natural number is nearest to the rational, and even if another one is as near. -/
structure NearestEven (x : ℚ) (n : ℕ) : Prop where
  /-- The rational is not far below. -/
  low : (n : ℚ) - 1 / 2 ≤ x
  /-- It is not far above. -/
  high : x ≤ n + 1 / 2
  /-- Next to an odd number it is not halfway to a neighbour. -/
  odd : n % 2 = 1 → (n : ℚ) - 1 / 2 < x ∧ x < n + 1 / 2

lemma roundDiv_eq {num den n : ℕ} (hden : 0 < den) (h : NearestEven (num / den) n) :
    roundDiv num den = n := by
  have hden' : (0 : ℚ) < den := by exact_mod_cast hden
  have hlow : 2 * (n * den) ≤ 2 * num + den := by
    have hle := (le_div_iff₀ hden').1 h.low
    exact_mod_cast (by linarith : 2 * ((n : ℚ) * den) ≤ 2 * num + den)
  have hhigh : 2 * num ≤ 2 * (n * den) + den := by
    have hle := (div_le_iff₀ hden').1 h.high
    exact_mod_cast (by linarith : 2 * (num : ℚ) ≤ 2 * (n * den) + den)
  have hodd : n % 2 = 1 → 2 * (n * den) < 2 * num + den ∧ 2 * num < 2 * (n * den) + den := by
    intro hn
    obtain ⟨hlt, hgt⟩ := h.odd hn
    have hlt' := (lt_div_iff₀ hden').1 hlt
    have hgt' := (div_lt_iff₀ hden').1 hgt
    exact ⟨by exact_mod_cast (by linarith : 2 * ((n : ℚ) * den) < 2 * num + den),
      by exact_mod_cast (by linarith : 2 * (num : ℚ) < 2 * (n * den) + den)⟩
  have hnum := Nat.div_add_mod num den
  have hlt := Nat.mod_lt num hden
  unfold roundDiv
  dsimp only
  generalize num / den = q at hnum ⊢
  generalize num % den = r at hnum hlt ⊢
  -- The nearest number is the quotient or its successor.
  have hq : q ≤ n := by
    by_contra! hlt'
    have hle := Nat.mul_le_mul_right den (Nat.succ_le_of_lt hlt')
    rw [Nat.succ_mul] at hle
    have hcomm := Nat.mul_comm den q
    omega
  have hn : n ≤ q + 1 := by
    by_contra! hlt'
    have hle := Nat.mul_le_mul_right den (Nat.succ_le_of_lt hlt')
    rw [Nat.succ_mul, Nat.succ_mul] at hle
    have hcomm := Nat.mul_comm den q
    omega
  have hcomm := Nat.mul_comm den q
  rcases Nat.eq_or_lt_of_le hq with rfl | hlt'
  · split_ifs <;> omega
  · obtain rfl : n = q + 1 := by omega
    have hsucc := Nat.succ_mul q den
    rw [Nat.succ_eq_add_one] at hsucc
    split_ifs <;> omega

/-! ## Powers of two -/

lemma zpow_eq_pow_toNat {b : ℚ} {e : ℤ} (he : 0 ≤ e) : b ^ e = b ^ e.toNat := by
  obtain ⟨n, rfl⟩ := Int.eq_ofNat_of_zero_le he
  simp

lemma zpow_eq_inv_pow_toNat {b : ℚ} {e : ℤ} (he : e ≤ 0) : b ^ e = (b ^ (-e).toNat)⁻¹ := by
  rw [← zpow_eq_pow_toNat (by omega), zpow_neg, inv_inv]

namespace BinaryFormat

lemma powerLe_iff {e : ℤ} {num den : ℕ} (hden : 0 < den) :
    powerLe e num den = true ↔ (2 : ℚ) ^ e ≤ num / den := by
  have hden' : (0 : ℚ) < den := by exact_mod_cast hden
  unfold powerLe
  split_ifs with he
  · rw [decide_eq_true_iff, le_div_iff₀ hden', zpow_eq_pow_toNat he, Nat.pow_eq, mul_comm]
    exact_mod_cast Iff.rfl
  · rw [decide_eq_true_iff, zpow_eq_inv_pow_toNat (by omega), ← one_div,
      div_le_div_iff₀ (by positivity) hden', one_mul, Nat.pow_eq]
    exact_mod_cast Iff.rfl

lemma zpow_log2_le {n : ℕ} (hn : 0 < n) : (2 : ℚ) ^ (n.log2 : ℤ) ≤ n := by
  rw [zpow_natCast]
  exact_mod_cast Nat.log2_self_le hn.ne'

lemma lt_zpow_log2_succ (n : ℕ) : (n : ℚ) < 2 ^ ((n.log2 : ℤ) + 1) := by
  have hlt : n < 2 ^ (n.log2 + 1) := Nat.lt_log2_self
  exact_mod_cast hlt

/-- The logarithm of a quotient. -/
lemma logRatio_spec {num den : ℕ} (hnum : 0 < num) (hden : 0 < den) :
    (2 : ℚ) ^ logRatio num den ≤ num / den ∧ (num / den : ℚ) < 2 ^ (logRatio num den + 1) := by
  have hden' : (0 : ℚ) < den := by exact_mod_cast hden
  have htwo : (2 : ℚ) ≠ 0 := two_ne_zero
  -- The guess is right or one too large.
  have hlow : (2 : ℚ) ^ ((num.log2 : ℤ) - den.log2 - 1) ≤ num / den := by
    rw [show (num.log2 : ℤ) - den.log2 - 1 = num.log2 - (den.log2 + 1) by ring, zpow_sub₀ htwo]
    exact div_le_div₀ (by positivity) (zpow_log2_le hnum) hden' (lt_zpow_log2_succ den).le
  have hhigh : (num / den : ℚ) < 2 ^ ((num.log2 : ℤ) - den.log2 + 1) := by
    rw [show (num.log2 : ℤ) - den.log2 + 1 = num.log2 + 1 - den.log2 by ring, zpow_sub₀ htwo]
    exact div_lt_div₀ (lt_zpow_log2_succ num) (zpow_log2_le hden) (by positivity) (by positivity)
  unfold logRatio
  dsimp only
  split_ifs with h
  · exact ⟨(powerLe_iff hden).1 h, hhigh⟩
  · rw [powerLe_iff hden, not_le] at h
    exact ⟨hlow, by rwa [sub_add_cancel]⟩

/-- The quotient by a scaled number is rounded to the nearest natural number. -/
lemma roundScaled_eq {num den n : ℕ} {e : ℤ} (hden : 0 < den)
    (h : NearestEven (num / den / 2 ^ e) n) : roundScaled num den e = n := by
  unfold roundScaled
  split_ifs with he
  · refine roundDiv_eq (Nat.mul_pos hden (Nat.pow_pos (by decide))) ?_
    rw [zpow_eq_pow_toNat he, div_div] at h
    exact_mod_cast h
  · refine roundDiv_eq hden ?_
    rw [zpow_eq_inv_pow_toNat (by omega), div_inv_eq_mul, div_mul_eq_mul_div] at h
    exact_mod_cast h

/-! ## Pairs of significand and exponent -/

/-- The fields of a format are wide enough. -/
structure Proper (f : BinaryFormat) : Prop where
  /-- There is a fraction. -/
  fraction : 1 ≤ f.fractionBits
  /-- There are exponents of normal numbers. -/
  exponent : 2 ≤ f.exponentBits

/-- The pair of a significand and an exponent that a finite word stands for: the significand is
normal, or the exponent is the least one. -/
structure Canonical (f : BinaryFormat) (m : ℕ) (e : ℤ) : Prop where
  /-- The significand has no more bits than fit. -/
  lt : m < 2 * f.hiddenBit
  /-- The exponent is not too small. -/
  min_le : f.minExponent ≤ e
  /-- The exponent is not too large. -/
  le_max : e + 3 ≤ f.minExponent + 2 ^ f.exponentBits
  /-- The significand is normal unless the exponent is the least one. -/
  normal : f.minExponent < e → f.hiddenBit ≤ m

/-- The magnitude of the word that stands for a pair. -/
def magnitude (f : BinaryFormat) (m : ℕ) (e : ℤ) : ℕ :=
  m + (e - f.minExponent).toNat * f.hiddenBit

/-- The rational lies nearest to the pair: no farther away than half a unit of the last place, or
half a smaller one below the least normal significand of an exponent.  It may lie halfway if the
significand is even. -/
structure Rounds (f : BinaryFormat) (m : ℕ) (e : ℤ) (x : ℚ) : Prop where
  /-- The rational is not far below. -/
  low : ((m : ℚ) - 1 / 2) * 2 ^ e ≤ x
  /-- It is not far above. -/
  high : x ≤ ((m : ℚ) + 1 / 2) * 2 ^ e
  /-- It is nearer if there is a smaller unit below. -/
  narrow : m = f.hiddenBit → f.minExponent < e → ((m : ℚ) - 1 / 4) * 2 ^ e ≤ x
  /-- Next to an odd significand it is not halfway to a neighbour. -/
  odd : m % 2 = 1 → ((m : ℚ) - 1 / 2) * 2 ^ e < x ∧ x < ((m : ℚ) + 1 / 2) * 2 ^ e

variable {f : BinaryFormat} {m : ℕ} {e : ℤ} {x : ℚ}

lemma hiddenBit_pos (f : BinaryFormat) : 0 < f.hiddenBit := Nat.pow_pos (by decide)

lemma hiddenBit_cast (f : BinaryFormat) : (f.hiddenBit : ℚ) = 2 ^ (f.fractionBits : ℤ) := by
  rw [zpow_natCast, hiddenBit, Nat.pow_eq, Nat.cast_pow, Nat.cast_ofNat]

/-- There are four exponents at least. -/
lemma Proper.four_le (hf : f.Proper) : 4 ≤ 2 ^ f.exponentBits :=
  Nat.pow_le_pow_right two_pos hf.exponent

/-- The hidden bit is even. -/
lemma Proper.hiddenBit_mod (hf : f.Proper) : f.hiddenBit % 2 = 0 := by
  obtain ⟨k, hk⟩ := Nat.exists_eq_add_of_le hf.fraction
  rw [hiddenBit, Nat.pow_eq, hk, Nat.add_comm, Nat.pow_succ, Nat.mul_mod_left]

/-- The word of a pair is finite. -/
lemma Canonical.magnitude_lt (h : f.Canonical m e) :
    f.magnitude m e < f.infinityWord := by
  obtain ⟨k, hk⟩ := Int.eq_ofNat_of_zero_le (show 0 ≤ e - f.minExponent by have := h.min_le; omega)
  have hpow : ((2 ^ f.exponentBits : ℕ) : ℤ) = 2 ^ f.exponentBits := by push_cast; rfl
  have hfield : k + 2 ≤ 2 ^ f.exponentBits - 1 := by
    have hmax := h.le_max
    omega
  calc f.magnitude m e = m + k * f.hiddenBit := by rw [magnitude, hk, Int.toNat_natCast]
    _ < 2 * f.hiddenBit + k * f.hiddenBit := Nat.add_lt_add_right h.lt _
    _ = (k + 2) * f.hiddenBit := by ring
    _ ≤ f.infinityWord := Nat.mul_le_mul_right _ hfield

/-- The magnitude of the last significand below the hidden bit. -/
lemma magnitude_pred (he : f.minExponent < e) :
    2 * f.hiddenBit + (e - 1 - f.minExponent).toNat * f.hiddenBit =
      f.magnitude f.hiddenBit e := by
  obtain ⟨k, hk⟩ := Int.eq_ofNat_of_zero_le (show 0 ≤ e - 1 - f.minExponent by omega)
  have hk' : e - f.minExponent = (k + 1 : ℕ) := by omega
  rw [magnitude, hk, hk', Int.toNat_natCast, Int.toNat_natCast]
  ring

/-- What the logarithm of a quotient is compared with. -/
lemma le_logRatio_iff {num den : ℕ} (hnum : 0 < num) (hden : 0 < den) {a : ℤ} :
    a ≤ logRatio num den ↔ (2 : ℚ) ^ a ≤ num / den := by
  obtain ⟨hlow, hhigh⟩ := logRatio_spec hnum hden
  constructor
  · intro h
    exact (zpow_le_zpow_right₀ one_le_two h).trans hlow
  · intro h
    exact Int.lt_add_one_iff.1 ((zpow_lt_zpow_iff_right₀ one_lt_two).1 (h.trans_lt hhigh))

/-- The exponent at which a quotient is rounded. -/
lemma roundRatio_eq_of_scaled {num den n : ℕ} (hnum : 0 < num) {e' : ℤ}
    (he : max (logRatio num den - f.fractionBits) f.minExponent = e')
    (hn : roundScaled num den e' = n)
    (hle : n + (e' - f.minExponent).toNat * f.hiddenBit ≤ f.infinityWord) :
    f.roundRatio num den = n + (e' - f.minExponent).toNat * f.hiddenBit := by
  rw [roundRatio, if_neg hnum.ne']
  dsimp only
  rw [he, hn, min_eq_left hle]

lemma zpow_fractionBits_add (f : BinaryFormat) (a e : ℤ) :
    (2 : ℚ) ^ (f.fractionBits + a + e) = f.hiddenBit * 2 ^ a * 2 ^ e := by
  rw [hiddenBit_cast, zpow_add₀ two_ne_zero, zpow_add₀ two_ne_zero]

section RoundRatio

variable {num den : ℕ}

/-- Below the least normal significand of an exponent the unit is half as large. -/
lemma roundRatio_of_below (h : f.Canonical f.hiddenBit e) (hnum : 0 < num) (hden : 0 < den)
    (hexp : f.minExponent < e) (hx : f.Rounds f.hiddenBit e (num / den))
    (hlt : (num / den : ℚ) < f.hiddenBit * 2 ^ e) :
    f.roundRatio num den = f.magnitude f.hiddenBit e := by
  have hunit : (0 : ℚ) < 2 ^ e := by positivity
  have hhidden : (1 : ℚ) ≤ f.hiddenBit := by exact_mod_cast f.hiddenBit_pos
  have hlow := hx.narrow rfl hexp
  have hlog : logRatio num den = f.fractionBits + -1 + e := by
    refine le_antisymm (Int.lt_add_one_iff.1 (not_le.1 fun hle => ?_)) ?_
    · have hle' : (f.fractionBits : ℤ) + 0 + e ≤ logRatio num den := by omega
      rw [le_logRatio_iff hnum hden, zpow_fractionBits_add, zpow_zero, mul_one] at hle'
      exact hle'.not_gt hlt
    · rw [le_logRatio_iff hnum hden, zpow_fractionBits_add, zpow_neg_one]
      nlinarith
  have hround : NearestEven (num / den / 2 ^ (e - 1)) (2 * f.hiddenBit) := by
    rw [zpow_sub_one₀ two_ne_zero]
    refine ⟨?_, ?_, by omega⟩
    · rw [le_div_iff₀ (by positivity)]
      push_cast
      linarith
    · rw [div_le_iff₀ (by positivity)]
      push_cast
      linarith
  have hmax := h.magnitude_lt.le
  rw [← magnitude_pred hexp] at hmax ⊢
  exact roundRatio_eq_of_scaled hnum (by omega) (roundScaled_eq hden hround) hmax

/-- Anywhere else the unit is that of the exponent. -/
lemma roundRatio_of_within (h : f.Canonical m e) (hnum : 0 < num) (hden : 0 < den)
    (hx : f.Rounds m e (num / den))
    (hge : f.minExponent < e → (f.hiddenBit : ℚ) * 2 ^ e ≤ num / den) :
    f.roundRatio num den = f.magnitude m e := by
  have hunit : (0 : ℚ) < 2 ^ e := by positivity
  have hupper : logRatio num den < f.fractionBits + 1 + e := by
    rw [← not_le, le_logRatio_iff hnum hden, zpow_fractionBits_add, zpow_one, not_le]
    have hlt : (m : ℚ) + 1 ≤ 2 * f.hiddenBit := by exact_mod_cast h.lt
    exact hx.high.trans_lt (by nlinarith)
  have hlower (hexp : f.minExponent < e) : f.fractionBits + 0 + e ≤ logRatio num den := by
    rw [le_logRatio_iff hnum hden, zpow_fractionBits_add, zpow_zero, mul_one]
    exact hge hexp
  have hlog : max (logRatio num den - f.fractionBits) f.minExponent = e := by
    rcases h.min_le.lt_or_eq with hexp | rfl
    · have hle := hlower hexp
      omega
    · omega
  have hround : NearestEven (num / den / 2 ^ e) m :=
    ⟨(le_div_iff₀ hunit).2 hx.low, (div_le_iff₀ hunit).2 hx.high, fun hodd =>
      ⟨(lt_div_iff₀ hunit).2 (hx.odd hodd).1, (div_lt_iff₀ hunit).2 (hx.odd hodd).2⟩⟩
  exact roundRatio_eq_of_scaled hnum hlog (roundScaled_eq hden hround) h.magnitude_lt.le

/-- **Rounding a quotient** gives the word of the pair that it lies nearest to. -/
theorem roundRatio_eq (h : f.Canonical m e) (hm : 0 < m) (hden : 0 < den)
    (hx : f.Rounds m e (num / den)) : f.roundRatio num den = f.magnitude m e := by
  have hunit : (0 : ℚ) < 2 ^ e := by positivity
  have hm' : (1 : ℚ) ≤ m := by exact_mod_cast hm
  have hlow := hx.low
  have hnum : 0 < num := by
    rcases Nat.eq_zero_or_pos num with rfl | hnum
    · rw [Nat.cast_zero, zero_div] at hlow
      nlinarith
    · exact hnum
  rcases lt_or_ge (num / den : ℚ) (f.hiddenBit * 2 ^ e) with hlt | hge
  · by_cases hexp : f.minExponent < e
    -- Only the least normal significand has numbers below the power of two that round to it.
    · obtain rfl : m = f.hiddenBit := by
        refine le_antisymm (Nat.lt_succ_iff.1 (not_le.1 fun hgt => ?_)) (h.normal hexp)
        have hgt' : (f.hiddenBit : ℚ) + 1 ≤ m := by exact_mod_cast hgt
        nlinarith
      exact roundRatio_of_below h hnum hden hexp hx hlt
    · exact roundRatio_of_within h hnum hden hx fun hexp' => absurd hexp' hexp
  · exact roundRatio_of_within h hnum hden hx fun _ => hge

/-- What lies on the number rounds to it. -/
lemma rounds_self (f : BinaryFormat) (m : ℕ) (e : ℤ) : f.Rounds m e (m * 2 ^ e) := by
  have hunit : (0 : ℚ) < 2 ^ e := by positivity
  refine ⟨?_, ?_, fun _ _ => ?_, fun _ => ⟨?_, ?_⟩⟩ <;> nlinarith

/-- Only the least exponent goes with zero. -/
lemma Canonical.eq_minExponent (h : f.Canonical 0 e) : e = f.minExponent := by
  refine le_antisymm (not_lt.1 fun hlt => ?_) h.min_le
  exact f.hiddenBit_pos.ne' (Nat.le_zero.1 (h.normal hlt))

/-- **An integer times a power of two** that a format has is not changed. -/
lemma roundScaledInteger_eq (h : f.Canonical m e) {n : ℕ} {k : ℤ}
    (heq : (n : ℚ) * 2 ^ k = m * 2 ^ e) : f.roundScaledInteger n k = f.magnitude m e := by
  rcases Nat.eq_zero_or_pos m with rfl | hm
  · obtain rfl : n = 0 := by
      have hunit : (2 : ℚ) ^ k ≠ 0 := by positivity
      simpa [hunit] using heq
    obtain rfl := h.eq_minExponent
    simp [roundScaledInteger, roundRatio, magnitude]
  have hx := f.rounds_self m e
  rw [← heq] at hx
  unfold roundScaledInteger
  split_ifs with hk
  · refine roundRatio_eq h hm one_pos ?_
    rw [zpow_eq_pow_toNat hk] at hx
    rw [Nat.cast_one, div_one]
    exact_mod_cast hx
  · refine roundRatio_eq h hm (Nat.pow_pos (by decide)) ?_
    rw [zpow_eq_inv_pow_toNat (by omega), ← div_eq_mul_inv] at hx
    exact_mod_cast hx

end RoundRatio

/-! ## Words -/

lemma infinityWord_add (f : BinaryFormat) : f.infinityWord + f.hiddenBit = f.signWeight := by
  rw [signWeight, infinityWord, hiddenBit, Nat.pow_eq, Nat.pow_eq, Nat.pow_eq, Nat.pow_add,
    ← Nat.succ_mul, Nat.succ_eq_add_one, Nat.sub_add_cancel (Nat.two_pow_pos _)]

lemma infinityWord_lt (f : BinaryFormat) : f.infinityWord < f.signWeight := by
  have hadd := f.infinityWord_add
  have hpos := f.hiddenBit_pos
  omega

lemma signWeight_eq (f : BinaryFormat) : f.signWeight = 2 ^ f.exponentBits * f.hiddenBit := by
  rw [signWeight, hiddenBit, Nat.pow_eq, Nat.pow_eq, Nat.pow_add]

section Fields

variable {a : ℕ} (negative : Bool) (ha : a < f.signWeight)

include ha

lemma isNegative_withSign : f.isNegative (f.withSign negative a) = negative := by
  have hdiv : a / f.signWeight = 0 := Nat.div_eq_of_lt ha
  have hpos : 0 < f.signWeight := Nat.zero_lt_of_lt ha
  cases negative with
  | false => simp [isNegative, withSign, hdiv]
  | true => simp [isNegative, withSign, Nat.add_div_left, hpos, hdiv]

lemma exponentField_withSign : f.exponentField (f.withSign negative a) = a / f.hiddenBit := by
  rw [signWeight_eq] at ha
  have hdiv : a / f.hiddenBit < 2 ^ f.exponentBits :=
    Nat.div_lt_of_lt_mul (by rwa [Nat.mul_comm] at ha)
  cases negative with
  | false => simp [exponentField, withSign, Nat.mod_eq_of_lt hdiv]
  | true =>
    simp [exponentField, withSign, signWeight_eq, Nat.mul_add_div, f.hiddenBit_pos,
      Nat.mod_eq_of_lt hdiv, Nat.mul_comm (2 ^ f.exponentBits)]

omit ha in
lemma fractionField_withSign : f.fractionField (f.withSign negative a) = a % f.hiddenBit := by
  cases negative with
  | false => rfl
  | true => simp [fractionField, withSign, signWeight_eq]

end Fields

/-- What the word of a magnitude stands for goes by the fields. -/
lemma decode_withSign {a : ℕ} (negative : Bool) (ha : a < f.signWeight) :
    f.decode (f.withSign negative a) =
      if a / f.hiddenBit = 2 ^ f.exponentBits - 1 then
        if a % f.hiddenBit = 0 then .infinite negative else .nan negative
      else if a / f.hiddenBit = 0 then .finite negative (a % f.hiddenBit) f.minExponent
      else .finite negative (f.hiddenBit + a % f.hiddenBit)
        (f.minExponent + (a / f.hiddenBit - 1 : ℕ)) := by
  simp only [decode, isNegative_withSign negative ha, exponentField_withSign negative ha,
    fractionField_withSign, Nat.pow_eq]

/-- **The word of a pair** stands for it. -/
lemma decode_magnitude (h : f.Canonical m e) (negative : Bool) :
    f.decode (f.withSign negative (f.magnitude m e)) = .finite negative m e := by
  have hmin := h.min_le
  have hmax := h.le_max
  obtain ⟨k, hk⟩ := Int.eq_ofNat_of_zero_le (show 0 ≤ e - f.minExponent by omega)
  obtain rfl : e = f.minExponent + k := by omega
  have hpow : ((2 ^ f.exponentBits : ℕ) : ℤ) = 2 ^ f.exponentBits := by push_cast; rfl
  have hmagnitude : f.magnitude m (f.minExponent + k) = m + k * f.hiddenBit := by
    rw [magnitude, hk, Int.toNat_natCast]
  rw [decode_withSign negative (h.magnitude_lt.trans f.infinityWord_lt), hmagnitude,
    Nat.add_mul_div_right _ _ f.hiddenBit_pos, Nat.add_mul_mod_self_right]
  rcases lt_or_ge m f.hiddenBit with hlt | hge
  -- A subnormal significand: the exponent is the least one.
  · obtain rfl : k = 0 := by
      by_contra hk
      exact hlt.not_ge (h.normal (by omega))
    rw [Nat.div_eq_of_lt hlt, Nat.mod_eq_of_lt hlt, if_neg (by omega), if_pos rfl]
    simp
  · have hdiv : m / f.hiddenBit = 1 := Nat.div_eq_of_lt_le (by omega) (by have := h.lt; omega)
    have hmod : f.hiddenBit + m % f.hiddenBit = m := by
      rw [Nat.mod_eq_sub_mul_div, hdiv]
      omega
    rw [hdiv, hmod, if_neg (by omega), if_neg (by omega), Nat.add_sub_cancel_left]

/-- A word is one of a pair, of an infinity or of no number. -/
inductive Decoded (f : BinaryFormat) (w : ℕ) : FloatValue → Prop where
  /-- The word is that of a pair. -/
  | finite {negative : Bool} {m : ℕ} {e : ℤ} (h : f.Canonical m e)
      (hw : w = f.withSign negative (f.magnitude m e)) : Decoded f w (.finite negative m e)
  /-- The word is that of an infinity. -/
  | infinite {negative : Bool} (hw : w = f.withSign negative f.infinityWord) :
    Decoded f w (.infinite negative)
  /-- The word is none of a number. -/
  | nan (negative : Bool) : Decoded f w (.nan negative)

/-- A word is a sign and a magnitude. -/
lemma exists_withSign {w : ℕ} (hw : w < 2 * f.signWeight) :
    ∃ negative a, a < f.signWeight ∧ w = f.withSign negative a := by
  rcases lt_or_ge w f.signWeight with hlt | hge
  · exact ⟨false, w, hlt, rfl⟩
  · exact ⟨true, w - f.signWeight, by omega, (Nat.add_sub_cancel' hge).symm⟩

/-- **What words stand for.** -/
lemma decoded_decode (hf : f.Proper) {w : ℕ} (hw : w < 2 * f.signWeight) :
    f.Decoded w (f.decode w) := by
  obtain ⟨negative, a, ha, rfl⟩ := exists_withSign hw
  have hfields := Nat.div_add_mod a f.hiddenBit
  have hfraction := Nat.mod_lt a f.hiddenBit_pos
  have hfield : a / f.hiddenBit < 2 ^ f.exponentBits :=
    Nat.div_lt_of_lt_mul (by rwa [signWeight_eq, Nat.mul_comm] at ha)
  have hpow : ((2 ^ f.exponentBits : ℕ) : ℤ) = 2 ^ f.exponentBits := by push_cast; rfl
  have hfour := hf.four_le
  rw [decode_withSign negative ha]
  generalize a / f.hiddenBit = field at hfields hfield ⊢
  generalize a % f.hiddenBit = fraction at hfields hfraction ⊢
  subst hfields
  split_ifs with hspecial hzero hsubnormal
  · subst hspecial hzero
    refine .infinite ?_
    rw [infinityWord, Nat.pow_eq, Nat.add_zero, Nat.mul_comm]
  · exact .nan negative
  · subst hsubnormal
    refine .finite ⟨by omega, le_rfl, by omega, fun h => absurd h (lt_irrefl _)⟩ ?_
    simp [magnitude]
  · refine .finite ⟨by omega, by omega, by omega, fun _ => Nat.le_add_right _ _⟩ ?_
    obtain ⟨k, rfl⟩ := Nat.exists_eq_succ_of_ne_zero hsubnormal
    simp only [magnitude, Nat.succ_eq_add_one, Nat.add_sub_cancel, add_sub_cancel_left,
      Int.toNat_natCast]
    congr 1
    ring

lemma decode_infinityWord (f : BinaryFormat) (negative : Bool) :
    f.decode (f.withSign negative f.infinityWord) = .infinite negative := by
  rw [decode_withSign negative f.infinityWord_lt, infinityWord, Nat.pow_eq,
    Nat.mul_div_cancel _ f.hiddenBit_pos, Nat.mul_mod_left, if_pos rfl, if_pos rfl]

lemma decode_quietNaN (hf : f.Proper) (negative : Bool) :
    f.decode (f.quietNaN negative) = .nan negative := by
  have hhalf : 0 < f.hiddenBit / 2 := by
    have heven := hf.hiddenBit_mod
    have hpos := f.hiddenBit_pos
    omega
  have hlt : f.hiddenBit / 2 < f.hiddenBit := Nat.div_lt_self f.hiddenBit_pos one_lt_two
  have hadd := f.infinityWord_add
  rw [quietNaN, decode_withSign negative (by omega), infinityWord, Nat.pow_eq,
    Nat.add_comm _ (f.hiddenBit / 2), Nat.add_mul_div_right _ _ f.hiddenBit_pos,
    Nat.add_mul_mod_self_right, Nat.div_eq_of_lt hlt, Nat.mod_eq_of_lt hlt, Nat.zero_add,
    if_pos rfl, if_neg hhalf.ne']

/-! ## From one format to another -/

/-- All numbers of one format are numbers of the other one. -/
structure Embeds (f g : BinaryFormat) : Prop where
  /-- The fraction is no wider. -/
  fraction : f.fractionBits ≤ g.fractionBits
  /-- The exponent is no wider. -/
  exponent : f.exponentBits ≤ g.exponentBits

variable {g : BinaryFormat}

lemma minExponent_eq (hf : f.Proper) :
    f.minExponent + 2 ^ f.exponentBits =
      2 + ((2 ^ (f.exponentBits - 1) : ℕ) : ℤ) - f.fractionBits := by
  have htwice : 2 ^ f.exponentBits = 2 * 2 ^ (f.exponentBits - 1) := by
    rw [← Nat.pow_succ', Nat.succ_eq_add_one, Nat.sub_add_cancel (by have := hf.exponent; omega)]
  have hcast : (2 : ℤ) ^ f.exponentBits = ((2 ^ f.exponentBits : ℕ) : ℤ) := by push_cast; rfl
  rw [minExponent, Nat.pow_eq, hcast, htwice]
  push_cast
  ring

/-- The number of a pair has a pair in a wider format. -/
lemma Canonical.exists_of_embeds (h : f.Canonical m e) (hf : f.Proper) (hg : g.Proper)
    (hfg : f.Embeds g) : ∃ m' e', g.Canonical m' e' ∧ (m' : ℚ) * 2 ^ e' = m * 2 ^ e := by
  have hpow : 2 ^ (f.exponentBits - 1) ≤ 2 ^ (g.exponentBits - 1) :=
    Nat.pow_le_pow_right (by decide) (Nat.sub_le_sub_right hfg.exponent 1)
  have hfour := hg.four_le
  have hcast : (2 : ℤ) ^ g.exponentBits = ((2 ^ g.exponentBits : ℕ) : ℤ) := by push_cast; rfl
  have hfraction := hfg.fraction
  have hfmax := minExponent_eq hf
  have hgmax := minExponent_eq hg
  have hmin : g.minExponent ≤ f.minExponent := by
    rw [minExponent, minExponent, Nat.pow_eq, Nat.pow_eq]
    omega
  have hfmin := h.min_le
  have hlemax := h.le_max
  rcases Nat.eq_zero_or_pos m with rfl | hm
  · refine ⟨0, g.minExponent, ⟨?_, le_rfl, by omega, fun hlt => absurd hlt (lt_irrefl _)⟩, by simp⟩
    exact Nat.mul_pos two_pos g.hiddenBit_pos
  have hlog : m.log2 ≤ f.fractionBits := by
    refine Nat.lt_succ_iff.1 ((Nat.log2_lt hm.ne').2 ?_)
    rw [Nat.succ_eq_add_one, Nat.pow_succ']
    exact h.lt
  have hlow : 2 ^ m.log2 ≤ m := Nat.log2_self_le hm.ne'
  have hhigh : m < 2 ^ (m.log2 + 1) := Nat.lt_log2_self
  -- The significand is moved up until it is normal or the exponent is the least one.
  obtain ⟨s, hs⟩ : ∃ s, s = min (g.fractionBits - m.log2) (e - g.minExponent).toNat := ⟨_, rfl⟩
  have hshift : m * 2 ^ s < 2 * g.hiddenBit :=
    calc m * 2 ^ s < 2 ^ (m.log2 + 1) * 2 ^ s :=
          Nat.mul_lt_mul_of_pos_right hhigh (Nat.two_pow_pos s)
      _ = 2 ^ (m.log2 + 1 + s) := (Nat.pow_add ..).symm
      _ ≤ 2 ^ (g.fractionBits + 1) := Nat.pow_le_pow_right two_pos (by omega)
      _ = 2 * g.hiddenBit := Nat.pow_succ'
  have hnormal (heq : s = g.fractionBits - m.log2) : g.hiddenBit ≤ m * 2 ^ s :=
    calc g.hiddenBit = 2 ^ (m.log2 + s) := by rw [heq, Nat.add_sub_cancel' (by omega)]; rfl
      _ = 2 ^ m.log2 * 2 ^ s := Nat.pow_add ..
      _ ≤ m * 2 ^ s := Nat.mul_le_mul_right _ hlow
  refine ⟨m * 2 ^ s, e - s, ⟨hshift, by omega, by omega, fun hlt => hnormal (by omega)⟩, ?_⟩
  rw [zpow_sub₀ two_ne_zero, zpow_natCast, Nat.cast_mul, Nat.cast_pow, Nat.cast_ofNat]
  field_simp

/-- **There and back.**  A word of a number that is taken to a wider format is taken back. -/
theorem convert_convert (hf : f.Proper) (hg : g.Proper) (hfg : f.Embeds g) {w : ℕ}
    (hw : w < 2 * f.signWeight) (hnan : ∀ negative, f.decode w ≠ .nan negative) :
    g.convert f (f.convert g w) = w := by
  have hdecoded := decoded_decode hf hw
  unfold convert
  rcases hvalue : f.decode w with ⟨negative, m, e⟩ | negative | negative
  · rw [hvalue] at hdecoded
    cases hdecoded with
    | finite h hw =>
      obtain ⟨m', e', h', heq⟩ := h.exists_of_embeds hf hg hfg
      rw [encode, roundScaledInteger_eq h' heq.symm, decode_magnitude h', encode,
        roundScaledInteger_eq h heq, hw]
  · rw [hvalue] at hdecoded
    cases hdecoded with
    | infinite hw => rw [encode, decode_infinityWord, encode, hw]
  · exact absurd hvalue (hnan negative)

/-- What stands for no number goes over to what stands for no number. -/
lemma decode_convert_of_nan (hg : g.Proper) {w : ℕ} {negative : Bool}
    (h : f.decode w = .nan negative) : g.decode (f.convert g w) = .nan negative := by
  rw [convert, h, encode, decode_quietNaN hg]

lemma decode_convert_ne_nan (hf : f.Proper) (hg : g.Proper) (hfg : f.Embeds g) {w : ℕ}
    (hw : w < 2 * f.signWeight) (hnan : ∀ negative, f.decode w ≠ .nan negative) (negative : Bool) :
    g.decode (f.convert g w) ≠ .nan negative := by
  intro h
  have hback := decode_convert_of_nan (g := f) hf h
  rw [convert_convert hf hg hfg hw hnan] at hback
  exact hnan negative hback

lemma roundScaledInteger_le (f : BinaryFormat) (n : ℕ) (k : ℤ) :
    f.roundScaledInteger n k ≤ f.infinityWord := by
  have hround (num den : ℕ) : f.roundRatio num den ≤ f.infinityWord := by
    unfold roundRatio
    split_ifs
    · exact Nat.zero_le _
    · exact min_le_right _ _
  unfold roundScaledInteger
  split_ifs <;> exact hround _ _

/-- Values have words of the format. -/
lemma encode_lt (f : BinaryFormat) (v : FloatValue) : f.encode v < 2 * f.signWeight := by
  have hadd := f.infinityWord_add
  have hpos := f.hiddenBit_pos
  have hsign {negative : Bool} {a : ℕ} (ha : a < f.signWeight) :
      f.withSign negative a < 2 * f.signWeight := by
    unfold withSign
    split_ifs <;> omega
  cases v with
  | finite negative n k => exact hsign ((f.roundScaledInteger_le n k).trans_lt f.infinityWord_lt)
  | infinite negative => exact hsign f.infinityWord_lt
  | nan negative => exact hsign (by omega)

end BinaryFormat

end TensorBridge
