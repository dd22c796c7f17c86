import TensorBridge.Number.Shortest
import TensorBridge.Proofs.Number.Rounding

/-!
# Digits that round to a number

The decimal number that is shown for a number of a binary format rounds to it.  The numbers that do
are an interval; the search over the decimal grids ends with a grid point in it, at the latest on a
grid so fine that the next point above the number is closer than half a unit.

* `RoundingInterval.search_holds`: a search that comes to a fine enough grid ends in the interval.
* `BinaryFormat.rounds_shortest`: the shortest digits round to the number they are found for.
-/

namespace TensorBridge

/-! ## Places of digits -/

lemma length_digitsOf_le_iff {n k : ℕ} (hk : 0 < k) : (digitsOf n).length ≤ k ↔ n < 10 ^ k :=
  Nat.length_toDigits_le_iff (by decide) hk

lemma length_digitsOf_pos (n : ℕ) : 0 < (digitsOf n).length := Nat.length_toDigits_pos

lemma lt_pow_length_digitsOf (n : ℕ) : n < 10 ^ (digitsOf n).length :=
  (length_digitsOf_le_iff (length_digitsOf_pos n)).1 le_rfl

lemma pow_length_digitsOf_le {n : ℕ} (hn : 0 < n) : 10 ^ ((digitsOf n).length - 1) ≤ n := by
  have hpos := length_digitsOf_pos n
  rcases Nat.eq_or_lt_of_le (Nat.succ_le_of_lt hpos) with hone | hlt
  · rw [← hone]
    exact hn
  · have hiff := length_digitsOf_le_iff (n := n) (k := (digitsOf n).length - 1) (by omega)
    by_contra! hlt'
    have hle := hiff.2 hlt'
    omega

/-- A quotient is at least the power of ten of its leading digit. -/
lemma zpow_leadingPlace_le {num den : ℕ} (hnum : 0 < num) (hden : 0 < den) :
    (10 : ℚ) ^ leadingPlace num den ≤ num / den := by
  have hden' : (0 : ℚ) < den := by exact_mod_cast hden
  unfold leadingPlace
  split_ifs with hle
  · have hpos := length_digitsOf_pos (num / den)
    have hpow := pow_length_digitsOf_le (Nat.div_pos hle hden)
    rw [Nat.le_div_iff_mul_le hden] at hpow
    rw [show ((digitsOf (num / den)).length : ℤ) - 1 =
      ((digitsOf (num / den)).length - 1 : ℕ) by omega,
      zpow_natCast, le_div_iff₀ hden']
    exact_mod_cast hpow
  · have hpow := lt_pow_length_digitsOf ((den - 1) / num)
    rw [Nat.div_lt_iff_lt_mul hnum] at hpow
    have hpow' : den ≤ 10 ^ (digitsOf ((den - 1) / num)).length * num := by omega
    rw [zpow_neg, zpow_natCast, ← one_div, div_le_div_iff₀ (by positivity) hden', one_mul, mul_comm]
    exact_mod_cast hpow'

/-- Moving zeros into the exponent does not change the number. -/
lemma trimZeros_value (c : ℕ) (k : ℤ) :
    ((trimZeros c k).1 : ℚ) * 10 ^ (trimZeros c k).2 = c * 10 ^ k := by
  induction c, k using trimZeros.induct with
  | case1 c k h ih =>
    obtain ⟨d, hd⟩ := Nat.dvd_of_mod_eq_zero h.2
    rw [trimZeros, dif_pos h, ih, hd, Nat.mul_div_cancel_left d (by decide),
      zpow_add_one₀ (by norm_num)]
    push_cast
    ring
  | case2 c k h => rw [trimZeros, dif_neg h]

/-! ## Searching an interval -/

namespace RoundingInterval

/-- The rational lies in the interval. -/
def Holds (i : RoundingInterval) (x : ℚ) : Prop :=
  if i.closed then (i.low : ℚ) / i.denominator ≤ x ∧ x ≤ i.high / i.denominator
  else (i.low : ℚ) / i.denominator < x ∧ x < i.high / i.denominator

/-- The numerators are those of the interval, scaled so that the grid of a place has a whole
unit. -/
structure OnGrid (i : RoundingInterval) (place : ℤ) (j : RoundingInterval) (unit : ℕ) (scale : ℚ) :
    Prop where
  scale_pos : 0 < scale
  low_eq : (j.low : ℚ) = i.low / i.denominator * scale
  value_eq : (j.value : ℚ) = i.value / i.denominator * scale
  high_eq : (j.high : ℚ) = i.high / i.denominator * scale
  closed_eq : j.closed = i.closed
  unit_eq : (unit : ℚ) = 10 ^ place * scale

variable {i j : RoundingInterval} {tie : TieRule} {place : ℤ} {unit : ℕ} {scale : ℚ}

lemma exists_onGrid (hden : 0 < i.denominator) (place : ℤ) :
    ∃ scale, i.OnGrid place (i.onGrid place).1 (i.onGrid place).2 scale := by
  have hden' : (0 : ℚ) < i.denominator := by exact_mod_cast hden
  unfold onGrid
  split_ifs with hplace
  · have hend (n : ℕ) : (n : ℚ) = n / i.denominator * i.denominator :=
      (div_mul_cancel₀ _ hden'.ne').symm
    refine ⟨i.denominator, hden', hend _, hend _, hend _, rfl, ?_⟩
    rw [zpow_eq_pow_toNat hplace, Nat.pow_eq]
    push_cast
    ring
  · have hend (n : ℕ) : ((n * Nat.pow 10 (-place).toNat : ℕ) : ℚ) =
        n / i.denominator * (i.denominator * 10 ^ (-place).toNat) := by
      rw [Nat.pow_eq]
      push_cast
      field_simp
    refine ⟨i.denominator * 10 ^ (-place).toNat, by positivity, hend _, hend _, hend _, rfl, ?_⟩
    rw [zpow_eq_inv_pow_toNat (by omega)]
    field_simp

/-- What the numerators of grid points tell. -/
lemma OnGrid.contains_iff (h : i.OnGrid place j unit scale) (n : ℕ) :
    j.contains (n * unit) = true ↔ i.Holds (n * 10 ^ place) := by
  have hpos := h.scale_pos
  have hpoint : ((n * unit : ℕ) : ℚ) = n * 10 ^ place * scale := by
    rw [Nat.cast_mul, h.unit_eq, mul_assoc]
  have hle (a b : ℕ) : a ≤ b ↔ (a : ℚ) ≤ b := Nat.cast_le.symm
  have hlt (a b : ℕ) : a < b ↔ (a : ℚ) < b := Nat.cast_lt.symm
  unfold contains Holds
  rw [h.closed_eq]
  split_ifs
  · rw [Bool.and_eq_true, decide_eq_true_iff, decide_eq_true_iff, hle, hle, hpoint, h.low_eq,
      h.high_eq, mul_le_mul_iff_left₀ hpos, mul_le_mul_iff_left₀ hpos]
  · rw [Bool.and_eq_true, decide_eq_true_iff, decide_eq_true_iff, hlt, hlt, hpoint, h.low_eq,
      h.high_eq, mul_lt_mul_iff_left₀ hpos, mul_lt_mul_iff_left₀ hpos]

/-- What is found on a grid lies in the interval. -/
lemma pointAt?_holds (hden : 0 < i.denominator) {n : ℕ} (h : i.pointAt? tie place = some n) :
    i.Holds (n * 10 ^ place) := by
  obtain ⟨scale, hgrid⟩ := exists_onGrid hden place
  rw [← hgrid.contains_iff]
  unfold pointAt? at h
  dsimp only at h
  split at h
  · rename_i hbelow habove
    split_ifs at h
    · cases h
      exact hbelow
    · cases h
      exact habove
  · rename_i hbelow _
    cases h
    exact hbelow
  · rename_i _ habove
    cases h
    exact habove
  · cases h

/-- The grid point above the number is closer than a unit. -/
lemma OnGrid.above (h : i.OnGrid place j unit scale) :
    (i.value : ℚ) / i.denominator < (j.value / unit + 1 : ℕ) * 10 ^ place ∧
      ((j.value / unit + 1 : ℕ) : ℚ) * 10 ^ place ≤ i.value / i.denominator + 10 ^ place := by
  have hpos := h.scale_pos
  have hunit : 0 < unit := by
    have hpos' : (0 : ℚ) < unit := by
      rw [h.unit_eq]
      positivity
    exact_mod_cast hpos'
  have hle := Nat.div_mul_le_self j.value unit
  have hlt := Nat.lt_mul_div_succ j.value hunit
  generalize j.value / unit = below at hle hlt ⊢
  have hle' : (below : ℚ) * 10 ^ place ≤ i.value / i.denominator := by
    rw [← mul_le_mul_iff_left₀ hpos, ← h.value_eq, mul_assoc, ← h.unit_eq]
    exact_mod_cast hle
  have hlt' : (i.value : ℚ) / i.denominator < (below + 1 : ℕ) * 10 ^ place := by
    rw [← mul_lt_mul_iff_left₀ hpos, ← h.value_eq, mul_assoc, ← h.unit_eq, mul_comm]
    exact_mod_cast hlt
  refine ⟨hlt', ?_⟩
  push_cast
  linarith

/-- A point is found on a grid whose unit is smaller than what lies between the number and the upper
end. -/
lemma pointAt?_ne_none (hden : 0 < i.denominator)
    (hlow : (i.low : ℚ) / i.denominator ≤ i.value / i.denominator)
    (hunit : (i.value : ℚ) / i.denominator + 10 ^ place < i.high / i.denominator) :
    i.pointAt? tie place ≠ none := by
  obtain ⟨scale, hgrid⟩ := exists_onGrid hden place
  -- The point above the number is in the interval.
  have habove : (i.onGrid place).1.contains
      (((i.onGrid place).1.value / (i.onGrid place).2 + 1) * (i.onGrid place).2) = true := by
    obtain ⟨hlt, hle⟩ := hgrid.above
    rw [hgrid.contains_iff]
    unfold Holds
    split_ifs
    · exact ⟨hlow.trans hlt.le, (hle.trans_lt hunit).le⟩
    · exact ⟨hlow.trans_lt hlt, hle.trans_lt hunit⟩
  unfold pointAt?
  dsimp only
  rw [habove]
  split
  · split_ifs <;> exact Option.some_ne_none _
  · exact Option.some_ne_none _
  · exact Option.some_ne_none _
  · rename_i hnot
    cases hnot

/-- **A search** that comes to a grid with a point in the interval ends with such a point. -/
theorem search_holds (hden : 0 < i.denominator) {fuel : ℕ}
    (h : i.pointAt? tie (place - fuel) ≠ none) :
    i.Holds ((i.search tie (fuel + 1) place).1 * 10 ^ (i.search tie (fuel + 1) place).2) := by
  induction fuel generalizing place with
  | zero =>
    rw [search]
    split
    · rename_i n hpoint
      exact pointAt?_holds hden hpoint
    · rename_i hnone
      rw [Nat.cast_zero, sub_zero] at h
      exact absurd hnone h
  | succ fuel ih =>
    rw [search]
    split
    · rename_i n hpoint
      exact pointAt?_holds hden hpoint
    · refine ih ?_
      rwa [Nat.cast_succ, sub_add_eq_sub_sub_swap] at h

end RoundingInterval

/-! ## The digits of a number -/

namespace BinaryFormat

variable {f : BinaryFormat} {m : ℕ} {e : ℤ} {x : ℚ}

/-- The rounding interval of a pair: half a unit to both sides, or a quarter below the least normal
significand of an exponent. -/
structure Surrounds (f : BinaryFormat) (m : ℕ) (e : ℤ) (i : RoundingInterval) : Prop where
  denominator_pos : 0 < i.denominator
  low_eq : (i.low : ℚ) / i.denominator =
    (m - if m = f.hiddenBit ∧ f.minExponent < e then 1 / 4 else 1 / 2) * 2 ^ e
  value_eq : (i.value : ℚ) / i.denominator = m * 2 ^ e
  high_eq : (i.high : ℚ) / i.denominator = (m + 1 / 2) * 2 ^ e
  closed_eq : i.closed = (m % 2 == 0)

lemma surrounds_roundingInterval (f : BinaryFormat) (hm : 0 < m) (e : ℤ) :
    f.Surrounds m e (f.roundingInterval m e) := by
  have hquarter : (2 : ℚ) ^ (e - 2) = 2 ^ e / 4 := by
    rw [zpow_sub₀ two_ne_zero]
    norm_num
  have hlow : ((4 * m - (if m = f.hiddenBit ∧ f.minExponent < e then 1 else 2) : ℕ) : ℚ) =
      4 * (m - if m = f.hiddenBit ∧ f.minExponent < e then 1 / 4 else 1 / 2) := by
    split_ifs
    · rw [Nat.cast_sub (by omega)]
      push_cast
      ring
    · rw [Nat.cast_sub (by omega)]
      push_cast
      ring
  have hvalue : ((4 * m : ℕ) : ℚ) = 4 * m := by push_cast; rfl
  have hhigh : ((4 * m + 2 : ℕ) : ℚ) = 4 * (m + 1 / 2) := by
    push_cast
    ring
  unfold roundingInterval
  by_cases hexp : 0 ≤ e - 2
  · have hend {n : ℕ} {q : ℚ} (hn : (n : ℚ) = 4 * q) :
        ((n * Nat.pow 2 (e - 2).toNat : ℕ) : ℚ) / (1 : ℕ) = q * 2 ^ e := by
      have hscale : ((2 ^ (e - 2).toNat : ℕ) : ℚ) = 2 ^ e / 4 := by
        rw [← hquarter, zpow_eq_pow_toNat hexp, Nat.cast_pow, Nat.cast_ofNat]
      rw [Nat.pow_eq, Nat.cast_one, div_one, Nat.cast_mul, hn, hscale]
      ring
    simp only [if_pos hexp]
    exact ⟨one_pos, hend hlow, hend hvalue, hend hhigh, rfl⟩
  · have hend {n : ℕ} {q : ℚ} (hn : (n : ℚ) = 4 * q) :
        (n : ℚ) / (Nat.pow 2 (-(e - 2)).toNat : ℕ) = q * 2 ^ e := by
      have hscale : ((2 ^ (-(e - 2)).toNat : ℕ) : ℚ)⁻¹ = 2 ^ e / 4 := by
        rw [← hquarter, zpow_eq_inv_pow_toNat (by omega), Nat.cast_pow, Nat.cast_ofNat]
      rw [Nat.pow_eq, div_eq_mul_inv, hn, hscale]
      ring
    simp only [if_neg hexp]
    exact ⟨Nat.pow_pos (by decide), hend hlow, hend hvalue, hend hhigh, rfl⟩

/-- What lies in the interval rounds to the number. -/
lemma Surrounds.rounds {i : RoundingInterval} (h : f.Surrounds m e i) (hx : i.Holds x) :
    f.Rounds m e x := by
  have hunit : (0 : ℚ) < 2 ^ e := by positivity
  have hgap : ((m : ℚ) - 1 / 2) * 2 ^ e ≤ i.low / i.denominator := by
    rw [h.low_eq]
    split_ifs
    · nlinarith
    · exact le_rfl
  have hhigh := h.high_eq
  have hbounds : (i.low : ℚ) / i.denominator ≤ x ∧ x ≤ i.high / i.denominator := by
    unfold RoundingInterval.Holds at hx
    split_ifs at hx
    · exact hx
    · exact ⟨hx.1.le, hx.2.le⟩
  refine ⟨hgap.trans hbounds.1, hhigh ▸ hbounds.2, fun hhidden hexp => ?_, fun hodd => ?_⟩
  · have hlow := h.low_eq
    rw [if_pos ⟨hhidden, hexp⟩] at hlow
    exact hlow ▸ hbounds.1
  · have hopen : i.closed = false := by
      rw [h.closed_eq, hodd]
      rfl
    rw [RoundingInterval.Holds, hopen, if_neg Bool.false_ne_true] at hx
    exact ⟨hgap.trans_lt hx.1, hhigh ▸ hx.2⟩

lemma Surrounds.value_pos {i : RoundingInterval} (h : f.Surrounds m e i) (hm : 0 < m) :
    0 < i.value := by
  have hvalue := h.value_eq
  have hm' : (0 : ℚ) < m := by exact_mod_cast hm
  rcases Nat.eq_zero_or_pos i.value with hzero | hpos
  · rw [hzero, Nat.cast_zero, zero_div] at hvalue
    exact absurd hvalue (by positivity)
  · exact hpos

lemma Surrounds.low_le {i : RoundingInterval} (h : f.Surrounds m e i) :
    (i.low : ℚ) / i.denominator ≤ i.value / i.denominator := by
  rw [h.low_eq, h.value_eq]
  gcongr
  split_ifs <;> linarith

/-- As many places behind the leading digit as the significand has bits, a unit is less than half of
the last bit. -/
lemma zpow_place_lt {place : ℤ} (hlt : m < 2 * f.hiddenBit)
    (hplace : (10 : ℚ) ^ place ≤ m * 2 ^ e) :
    (10 : ℚ) ^ (place - (f.fractionBits + 1 : ℕ)) < 1 / 2 * 2 ^ e := by
  have hlt' : (m : ℚ) < 2 ^ (f.fractionBits + 1) := by
    have hpow : 2 * f.hiddenBit = 2 ^ (f.fractionBits + 1) := Nat.pow_succ'.symm
    exact_mod_cast hpow ▸ hlt
  have hten : (2 : ℚ) ^ (f.fractionBits + 2) ≤ 10 ^ (f.fractionBits + 1) := by
    have hfive : (2 : ℚ) ≤ 5 ^ (f.fractionBits + 1) :=
      calc (2 : ℚ) ≤ 5 := by norm_num
        _ ≤ 5 ^ (f.fractionBits + 1) := le_self_pow₀ (by norm_num) (Nat.succ_ne_zero _)
    rw [show (10 : ℚ) = 2 * 5 by norm_num, mul_pow, pow_succ]
    gcongr
  rw [zpow_sub₀ (by norm_num), zpow_natCast, div_lt_iff₀ (by positivity)]
  calc (10 : ℚ) ^ place ≤ m * 2 ^ e := hplace
    _ < 2 ^ (f.fractionBits + 1) * 2 ^ e := by gcongr
    _ = 1 / 2 * 2 ^ e * 2 ^ (f.fractionBits + 2) := by ring
    _ ≤ 1 / 2 * 2 ^ e * 10 ^ (f.fractionBits + 1) := by gcongr

/-- **The shortest digits** of a number round to it. -/
theorem rounds_shortest (tie : TieRule) (hm : 0 < m) (hlt : m < 2 * f.hiddenBit) :
    f.Rounds m e ((f.shortest tie m e).1 * 10 ^ (f.shortest tie m e).2) := by
  have hi := f.surrounds_roundingInterval hm e
  rw [shortest, trimZeros_value]
  generalize f.roundingInterval m e = i at hi ⊢
  have hden := hi.denominator_pos
  refine hi.rounds (RoundingInterval.search_holds hden
    (RoundingInterval.pointAt?_ne_none hden hi.low_le ?_))
  -- The last grid has a unit of less than half a unit of the number.
  have hlead := zpow_leadingPlace_le (hi.value_pos hm) hden
  have hsmall := zpow_place_lt hlt (hi.value_eq ▸ hlead)
  rw [hi.value_eq, hi.high_eq]
  linarith

end BinaryFormat

end TensorBridge
