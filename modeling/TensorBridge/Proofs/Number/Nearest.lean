import TensorBridge.Proofs.Number.Decimal

/-!
# Nearest numbers of a binary format

The magnitudes of a format, written as words, are the steps of one ladder: each stands for a larger
number than the one before, and the word of infinity stands where the ladder would go on.  A number
is rounded to the step whose surroundings it lies in; the limits between two steps lie halfway, and
belong to the even one.

* `BinaryFormat.place`, `BinaryFormat.middle`: the steps and the limits between them.
* `BinaryFormat.Near`: the step that a magnitude is rounded to.
* `BinaryFormat.near_roundRatio`, `BinaryFormat.near_roundDecimal`,
  `BinaryFormat.near_roundScaledInteger`: rounding finds it, whatever the magnitude.
* `BinaryFormat.Nearest`: the words nearest to a number, told by distances alone.
* `BinaryFormat.nearest_iff_near`: the step is the nearest word.
-/

namespace TensorBridge

/-! ## Distances -/

/-- A magnitude with a sign. -/
def signed (negative : Bool) (y : ℚ) : ℚ := if negative then -y else y

/-- The number that a value is, unless it is infinite or none. -/
def FloatValue.number? : FloatValue → Option ℚ
  | .finite negative significand exponent => some (signed negative (significand * 2 ^ exponent))
  | .infinite _ | .nan _ => none

/-- The number that a decimal number is. -/
def Decimal.value (d : Decimal) : ℚ := signed d.negative (d.coefficient * 10 ^ d.exponent)

section Distances

variable {p q y : ℚ}

@[simp] lemma abs_signed (negative : Bool) (y : ℚ) : |signed negative y| = |y| := by
  cases negative <;> simp [signed]

lemma signed_injective (negative : Bool) : Function.Injective (signed negative) := by
  cases negative
  · exact fun _ _ h => h
  · exact neg_injective

/-- Numbers of one sign lie as far apart as their magnitudes. -/
@[simp] lemma distance_signed (negative : Bool) (p q : ℚ) :
    |signed negative p - signed negative q| = |p - q| := by
  cases negative
  · rfl
  · rw [signed, signed, if_pos rfl, if_pos rfl, neg_sub_neg, abs_sub_comm]

/-- Numbers of different signs lie farther apart. -/
lemma distance_signed_of_ne {negative sign : Bool} (h : sign ≠ negative) (hp : 0 ≤ p) (hq : 0 ≤ q) :
    |signed negative p - signed sign q| = p + q := by
  have hsum : |p + q| = p + q := abs_of_nonneg (by positivity)
  cases negative with
  | false =>
    obtain rfl : sign = true := by simpa using h
    simpa [signed] using hsum
  | true =>
    obtain rfl : sign = false := by simpa using h
    rw [signed, signed, if_pos rfl, if_neg Bool.false_ne_true, ← neg_add', abs_neg, hsum]

/-- A magnitude is no farther away than a number of any sign. -/
lemma distance_le_signed (negative sign : Bool) (hp : 0 ≤ p) (hq : 0 ≤ q) :
    |p - q| ≤ |signed negative p - signed sign q| := by
  rcases eq_or_ne sign negative with rfl | hne
  · rw [distance_signed]
  · rw [distance_signed_of_ne hne hp hq]
    exact abs_le.2 ⟨by linarith, by linarith⟩

/-- Of two numbers the larger one is no farther away. -/
lemma distance_le_iff_of_lt (h : p < q) : |y - q| ≤ |y - p| ↔ (p + q) / 2 ≤ y := by
  have hfactor : (y - p) ^ 2 - (y - q) ^ 2 = (q - p) * (2 * y - (p + q)) := by ring
  rw [← sq_le_sq, ← sub_nonneg, hfactor, mul_nonneg_iff_of_pos_left (sub_pos.2 h)]
  constructor <;> intro hle <;> linarith

/-- Of two numbers the smaller one is no farther away. -/
lemma distance_le_iff_of_gt (h : p < q) : |y - p| ≤ |y - q| ↔ y ≤ (p + q) / 2 := by
  have hfactor : (y - q) ^ 2 - (y - p) ^ 2 = (q - p) * (p + q - 2 * y) := by ring
  rw [← sq_le_sq, ← sub_nonneg, hfactor, mul_nonneg_iff_of_pos_left (sub_pos.2 h)]
  constructor <;> intro hle <;> linarith

end Distances

namespace BinaryFormat

variable {f : BinaryFormat} {a b n q : ℕ} {y : ℚ}

/-! ## Steps -/

/-- The number that a magnitude stands for.  The word of infinity has the number that would follow
the largest one. -/
def place (f : BinaryFormat) (a : ℕ) : ℚ :=
  ((if a / f.hiddenBit = 0 then a % f.hiddenBit else f.hiddenBit + a % f.hiddenBit : ℕ) : ℚ) *
    2 ^ (f.minExponent + (a / f.hiddenBit - 1 : ℕ))

/-- The limit between a magnitude and the next one: halfway. -/
def middle (f : BinaryFormat) (a : ℕ) : ℚ := (f.place a + f.place (a + 1)) / 2

/-- The number of a magnitude that is written as a significand and steps of the exponent. -/
lemma place_add (hn : n ≤ 2 * f.hiddenBit) (hq : q = 0 ∨ f.hiddenBit ≤ n) :
    f.place (n + q * f.hiddenBit) = n * 2 ^ (f.minExponent + q) := by
  have hpos := f.hiddenBit_pos
  rw [place, Nat.add_mul_div_right _ _ hpos, Nat.add_mul_mod_self_right]
  rcases Nat.lt_or_ge n f.hiddenBit with hlt | hge
  · obtain rfl : q = 0 := hq.resolve_right (by omega)
    rw [Nat.div_eq_of_lt hlt, Nat.mod_eq_of_lt hlt]
    simp
  · rcases Nat.eq_or_lt_of_le hn with rfl | hlt
    · have hdiv : 2 * f.hiddenBit / f.hiddenBit = 2 := Nat.mul_div_cancel _ hpos
      rw [hdiv, Nat.mul_mod_left, if_neg (by omega), show 2 + q - 1 = q + 1 by omega]
      push_cast
      rw [← add_assoc, zpow_add_one₀ two_ne_zero]
      ring
    · have hdiv : n / f.hiddenBit = 1 := Nat.div_eq_of_lt_le (by omega) (by omega)
      have hmod : f.hiddenBit + n % f.hiddenBit = n := by
        rw [Nat.mod_eq_sub_mul_div, hdiv]
        omega
      rw [hdiv, if_neg (by omega), hmod, Nat.add_sub_cancel_left]

/-- The number of the word of a pair. -/
lemma place_magnitude {m : ℕ} {e : ℤ} (h : f.Canonical m e) :
    f.place (f.magnitude m e) = m * 2 ^ e := by
  obtain ⟨q, hq⟩ := Int.eq_ofNat_of_zero_le (show 0 ≤ e - f.minExponent by have := h.min_le; omega)
  have hnormal : q = 0 ∨ f.hiddenBit ≤ m :=
    (Nat.eq_zero_or_pos q).imp_right fun hpos => h.normal (by omega)
  obtain rfl : e = f.minExponent + q := by omega
  rw [magnitude, hq, Int.toNat_natCast, place_add h.lt.le hnormal]

/-- Every magnitude is a significand and steps of the exponent. -/
lemma exists_significand (f : BinaryFormat) (a : ℕ) :
    ∃ n q, a = n + q * f.hiddenBit ∧ n < 2 * f.hiddenBit ∧ (q = 0 ∨ f.hiddenBit ≤ n) := by
  have hfields := Nat.div_add_mod' a f.hiddenBit
  have hfraction := Nat.mod_lt a f.hiddenBit_pos
  rcases Nat.eq_zero_or_pos (a / f.hiddenBit) with hzero | hpos
  · rw [hzero] at hfields
    exact ⟨a % f.hiddenBit, 0, by omega, by omega, .inl rfl⟩
  · obtain ⟨q, hq⟩ := Nat.exists_eq_add_of_le' hpos
    rw [hq, Nat.succ_mul] at hfields
    exact ⟨f.hiddenBit + a % f.hiddenBit, q, by omega, by omega, .inr (by omega)⟩

lemma middle_add (hn : n < 2 * f.hiddenBit) (hq : q = 0 ∨ f.hiddenBit ≤ n) :
    f.middle (n + q * f.hiddenBit) = (n + 1 / 2) * 2 ^ (f.minExponent + q) := by
  have hnext : n + q * f.hiddenBit + 1 = (n + 1) + q * f.hiddenBit := by omega
  rw [middle, hnext, place_add hn.le hq, place_add hn (hq.imp_right fun h => by omega)]
  push_cast
  ring

lemma place_lt_middle (f : BinaryFormat) (a : ℕ) : f.place a < f.middle a := by
  obtain ⟨n, q, rfl, hn, hq⟩ := f.exists_significand a
  rw [place_add hn.le hq, middle_add hn hq]
  have hunit : (0 : ℚ) < 2 ^ (f.minExponent + q) := by positivity
  linarith

lemma middle_lt_place (f : BinaryFormat) (a : ℕ) : f.middle a < f.place (a + 1) := by
  have hlt := f.place_lt_middle a
  rw [middle] at hlt ⊢
  linarith

/-- **The ladder.**  Larger magnitudes stand for larger numbers. -/
lemma place_strictMono (f : BinaryFormat) : StrictMono f.place :=
  strictMono_nat_of_lt_succ fun a => (f.place_lt_middle a).trans (f.middle_lt_place a)

lemma middle_strictMono (f : BinaryFormat) : StrictMono f.middle :=
  strictMono_nat_of_lt_succ fun a => (f.middle_lt_place a).trans (f.place_lt_middle (a + 1))

@[simp] lemma place_zero (f : BinaryFormat) : f.place 0 = 0 := by
  simp [place]

lemma place_nonneg (f : BinaryFormat) (a : ℕ) : 0 ≤ f.place a := by
  have hle := f.place_strictMono.monotone (Nat.zero_le a)
  rwa [place_zero] at hle

lemma middle_pos (f : BinaryFormat) (a : ℕ) : 0 < f.middle a :=
  (f.place_nonneg a).trans_lt (f.place_lt_middle a)

/-! ## Surroundings of a step -/

/-- The magnitude is rounded to the step: it lies between the limits of the step, and not on one of
them if the step is odd.  Infinity has no limit above. -/
structure Near (f : BinaryFormat) (y : ℚ) (a : ℕ) : Prop where
  /-- The step is a number or infinity. -/
  le_infinity : a ≤ f.infinityWord
  /-- The magnitude is not below the limits. -/
  low : 0 < a → f.middle (a - 1) ≤ y
  /-- It is not above the limits. -/
  high : a < f.infinityWord → y ≤ f.middle a
  /-- Limits belong to even steps. -/
  odd : a % 2 = 1 → f.middle (a - 1) < y ∧ y < f.middle a

/-- The word of infinity is even. -/
lemma Proper.infinityWord_mod (hf : f.Proper) : f.infinityWord % 2 = 0 := by
  rw [infinityWord, Nat.mul_mod, hf.hiddenBit_mod, Nat.mul_zero]

lemma Proper.infinityWord_pos (hf : f.Proper) : 0 < f.infinityWord := by
  have hfour := hf.four_le
  exact Nat.mul_pos (by rw [Nat.pow_eq]; omega) f.hiddenBit_pos

/-- If steps went on above infinity: what lies in the surroundings of such a step goes to
infinity. -/
lemma near_min (hf : f.Proper) (hlow : 0 < a → f.middle (a - 1) ≤ y) (hhigh : y ≤ f.middle a)
    (hodd : a % 2 = 1 → f.middle (a - 1) < y ∧ y < f.middle a) :
    f.Near y (min a f.infinityWord) := by
  rcases Nat.le_total a f.infinityWord with hle | hge
  · rw [min_eq_left hle]
    exact ⟨hle, hlow, fun _ => hhigh, hodd⟩
  · rw [min_eq_right hge]
    have heven := hf.infinityWord_mod
    refine ⟨le_rfl, fun hpos => ?_, fun h => absurd h (lt_irrefl _), fun h => by omega⟩
    exact (f.middle_strictMono.monotone (Nat.sub_le_sub_right hge 1)).trans (hlow (by omega))

/-! ## Rounding finds the step -/

lemma near_zero (f : BinaryFormat) : f.Near 0 0 :=
  ⟨Nat.zero_le _, fun h => absurd h (lt_irrefl 0), fun _ => (f.middle_pos 0).le, by simp⟩

/-- The limit above a significand, the first one of the next exponent included. -/
lemma le_middle_of_le (hn : n ≤ 2 * f.hiddenBit) (hq : q = 0 ∨ f.hiddenBit ≤ n) :
    (n + 1 / 2) * 2 ^ (f.minExponent + q) ≤ f.middle (n + q * f.hiddenBit) := by
  rcases hn.lt_or_eq with hlt | rfl
  · rw [middle_add hlt hq]
  · have hcarry : 2 * f.hiddenBit + q * f.hiddenBit = f.hiddenBit + (q + 1) * f.hiddenBit := by ring
    have hunit : (0 : ℚ) < 2 ^ (f.minExponent + q) := by positivity
    have hpos := f.hiddenBit_pos
    rw [hcarry, middle_add (by omega) (.inr le_rfl), Nat.cast_succ, ← add_assoc,
      zpow_add_one₀ two_ne_zero]
    push_cast
    linarith

/-- The limit below a significand.  Below the least normal one of an exponent the unit is
smaller. -/
lemma middle_pred (hpos : 0 < n + q * f.hiddenBit) (hn : n ≤ 2 * f.hiddenBit)
    (hq : q = 0 ∨ f.hiddenBit ≤ n) :
    f.middle (n + q * f.hiddenBit - 1) = (n - 1 / 2) * 2 ^ (f.minExponent + q) ∨
      n = f.hiddenBit ∧ 0 < q ∧
        f.middle (n + q * f.hiddenBit - 1) ≤ n * 2 ^ (f.minExponent + q) := by
  have hhidden := f.hiddenBit_pos
  by_cases hleast : n = f.hiddenBit ∧ 0 < q
  · obtain ⟨rfl, hq'⟩ := hleast
    refine .inr ⟨rfl, hq', ?_⟩
    have hlt := f.place_lt_middle (f.hiddenBit + q * f.hiddenBit - 1)
    have hle := f.middle_lt_place (f.hiddenBit + q * f.hiddenBit - 1)
    rw [Nat.sub_add_cancel hpos, place_add (by omega) hq] at hle
    exact hle.le
  · left
    obtain ⟨k, rfl⟩ : ∃ k, n = k + 1 := by
      refine Nat.exists_eq_succ_of_ne_zero fun hzero => ?_
      obtain rfl : q = 0 := hq.resolve_right (by omega)
      omega
    have hsub : k + 1 + q * f.hiddenBit - 1 = k + q * f.hiddenBit := by omega
    rw [hsub, middle_add (by omega) (by omega)]
    push_cast
    ring

/-- A significand that is rounded at an exponent where it has the right size. -/
lemma near_of_nearestEven (hf : f.Proper)
    (hlow : q = 0 ∨ f.hiddenBit * 2 ^ (f.minExponent + q) ≤ y)
    (hhigh : y < 2 * f.hiddenBit * 2 ^ (f.minExponent + q))
    (hround : NearestEven (y / 2 ^ (f.minExponent + q)) n) :
    f.Near y (min (n + q * f.hiddenBit) f.infinityWord) := by
  have heven := hf.hiddenBit_mod
  have hunit : (0 : ℚ) < 2 ^ (f.minExponent + q) := by positivity
  have hbelow := (le_div_iff₀ hunit).1 hround.low
  have habove := (div_le_iff₀ hunit).1 hround.high
  -- The magnitude lies between integers, so the significand it is rounded to does as well.
  have hn : n ≤ 2 * f.hiddenBit := by
    have hlt := lt_of_mul_lt_mul_right (hbelow.trans_lt hhigh) hunit.le
    have hlt' : (n : ℚ) < (2 * f.hiddenBit + 1 : ℕ) := by
      push_cast
      linarith
    exact Nat.lt_succ_iff.1 (by exact_mod_cast hlt')
  have hq : q = 0 ∨ f.hiddenBit ≤ n := by
    refine hlow.imp_right fun hle => ?_
    have hle' := le_of_mul_le_mul_right (hle.trans habove) hunit
    have hlt : (f.hiddenBit : ℚ) < (n + 1 : ℕ) := by
      push_cast
      linarith
    exact Nat.lt_succ_iff.1 (by exact_mod_cast hlt)
  have hparity : (n + q * f.hiddenBit) % 2 = n % 2 := by
    rw [Nat.add_mod, Nat.mul_mod, heven, Nat.mul_zero, Nat.zero_mod, Nat.add_zero, Nat.mod_mod]
  have hlimit := le_middle_of_le hn hq
  refine near_min hf (fun hpos => ?_) (habove.trans hlimit) fun hodd => ?_
  · rcases middle_pred hpos hn hq with heq | ⟨rfl, hq', hle⟩
    · rwa [heq]
    · exact hle.trans (hlow.resolve_left hq'.ne')
  · rw [hparity] at hodd
    obtain ⟨hbelow', habove'⟩ := hround.odd hodd
    refine ⟨?_, ((div_lt_iff₀ hunit).1 habove').trans_le hlimit⟩
    rcases middle_pred (by omega) hn hq with heq | ⟨rfl, -, -⟩
    · rw [heq]
      exact (lt_div_iff₀ hunit).1 hbelow'
    -- The least normal significand is even.
    · omega

/-- Every magnitude has a natural number that is nearest to it. -/
lemma exists_nearestEven (hy : 0 ≤ y) : ∃ n, NearestEven y n := by
  have hfloor := Nat.floor_le hy
  have hlt := Nat.lt_floor_add_one y
  rcases lt_trichotomy y (⌊y⌋₊ + 1 / 2) with hbelow | htie | habove
  · exact ⟨⌊y⌋₊, by linarith, hbelow.le, fun _ => ⟨by linarith, hbelow⟩⟩
  · rcases Nat.mod_two_eq_zero_or_one ⌊y⌋₊ with heven | hodd
    · exact ⟨⌊y⌋₊, by linarith, htie.le, fun h => by omega⟩
    · refine ⟨⌊y⌋₊ + 1, ?_, ?_, fun h => by omega⟩ <;> push_cast <;> linarith
  · refine ⟨⌊y⌋₊ + 1, ?_, ?_, fun _ => ⟨?_, ?_⟩⟩ <;> push_cast <;> linarith

/-- **Rounding a quotient** finds the step, whatever the quotient. -/
theorem near_roundRatio (hf : f.Proper) (num : ℕ) {den : ℕ} (hden : 0 < den) :
    f.Near (num / den) (f.roundRatio num den) := by
  rcases Nat.eq_zero_or_pos num with rfl | hnum
  · simpa [roundRatio] using f.near_zero
  obtain ⟨hlow, hhigh⟩ := logRatio_spec hnum hden
  obtain ⟨q, hq⟩ := Int.eq_ofNat_of_zero_le
    (show 0 ≤ max (logRatio num den - f.fractionBits) f.minExponent - f.minExponent by omega)
  have hexp : max (logRatio num den - f.fractionBits) f.minExponent = f.minExponent + q := by omega
  obtain ⟨n, hround⟩ : ∃ n, NearestEven (num / den / 2 ^ (f.minExponent + q)) n :=
    exists_nearestEven (by positivity)
  rw [roundRatio, if_neg hnum.ne']
  dsimp only
  rw [hexp, roundScaled_eq hden hround, add_sub_cancel_left, Int.toNat_natCast]
  refine near_of_nearestEven hf ?_ ?_ hround
  · rcases Nat.eq_zero_or_pos q with hzero | hpos
    · exact .inl hzero
    · right
      rw [hiddenBit_cast, ← zpow_add₀ two_ne_zero]
      exact (zpow_le_zpow_right₀ one_le_two (by omega)).trans hlow
  · rw [hiddenBit_cast, ← zpow_one_add₀ two_ne_zero, ← zpow_add₀ two_ne_zero]
    exact hhigh.trans_le (zpow_le_zpow_right₀ one_le_two (by omega))

/-- An integer times a power of two. -/
lemma near_roundScaledInteger (hf : f.Proper) (n : ℕ) (e : ℤ) :
    f.Near (n * 2 ^ e) (f.roundScaledInteger n e) := by
  unfold roundScaledInteger
  split_ifs with he
  · have hnear := near_roundRatio hf (n * Nat.pow 2 e.toNat) one_pos
    rw [Nat.cast_one, div_one] at hnear
    rw [zpow_eq_pow_toNat he]
    exact_mod_cast hnear
  · have hpos : 0 < Nat.pow 2 (-e).toNat := Nat.pow_pos (by decide)
    have hnear := near_roundRatio hf n hpos
    rw [zpow_eq_inv_pow_toNat (by omega), ← div_eq_mul_inv]
    exact_mod_cast hnear

/-- The word of infinity has the place of a power of two. -/
lemma place_infinityWord (hf : f.Proper) :
    f.place f.infinityWord = 2 ^ ((2 ^ (f.exponentBits - 1) : ℕ) : ℤ) := by
  have hcast : (2 : ℤ) ^ f.exponentBits = ((2 ^ f.exponentBits : ℕ) : ℤ) := by push_cast; rfl
  have hmax := minExponent_eq hf
  obtain ⟨q, hq⟩ := Nat.exists_eq_add_of_le' hf.four_le
  have hword : f.infinityWord = f.hiddenBit + (q + 2) * f.hiddenBit := by
    rw [infinityWord, Nat.pow_eq, hq, show q + 4 - 1 = q + 2 + 1 by omega]
    ring
  rw [hword, place_add (by omega) (.inr le_rfl), hiddenBit_cast, ← zpow_add₀ two_ne_zero]
  congr 1
  omega

/-- **A decimal number** is rounded to its step: too many or too few digits lead out of the
format. -/
theorem near_roundDecimal (hf : f.Proper) (c : ℕ) (k : ℤ) :
    f.Near (c * 10 ^ k) (f.roundDecimal c k) := by
  rcases Nat.eq_zero_or_pos c with rfl | hc
  · simpa [roundDecimal] using f.near_zero
  unfold roundDecimal
  dsimp only
  rw [if_neg hc.ne', Nat.pow_eq, Nat.pow_eq, Nat.pow_eq]
  split_ifs with hlarge hsmall hk
  -- There are too many digits: the number is beyond the place of infinity.
  · have hle : f.place f.infinityWord ≤ c * 10 ^ k := by
      rw [place_infinityWord hf]
      exact zpow_le_of_lt_top hc hlarge
    refine ⟨le_rfl, fun hpos => ?_, fun h => absurd h (lt_irrefl _), fun hodd => ?_⟩
    · have hlt := f.middle_lt_place (f.infinityWord - 1)
      rw [Nat.sub_add_cancel hpos] at hlt
      exact hlt.le.trans hle
    · rw [hf.infinityWord_mod] at hodd
      cases hodd
  -- There are too few: the number is below half of the least one.
  · have hneg := hf.minExponent_nonpos
    have hmiddle : f.middle 0 = 2 ^ (f.minExponent - 1) := by
      have hfirst :=
        middle_add (f := f) (n := 0) (q := 0) (by have := f.hiddenBit_pos; omega) (.inl rfl)
      rw [Nat.zero_mul, Nat.add_zero] at hfirst
      rw [hfirst, zpow_sub_one₀ two_ne_zero]
      simp [mul_comm]
    refine ⟨Nat.zero_le _, fun h => absurd h (lt_irrefl 0), fun _ => ?_, by simp⟩
    rw [hmiddle]
    exact (lt_zpow_of_top_le hc (by omega) (by omega)).le
  · have hnear := near_roundRatio hf (c * 10 ^ k.toNat) one_pos
    rw [Nat.cast_one, div_one] at hnear
    rw [zpow_eq_pow_toNat hk]
    exact_mod_cast hnear
  · have hpos : 0 < 10 ^ (-k).toNat := Nat.pow_pos (by decide)
    have hnear := near_roundRatio hf c hpos
    rw [zpow_eq_inv_pow_toNat (by omega), ← div_eq_mul_inv]
    exact_mod_cast hnear

/-! ## Nearest words -/

/-- From here on magnitudes are rounded to infinity: halfway between the largest number of the
format and the one that would follow it. -/
def overflow (f : BinaryFormat) : ℚ := f.middle (f.infinityWord - 1)

/-- The word is nearest to a number, and even if another number of the format is as near.  Numbers
beyond the range go to infinity. -/
inductive Nearest (f : BinaryFormat) (x : ℚ) (w : ℕ) : Prop where
  /-- The word stands for a number, and none of the format is nearer. -/
  | finite {y : ℚ} (hrange : |x| < f.overflow) (hw : (f.decode w).number? = some y)
      (hclosest : ∀ v < 2 * f.signWeight, ∀ z, (f.decode v).number? = some z → |x - y| ≤ |x - z|)
      (heven : ∀ v < 2 * f.signWeight, ∀ z, (f.decode v).number? = some z → z ≠ y →
        |x - z| = |x - y| → w % 2 = 0)
  /-- The number is beyond the range. -/
  | infinite (hrange : f.overflow ≤ |x|) (hw : f.decode w = .infinite (decide (x < 0)))

/-- What a magnitude below infinity stands for. -/
lemma exists_decode (negative : Bool) (ha : a < f.infinityWord) :
    ∃ (m : ℕ) (e : ℤ), f.decode (f.withSign negative a) = .finite negative m e ∧
      (m : ℚ) * 2 ^ e = f.place a := by
  have hfield : a / f.hiddenBit < 2 ^ f.exponentBits - 1 := Nat.div_lt_of_lt_mul (by
    rw [Nat.mul_comm]
    exact ha)
  rw [decode_withSign negative (ha.trans f.infinityWord_lt), if_neg hfield.ne, place]
  split_ifs with hzero
  · exact ⟨_, _, rfl, by simp [hzero]⟩
  · exact ⟨_, _, rfl, rfl⟩

lemma number?_decode (negative : Bool) (ha : a < f.infinityWord) :
    (f.decode (f.withSign negative a)).number? = some (signed negative (f.place a)) := by
  obtain ⟨m, e, hdecode, hplace⟩ := exists_decode negative ha
  rw [hdecode, FloatValue.number?, hplace]

/-- Only the words below that of infinity stand for numbers. -/
lemma lt_infinityWord_of_number? {negative : Bool} (ha : a < f.signWeight) {z : ℚ}
    (h : (f.decode (f.withSign negative a)).number? = some z) : a < f.infinityWord := by
  by_contra! hge
  have hfield : a / f.hiddenBit = 2 ^ f.exponentBits - 1 := by
    rw [signWeight_eq] at ha
    refine Nat.div_eq_of_lt_le hge ?_
    rwa [Nat.sub_add_cancel (Nat.two_pow_pos _)]
  rw [decode_withSign negative ha, if_pos hfield] at h
  split_ifs at h <;> cases h

lemma eq_infinityWord_of_decode {negative sign : Bool} (ha : a < f.signWeight)
    (h : f.decode (f.withSign negative a) = .infinite sign) : a = f.infinityWord := by
  have hfields := Nat.div_add_mod' a f.hiddenBit
  rw [decode_withSign negative ha] at h
  split_ifs at h with hspecial hzero
  rw [hspecial, hzero] at hfields
  exact hfields.symm

lemma withSign_lt (negative : Bool) (ha : a < f.signWeight) :
    f.withSign negative a < 2 * f.signWeight := by
  unfold withSign
  split_ifs <;> omega

/-- The sign bit is not the last one. -/
lemma withSign_mod (hf : f.Proper) (negative : Bool) (a : ℕ) :
    f.withSign negative a % 2 = a % 2 := by
  have heven : f.signWeight % 2 = 0 := by
    rw [signWeight_eq, Nat.mul_mod, hf.hiddenBit_mod, Nat.mul_zero]
  unfold withSign
  split_ifs <;> omega

lemma middle_sub_one (f : BinaryFormat) (ha : 0 < a) :
    f.middle (a - 1) = (f.place (a - 1) + f.place a) / 2 := by
  rw [middle, Nat.sub_add_cancel ha]

namespace Near

variable (h : f.Near y a)

include h

/-- Rounding does not lead over a step from below. -/
lemma le_of_le_place {c : ℕ} (hc : y ≤ f.place c) : a ≤ c := by
  by_contra! hlt
  have hplace := f.place_strictMono.monotone (Nat.le_sub_one_of_lt hlt)
  exact (hc.trans hplace).not_gt ((f.place_lt_middle (a - 1)).trans_le (h.low (by omega)))

/-- Nor from above. -/
lemma le_of_place_le {c : ℕ} (hinfinity : c ≤ f.infinityWord) (hc : f.place c ≤ y) : c ≤ a := by
  by_contra! hlt
  have hplace := f.place_strictMono.monotone (Nat.succ_le_of_lt hlt)
  exact (hplace.trans hc).not_gt ((h.high (by omega)).trans_lt (f.middle_lt_place a))

/-- No step is nearer. -/
lemma distance_le (ha : a < f.infinityWord) (b : ℕ) : |y - f.place a| ≤ |y - f.place b| := by
  rcases lt_trichotomy b a with hlt | rfl | hgt
  · have hlow := h.low (by omega)
    have hplace := f.place_strictMono.monotone (Nat.le_sub_one_of_lt hlt)
    rw [f.middle_sub_one (by omega)] at hlow
    exact (distance_le_iff_of_lt (f.place_strictMono hlt)).2 (by linarith)
  · exact le_rfl
  · have hhigh := h.high ha
    have hplace := f.place_strictMono.monotone (Nat.succ_le_of_lt hgt)
    rw [middle, ← Nat.succ_eq_add_one] at hhigh
    exact (distance_le_iff_of_gt (f.place_strictMono hgt)).2 (by linarith)

/-- No other step is as near as an odd one. -/
lemma distance_lt (hodd : a % 2 = 1) {b : ℕ} (hb : b ≠ a) : |y - f.place a| < |y - f.place b| := by
  obtain ⟨hlow, hhigh⟩ := h.odd hodd
  rw [f.middle_sub_one (by omega)] at hlow
  rw [middle, ← Nat.succ_eq_add_one] at hhigh
  rcases Nat.lt_or_gt_of_ne hb with hlt | hgt
  · have hplace := f.place_strictMono.monotone (Nat.le_sub_one_of_lt hlt)
    rw [← not_le, distance_le_iff_of_gt (f.place_strictMono hlt)]
    linarith
  · have hplace := f.place_strictMono.monotone (Nat.succ_le_of_lt hgt)
    rw [← not_le, distance_le_iff_of_lt (f.place_strictMono hgt)]
    linarith

/-- No other number, of whatever sign, is as near as an odd step. -/
lemma distance_lt_signed (hodd : a % 2 = 1) {negative sign : Bool} {b : ℕ}
    (hne : signed sign (f.place b) ≠ signed negative (f.place a)) :
    |y - f.place a| < |signed negative y - signed sign (f.place b)| := by
  rcases eq_or_ne sign negative with rfl | hsign
  · rw [distance_signed]
    exact h.distance_lt hodd fun heq => hne (by rw [heq])
  · have hlow := (h.odd hodd).1
    have hbelow := f.place_nonneg (a - 1)
    have hplace := f.place_nonneg b
    have hy := (f.middle_pos (a - 1)).trans hlow
    have hpos := f.place_strictMono (show 0 < a by omega)
    rw [f.middle_sub_one (by omega)] at hlow
    rw [place_zero] at hpos
    rw [distance_signed_of_ne hsign hy.le hplace]
    exact abs_lt.2 ⟨by linarith, by linarith⟩

/-- What goes to a number is within the range. -/
lemma lt_overflow (hf : f.Proper) (ha : a < f.infinityWord) : y < f.overflow := by
  have heven := hf.infinityWord_mod
  rcases (Nat.le_sub_one_of_lt ha).lt_or_eq with hlt | rfl
  · exact (h.high ha).trans_lt (f.middle_strictMono hlt)
  · exact (h.odd (by omega)).2

end Near

/-- A step that no other is nearer than, and that is even if another is as near. -/
lemma near_of_distance_le (ha : a < f.infinityWord) (hrange : y < f.overflow)
    (hclosest : ∀ b < f.infinityWord, |y - f.place a| ≤ |y - f.place b|)
    (heven : ∀ b < f.infinityWord, b ≠ a → |y - f.place b| = |y - f.place a| → a % 2 = 0) :
    f.Near y a := by
  have hlow (hpos : 0 < a) : f.middle (a - 1) ≤ y := by
    have hstep := f.place_strictMono (Nat.sub_lt hpos one_pos)
    rw [f.middle_sub_one hpos]
    exact (distance_le_iff_of_lt hstep).1 (hclosest (a - 1) (by omega))
  -- Above the last number there is none to compare with; there the range is the limit.
  have hhigh : y ≤ f.middle a := by
    rcases Nat.lt_or_ge (a + 1) f.infinityWord with hlt | hge
    · exact (distance_le_iff_of_gt (f.place_strictMono a.lt_add_one)).1 (hclosest (a + 1) hlt)
    · obtain rfl : a = f.infinityWord - 1 := by omega
      exact hrange.le
  -- On a limit the two steps beside it are equally near, so an odd one is not chosen.
  refine ⟨ha.le, hlow, fun _ => hhigh, fun hodd => ⟨(hlow (by omega)).lt_of_ne fun heq => ?_,
    hhigh.lt_of_ne fun heq => ?_⟩⟩
  · have hstep := f.place_strictMono (Nat.sub_lt (show 0 < a by omega) one_pos)
    rw [f.middle_sub_one (by omega)] at heq
    have htie := (distance_le_iff_of_gt hstep).2 heq.ge
    have hmod := heven (a - 1) (by omega) (by omega) (htie.antisymm (hclosest (a - 1) (by omega)))
    omega
  · have hnext : a + 1 < f.infinityWord := by
      by_contra! hge
      obtain rfl : a = f.infinityWord - 1 := by omega
      exact hrange.ne heq
    have htie := (distance_le_iff_of_lt (f.place_strictMono a.lt_add_one)).2 heq.ge
    have hmod := heven (a + 1) hnext (by omega) (htie.antisymm (hclosest (a + 1) hnext))
    omega

/-- **The step is the nearest word.** -/
theorem nearest_iff_near (hf : f.Proper) (hy : 0 ≤ y) (ha : a < f.signWeight) (negative : Bool) :
    f.Nearest (signed negative y) (f.withSign negative a) ↔ f.Near y a := by
  have habs : |signed negative y| = y := by rw [abs_signed, abs_of_nonneg hy]
  have hlt {b : ℕ} (hb : b < f.infinityWord) : f.withSign negative b < 2 * f.signWeight :=
    withSign_lt negative (hb.trans f.infinityWord_lt)
  constructor
  · rintro (⟨hrange, hw, hclosest, heven⟩ | ⟨hrange, hw⟩)
    · have ha' := lt_infinityWord_of_number? ha hw
      rw [number?_decode negative ha'] at hw
      cases hw
      rw [habs] at hrange
      -- It is enough to compare with the words of the same sign.
      refine near_of_distance_le ha' hrange (fun b hb => ?_) fun b hb hne hdistance => ?_
      · simpa using hclosest _ (hlt hb) _ (number?_decode negative hb)
      · rw [← withSign_mod hf negative a]
        refine heven _ (hlt hb) _ (number?_decode negative hb) (fun heq => hne ?_) (by simpa)
        exact f.place_strictMono.injective (signed_injective negative heq)
    · obtain rfl := eq_infinityWord_of_decode ha hw
      rw [habs] at hrange
      exact ⟨le_rfl, fun _ => hrange, fun h => absurd h (lt_irrefl _), fun hodd => by
        rw [hf.infinityWord_mod] at hodd
        cases hodd⟩
  · intro h
    rcases h.le_infinity.lt_or_eq with ha' | rfl
    · refine .finite (by rw [habs]; exact h.lt_overflow hf ha') (number?_decode negative ha')
        (fun v hv z hz => ?_) fun v hv z hz hne hdistance => ?_
      · obtain ⟨sign, b, hb, rfl⟩ := exists_withSign hv
        rw [number?_decode sign (lt_infinityWord_of_number? hb hz)] at hz
        cases hz
        rw [distance_signed]
        exact (h.distance_le ha' b).trans (distance_le_signed negative sign hy (f.place_nonneg b))
      · obtain ⟨sign, b, hb, rfl⟩ := exists_withSign hv
        rw [number?_decode sign (lt_infinityWord_of_number? hb hz)] at hz
        cases hz
        rw [withSign_mod hf]
        by_contra hodd
        rw [distance_signed] at hdistance
        exact (h.distance_lt_signed (by omega) hne).ne' hdistance
    · have hrange := h.low hf.infinityWord_pos
      have hpos : 0 < y := (f.middle_pos _).trans_le hrange
      refine .infinite (by rwa [habs]) ?_
      rw [decode_infinityWord]
      cases negative <;> simp [signed, hpos, hy]

/-- The word of a decimal number is the nearest one. -/
lemma nearest_ofDecimal (hf : f.Proper) (d : Decimal) : f.Nearest d.value (f.ofDecimal d) := by
  have hnear := near_roundDecimal hf d.coefficient d.exponent
  exact (nearest_iff_near hf (by positivity)
    (hnear.le_infinity.trans_lt f.infinityWord_lt) _).2 hnear

end BinaryFormat

end TensorBridge
