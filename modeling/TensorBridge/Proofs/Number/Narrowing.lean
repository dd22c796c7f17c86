import TensorBridge.Proofs.Number.Nearest

/-!
# Rounding by way of a wider format

A magnitude that is rounded to a wide format first and to a narrow one then takes the step that it
is rounded to at once, but for one case.  The wide format may round it to a limit between two steps
of the narrow one; from there it goes to the even step, whichever side of the limit it was on
itself.

* `BinaryFormat.Resolves`: the wide format has the limits of the narrow one.
* `BinaryFormat.Misrounds`: the case in which the detour matters.
* `BinaryFormat.Resolves.near_iff`: in that case, and in no other, the step is another one.
* `BinaryFormat.Resolves.detour_ofDecimal`: what becomes of a decimal number.
-/

namespace TensorBridge

namespace BinaryFormat

variable {f g : BinaryFormat} {a b c : ℕ} {v : ℚ}

/-- The wide format has the steps of the narrow one and the limits between them. -/
structure Resolves (f g : BinaryFormat) : Prop where
  /-- The fields of the narrow format are wide enough. -/
  narrow : f.Proper
  /-- So are those of the wide one. -/
  wide : g.Proper
  /-- The fraction of the wide format is wider. -/
  fraction : f.fractionBits < g.fractionBits
  /-- Its exponent is no narrower. -/
  exponent : f.exponentBits ≤ g.exponentBits

/-- The wide format has rounded the magnitude `v` to `u`, which is a limit of the narrow one, and
the magnitude itself lies on the side of the odd step. -/
def Misrounds (f : BinaryFormat) (v u : ℚ) : Prop :=
  ∃ k < f.infinityWord, u = f.middle k ∧ if k % 2 = 0 then u < v else v < u

/-- The word of the narrow format is that of a number which the wide one has rounded first. -/
inductive Detour (f g : BinaryFormat) (x : ℚ) (w : ℕ) : Prop where
  /-- The wide format has a number nearest to `x`, and the word is nearest to that.  It is nearest
  to `x` itself unless `x` is misrounded. -/
  | through {wide : ℕ} {u : ℚ} (hwide : g.Nearest x wide) (hu : (g.decode wide).number? = some u)
      (hnarrow : f.Nearest u w) (hdirect : f.Nearest x w ↔ ¬f.Misrounds |x| |u|)
  /-- The number is beyond the range of the wide format, and so beyond that of the narrow one. -/
  | beyond (hwide : g.overflow ≤ |x|) (hdirect : f.Nearest x w)

/-! ## Limits as numbers of the wide format -/

/-- A limit has one more bit than a step. -/
lemma exists_canonical_middle (hf : f.Proper) (ha : a < f.infinityWord) :
    ∃ m e, Canonical ⟨f.fractionBits + 1, f.exponentBits⟩ m e ∧ (m : ℚ) * 2 ^ e = f.middle a := by
  obtain ⟨n, q, rfl, hn, hq⟩ := f.exists_significand a
  have hfour := hf.four_le
  have hcast : (2 : ℤ) ^ f.exponentBits = ((2 ^ f.exponentBits : ℕ) : ℤ) := by push_cast; rfl
  have hhidden : hiddenBit ⟨f.fractionBits + 1, f.exponentBits⟩ = 2 * f.hiddenBit := Nat.pow_succ'
  have hmin : minExponent ⟨f.fractionBits + 1, f.exponentBits⟩ = f.minExponent - 1 := by
    simp only [minExponent]
    push_cast
    ring
  have hexponent : q + 3 ≤ 2 ^ f.exponentBits := by
    rcases hq with rfl | hle
    · omega
    · have hlt : (q + 1) * f.hiddenBit < (2 ^ f.exponentBits - 1) * f.hiddenBit := by
        rw [infinityWord, Nat.pow_eq] at ha
        rw [Nat.succ_mul]
        omega
      have := Nat.lt_of_mul_lt_mul_right hlt
      omega
  refine ⟨2 * n + 1, f.minExponent + q - 1, ⟨?_, ?_, ?_, fun h => ?_⟩, ?_⟩
  · rw [hhidden]
    omega
  · rw [hmin]
    omega
  · rw [hmin]
    dsimp only
    omega
  · rw [hmin] at h
    rw [hhidden]
    omega
  · rw [middle_add hn hq, zpow_sub_one₀ two_ne_zero]
    push_cast
    ring

/-- From a limit the even step is taken. -/
lemma Near.eq_of_middle (hu : f.Near (f.middle b) a) (hb : b < f.infinityWord) :
    a = b + b % 2 := by
  have hlow : a ≤ b + 1 := by
    by_contra! hlt
    have hmiddle := hu.low (by omega)
    have hstrict := f.middle_strictMono (show b < a - 1 by omega)
    exact hmiddle.not_gt hstrict
  have hhigh : b ≤ a := by
    by_contra! hlt
    exact (hu.high (by omega)).not_gt (f.middle_strictMono hlt)
  rcases hhigh.eq_or_lt with rfl | hlt
  · have heven : b % 2 ≠ 1 := fun hodd => (hu.odd hodd).2.false
    omega
  · obtain rfl : a = b + 1 := by omega
    have hodd : (b + 1) % 2 ≠ 1 := fun hodd => (hu.odd hodd).1.false
    omega

namespace Resolves

variable (h : f.Resolves g)

include h

lemma exists_place_eq_middle (ha : a < f.infinityWord) :
    ∃ c < g.infinityWord, g.place c = f.middle a := by
  obtain ⟨m, e, hcanonical, hmiddle⟩ := exists_canonical_middle h.narrow ha
  obtain ⟨m', e', hwide, hvalue⟩ := hcanonical.exists_of_embeds
    ⟨Nat.le_add_left 1 _, h.narrow.exponent⟩ h.wide ⟨h.fraction, h.exponent⟩
  exact ⟨g.magnitude m' e', hwide.magnitude_lt, by rw [place_magnitude hwide, hvalue, hmiddle]⟩

/-! ## The detour -/

/-- The wide format does not lead over a limit from below. -/
lemma place_le_middle (hv : g.Near v b) (ha : a < f.infinityWord) (hle : v ≤ f.middle a) :
    b < g.infinityWord ∧ g.place b ≤ f.middle a := by
  obtain ⟨c, hc, hplace⟩ := h.exists_place_eq_middle ha
  rw [← hplace] at hle ⊢
  have hstep := hv.le_of_le_place hle
  exact ⟨hstep.trans_lt hc, g.place_strictMono.monotone hstep⟩

/-- Nor from above. -/
lemma middle_le_place (hv : g.Near v b) (ha : a < f.infinityWord) (hle : f.middle a ≤ v) :
    f.middle a ≤ g.place b := by
  obtain ⟨c, hc, hplace⟩ := h.exists_place_eq_middle ha
  rw [← hplace] at hle ⊢
  exact g.place_strictMono.monotone (hv.le_of_place_le hc.le hle)

/-- **The detour.**  A magnitude that the wide format rounds first takes the step that it is rounded
to at once, unless the wide format rounds it to a limit from the side of the odd step. -/
theorem near_iff (hv : g.Near v b) (hu : f.Near (g.place b) a) :
    f.Near v a ↔ ¬f.Misrounds v (g.place b) := by
  have heven := h.narrow.infinityWord_mod
  constructor
  · rintro hnear ⟨k, hk, hlimit, hside⟩
    -- The step taken from the limit is even, and the magnitude is on the other side of the limit.
    rw [hlimit] at hu hside
    obtain rfl := hu.eq_of_middle hk
    split_ifs at hside with hmod
    · rw [hmod, Nat.add_zero] at hnear
      exact (hnear.high hk).not_gt hside
    · rw [Nat.mod_two_ne_zero.1 hmod] at hnear
      exact (hnear.low k.succ_pos).not_gt hside
  · intro hright
    -- Were the magnitude outside the surroundings, the wide format would have put it on their
    -- limit.
    have hlow (hpos : 0 < a) : f.middle (a - 1) ≤ v := by
      by_contra! hlt
      have hk : a - 1 < f.infinityWord := by have := hu.le_infinity; omega
      have hle := (h.place_le_middle hv hk hlt.le).2
      have hlimit := hle.antisymm (hu.low hpos)
      have hodd : a % 2 ≠ 1 := fun hodd => (hu.odd hodd).1.ne' hlimit
      refine hright ⟨a - 1, hk, hlimit, ?_⟩
      rwa [if_neg (by omega), hlimit]
    have hhigh (ha : a < f.infinityWord) : v ≤ f.middle a := by
      by_contra! hlt
      have hle := h.middle_le_place hv ha hlt.le
      have hlimit := (hu.high ha).antisymm hle
      have hodd : a % 2 ≠ 1 := fun hodd => (hu.odd hodd).2.ne hlimit
      refine hright ⟨a, ha, hlimit, ?_⟩
      rwa [if_pos (by omega), hlimit]
    refine ⟨hu.le_infinity, hlow, hhigh, fun hodd => ?_⟩
    -- What an odd step is taken from is no limit, so the magnitude itself is none either.
    have ha : a < f.infinityWord := lt_of_le_of_ne hu.le_infinity (by rintro rfl; omega)
    obtain ⟨hbelow, habove⟩ := hu.odd hodd
    refine ⟨lt_of_not_ge fun hle => ?_, lt_of_not_ge fun hle => ?_⟩
    · exact (h.place_le_middle hv (by omega) hle).2.not_gt hbelow
    · exact (h.middle_le_place hv ha hle).not_gt habove

/-- What leaves the wide format leaves the narrow one as well. -/
lemma near_infinityWord (hv : g.Near v g.infinityWord) : f.Near v f.infinityWord := by
  have heven := h.narrow.infinityWord_mod
  refine ⟨le_rfl, fun hpos => le_of_not_ge fun hle => ?_, fun hlt => absurd hlt (lt_irrefl _),
    fun hodd => by omega⟩
  exact (h.place_le_middle hv (Nat.sub_lt hpos one_pos) hle).1.false

omit h in
/-- Numbers are rounded once more when they are converted. -/
lemma exists_convert_withSign (hf : f.Proper) (negative : Bool) (hb : b < g.infinityWord) :
    ∃ a, g.convert f (g.withSign negative b) = f.withSign negative a ∧ f.Near (g.place b) a := by
  obtain ⟨m, e, hdecode, hplace⟩ := exists_decode negative hb
  refine ⟨f.roundScaledInteger m e, by rw [convert, hdecode, encode], ?_⟩
  rw [← hplace]
  exact near_roundScaledInteger hf m e

/-- **A decimal number by way of the wide format.**  Its sign is kept. -/
theorem detour_ofDecimal (d : Decimal) :
    f.Detour g d.value (g.convert f (g.ofDecimal d)) ∧
      f.isNegative (g.convert f (g.ofDecimal d)) = d.negative := by
  have hwide := nearest_ofDecimal h.wide d
  have hv := near_roundDecimal h.wide d.coefficient d.exponent
  have hx : (0 : ℚ) ≤ d.coefficient * 10 ^ d.exponent := by positivity
  rw [Decimal.value, ofDecimal] at hwide ⊢
  generalize (d.coefficient * 10 ^ d.exponent : ℚ) = x at hwide hv hx
  generalize g.roundDecimal d.coefficient d.exponent = b at hwide hv
  rcases hv.le_infinity.lt_or_eq with hb | rfl
  · obtain ⟨a, hconvert, hu⟩ := exists_convert_withSign h.narrow d.negative hb
    have ha := hu.le_infinity.trans_lt f.infinityWord_lt
    rw [hconvert]
    refine ⟨.through hwide (number?_decode d.negative hb)
      ((nearest_iff_near h.narrow (g.place_nonneg b) ha _).2 hu) ?_, isNegative_withSign _ ha⟩
    rw [nearest_iff_near h.narrow hx ha, abs_signed, abs_signed, abs_of_nonneg hx,
      abs_of_nonneg (g.place_nonneg b)]
    exact h.near_iff hv hu
  · have hconvert : g.convert f (g.withSign d.negative g.infinityWord) =
        f.withSign d.negative f.infinityWord := by
      rw [convert, decode_infinityWord, encode]
    rw [hconvert]
    refine ⟨.beyond ?_ ((nearest_iff_near h.narrow hx f.infinityWord_lt _).2
      (h.near_infinityWord hv)),
      isNegative_withSign _ f.infinityWord_lt⟩
    rw [abs_signed, abs_of_nonneg hx]
    exact hv.low h.wide.infinityWord_pos

end Resolves

end BinaryFormat

end TensorBridge
