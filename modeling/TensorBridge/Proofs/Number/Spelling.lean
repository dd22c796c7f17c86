import TensorBridge.Proofs.Number.Narrowing
import TensorBridge.Proofs.Number.Numeral

/-!
# Floating point numbers as text

Which word of a format a text stands for, and which word of another format stands for the same, told
by distances and apart from how texts are read and numbers are rounded.

* `BinaryFormat.Spells`: the words that texts stand for.
* `BinaryFormat.Recasts`: the words of one format for those of another.
* `BinaryFormat.spells_iff`, `BinaryFormat.recasts_iff`: reading, rounding and converting find just
  these words.
-/

namespace TensorBridge

namespace BinaryFormat

variable {f g : BinaryFormat} {negative : Bool} {x y : ℚ} {a b v w : ℕ}

/-! ## The word of a number -/

/-- The word has a sign and is nearest to a number.  The sign matters for zero, which has two
words. -/
structure Closest (f : BinaryFormat) (negative : Bool) (x : ℚ) (w : ℕ) : Prop where
  /-- It is a word of the format. -/
  lt : w < 2 * f.signWeight
  /-- It has the sign. -/
  sign : f.isNegative w = negative
  /-- No other number of the format is nearer. -/
  nearest : f.Nearest x w

/-- A magnitude is rounded to one step only. -/
lemma Near.unique (ha : f.Near y a) (hb : f.Near y b) : a = b := by
  -- Of two steps the lower one would end where the upper one begins, and one of them is odd.
  have hle {a b : ℕ} (ha : f.Near y a) (hb : f.Near y b) : b ≤ a := by
    by_contra! hlt
    have hinfinity : a < f.infinityWord := hlt.trans_le hb.le_infinity
    have hlow := hb.low (by omega)
    have hhigh := ha.high hinfinity
    have hmiddle := f.middle_strictMono.monotone (show a ≤ b - 1 by omega)
    have hnext : b - 1 = a := f.middle_strictMono.injective (le_antisymm (hlow.trans hhigh) hmiddle)
    rw [hnext] at hlow
    rcases Nat.mod_two_eq_zero_or_one a with heven | hodd
    · have hstrict := (hb.odd (by omega)).1
      rw [hnext] at hstrict
      exact hhigh.not_gt hstrict
    · exact hlow.not_gt (ha.odd hodd).2
  exact le_antisymm (hle hb ha) (hle ha hb)

/-- The word of a magnitude with a sign. -/
lemma closest_iff (hf : f.Proper) (hy : 0 ≤ y) (ha : f.Near y a) :
    f.Closest negative (signed negative y) w ↔ w = f.withSign negative a := by
  have hlt : a < f.signWeight := ha.le_infinity.trans_lt f.infinityWord_lt
  constructor
  · rintro ⟨hw, hsign, hnearest⟩
    obtain ⟨sign, b, hb, rfl⟩ := exists_withSign hw
    rw [isNegative_withSign _ hb] at hsign
    subst hsign
    rw [((nearest_iff_near hf hy hb _).1 hnearest).unique ha]
  · rintro rfl
    exact ⟨withSign_lt negative hlt, isNegative_withSign _ hlt, (nearest_iff_near hf hy hlt _).2 ha⟩

/-! ## Words of another format -/

/-- A word of the format `f` stands for what a word of the format `g` stands for, or comes nearest
to it. -/
inductive Recasts (g f : BinaryFormat) (v w : ℕ) : Prop where
  /-- The word stands for a number, whose sign is kept. -/
  | number {x : ℚ} (hv : (g.decode v).number? = some x) (hw : f.Closest (g.isNegative v) x w)
  /-- It stands for an infinity. -/
  | infinite {negative : Bool} (hv : g.decode v = .infinite negative)
      (hw : w = f.withSign negative f.infinityWord)
  /-- It stands for no number. -/
  | nan {negative : Bool} (hv : g.decode v = .nan negative)
      (hw : w = f.withSign negative (f.infinityWord + f.hiddenBit / 2))

/-- A step is rounded to itself. -/
lemma near_place (ha : a < f.infinityWord) : f.Near (f.place a) a := by
  have hlow (hpos : 0 < a) : f.middle (a - 1) < f.place a := by
    have hlt := f.middle_lt_place (a - 1)
    rwa [Nat.sub_add_cancel hpos] at hlt
  have hhigh := f.place_lt_middle a
  exact ⟨ha.le, fun hpos => (hlow hpos).le, fun _ => hhigh.le,
    fun hodd => ⟨hlow (by omega), hhigh⟩⟩

lemma isNegative_of_decode {m : ℕ} {e : ℤ} (h : g.decode v = .finite negative m e) :
    g.isNegative v = negative := by
  simp only [decode] at h
  split_ifs at h <;>
  · cases h
    rfl

/-- What stands for a number is recast as the nearest one. -/
lemma recasts_iff_of_number (hx : (g.decode v).number? = some x) :
    g.Recasts f v w ↔ f.Closest (g.isNegative v) x w := by
  constructor
  · rintro (⟨hv, hw⟩ | ⟨hv, -⟩ | ⟨hv, -⟩)
    · cases hx.symm.trans hv
      exact hw
    · rw [hv] at hx
      cases hx
    · rw [hv] at hx
      cases hx
  · exact fun hw => .number hx hw

lemma recasts_iff_of_infinite (hinfinite : g.decode v = .infinite negative) :
    g.Recasts f v w ↔ w = f.withSign negative f.infinityWord := by
  constructor
  · rintro (⟨hv, -⟩ | ⟨hv, hw⟩ | ⟨hv, -⟩)
    · rw [hinfinite] at hv
      cases hv
    · cases hinfinite.symm.trans hv
      exact hw
    · cases hinfinite.symm.trans hv
  · exact fun hw => .infinite hinfinite hw

lemma recasts_iff_of_nan (hnan : g.decode v = .nan negative) :
    g.Recasts f v w ↔ w = f.withSign negative (f.infinityWord + f.hiddenBit / 2) := by
  constructor
  · rintro (⟨hv, -⟩ | ⟨hv, -⟩ | ⟨hv, hw⟩)
    · rw [hnan] at hv
      cases hv
    · cases hnan.symm.trans hv
    · cases hnan.symm.trans hv
      exact hw
  · exact fun hw => .nan hnan hw

/-- **Converting** a word finds the one that stands for the same. -/
theorem recasts_iff (hf : f.Proper) : g.Recasts f v w ↔ w = g.convert f v := by
  rcases hv : g.decode v with ⟨negative, m, e⟩ | negative | negative
  · have hnumber : (g.decode v).number? = some (signed negative (m * 2 ^ e)) := by
      rw [hv, FloatValue.number?]
    rw [recasts_iff_of_number hnumber, isNegative_of_decode hv, convert, hv, encode]
    exact closest_iff hf (by positivity) (near_roundScaledInteger hf m e)
  · rw [recasts_iff_of_infinite hv, convert, hv, encode]
  · rw [recasts_iff_of_nan hv, convert, hv, encode, quietNaN]

/-! ## Texts -/

/-- The text stands for a word of the format. -/
inductive Spells (f : BinaryFormat) : List Char → ℕ → Prop where
  /-- A numeral stands for the nearest number; the sign in front is kept. -/
  | numeral {text : List Char} {d : Decimal} {w : ℕ} (htext : Numeral text d)
      (hw : f.Closest d.negative d.value w) : Spells f text w
  /-- Infinity has a name and a short one, in any case. -/
  | infinity {sign name : List Char} {negative : Bool} (hsign : SignText sign negative)
      (hname : name.map Char.toLower = "inf".toList ∨ name.map Char.toLower = "infinity".toList) :
    Spells f (sign ++ name) (f.withSign negative f.infinityWord)
  /-- What is no number has a name, in any case. -/
  | nan {sign name : List Char} {negative : Bool} (hsign : SignText sign negative)
      (hname : name.map Char.toLower = "nan".toList) :
    Spells f (sign ++ name) (f.withSign negative (f.infinityWord + f.hiddenBit / 2))

end BinaryFormat

section Names

variable {text sign name : List Char} {negative minus : Bool}

lemma readWord?_eq_infinity_iff :
    FloatText.readWord? negative name = some (.infinity minus) ↔ minus = negative ∧
      (name.map Char.toLower = "inf".toList ∨ name.map Char.toLower = "infinity".toList) := by
  constructor
  · intro h
    unfold FloatText.readWord? at h
    dsimp only at h
    split_ifs at h with hname hnan
    · cases h
      exact ⟨rfl, hname⟩
    · cases h
  · rintro ⟨rfl, hname⟩
    exact if_pos hname

lemma readWord?_eq_nan_iff :
    FloatText.readWord? negative name = some (.nan minus) ↔
      minus = negative ∧ name.map Char.toLower = "nan".toList := by
  constructor
  · intro h
    unfold FloatText.readWord? at h
    dsimp only at h
    split_ifs at h with hinfinity hname
    · cases h
    · cases h
      exact ⟨rfl, hname⟩
  · rintro ⟨rfl, hname⟩
    rw [FloatText.readWord?, hname]
    rfl

/-- The text begins with a letter that begins a name. -/
def BeginsName (text : List Char) : Prop :=
  ∃ c rest, text = c :: rest ∧ (c.toLower = 'i' ∨ c.toLower = 'n')

lemma beginsName_of_map_eq {c : Char} {rest : List Char} (hc : c = 'i' ∨ c = 'n')
    (h : name.map Char.toLower = c :: rest) : BeginsName name := by
  obtain ⟨first, others, rfl, rfl, -⟩ := List.map_eq_cons_iff.1 h
  exact ⟨first, others, rfl, hc⟩

lemma toLower_of_isDigit {c : Char} (h : c.isDigit = true) : c.toLower = c := by
  simp only [Char.isDigit, Bool.and_eq_true, decide_eq_true_eq] at h
  have hupper : ¬(c.val ≥ 'A'.val ∧ c.val ≤ 'Z'.val) := by
    rintro ⟨hge, -⟩
    exact absurd (UInt32.le_trans hge h.2) (by decide)
  rw [Char.toLower, dif_neg hupper]

/-- A name is no decimal number and has no sign. -/
lemma BeginsName.read?_eq (h : BeginsName name) (hsign : SignText sign negative) :
    FloatText.read? (sign ++ name) = FloatText.readWord? negative name := by
  obtain ⟨c, rest, rfl, hc⟩ := h
  have hne {d : Char} (hi : d.toLower ≠ 'i') (hn : d.toLower ≠ 'n') : c ≠ d := by
    rintro rfl
    exact hc.elim hi hn
  have hdigit : c.isDigit = false := by
    by_contra hdigit
    rw [Bool.not_eq_false] at hdigit
    rw [toLower_of_isDigit hdigit] at hc
    rcases hc with rfl | rfl <;> cases hdigit
  have hsplit : splitSign (sign ++ c :: rest) = (negative, c :: rest) := by
    cases hsign with
    | none => exact splitSign_cons (hne (by decide) (by decide)) (hne (by decide) (by decide))
    | plus => rfl
    | minus => rfl
  have hpoint : Decimal.splitFraction (c :: rest) = ([], c :: rest) := by
    unfold Decimal.splitFraction
    split
    · rename_i heq
      exact absurd (List.cons.inj heq).1 (hne (by decide) (by decide))
    · rfl
  have hdecimal : Decimal.read? negative (c :: rest) = none := by
    simp only [Decimal.read?, List.takeWhile_cons, List.dropWhile_cons, hdigit, Bool.false_eq_true,
      if_false, hpoint, and_self, if_true]
  simp only [FloatText.read?, hsplit, hdecimal]

lemma read?_eq_infinity (hsign : SignText sign negative)
    (hname : name.map Char.toLower = "inf".toList ∨ name.map Char.toLower = "infinity".toList) :
    FloatText.read? (sign ++ name) = some (.infinity negative) := by
  have hbegins : BeginsName name := hname.elim (beginsName_of_map_eq (.inl rfl))
    (beginsName_of_map_eq (.inl rfl))
  rw [hbegins.read?_eq hsign]
  exact readWord?_eq_infinity_iff.2 ⟨rfl, hname⟩

lemma read?_eq_nan (hsign : SignText sign negative)
    (hname : name.map Char.toLower = "nan".toList) :
    FloatText.read? (sign ++ name) = some (.nan negative) := by
  rw [(beginsName_of_map_eq (.inr rfl) hname).read?_eq hsign]
  exact readWord?_eq_nan_iff.2 ⟨rfl, hname⟩

/-- What is read and is no decimal number is a name with a sign. -/
lemma exists_name {number : FloatText} (h : FloatText.read? text = some number)
    (hne : ∀ d, number ≠ .decimal d) : ∃ sign name negative, SignText sign negative ∧
      text = sign ++ name ∧ FloatText.readWord? negative name = some number := by
  obtain ⟨sign, hsign, htext⟩ := exists_signText text
  refine ⟨sign, _, _, hsign, htext, ?_⟩
  unfold FloatText.read? at h
  dsimp only at h
  split at h
  · cases h
    exact absurd rfl (hne _)
  · exact h

end Names

namespace BinaryFormat

variable {f : BinaryFormat} {text : List Char} {w : ℕ}

/-- **Reading and rounding** find the word that a text stands for. -/
theorem spells_iff (hf : f.Proper) :
    f.Spells text w ↔ ∃ number, FloatText.read? text = some number ∧ w = f.ofText number := by
  have hdecimal (d : Decimal) : f.Closest d.negative d.value w ↔ w = f.ofDecimal d :=
    closest_iff hf (by positivity) (near_roundDecimal hf d.coefficient d.exponent)
  constructor
  · rintro (⟨htext, hw⟩ | ⟨hsign, hname⟩ | ⟨hsign, hname⟩)
    · exact ⟨_, read?_eq_decimal_iff.2 htext, (hdecimal _).1 hw⟩
    · exact ⟨_, read?_eq_infinity hsign hname, rfl⟩
    · exact ⟨_, read?_eq_nan hsign hname, rfl⟩
  · rintro ⟨number, hread, rfl⟩
    cases number with
    | decimal d => exact .numeral (read?_eq_decimal_iff.1 hread) ((hdecimal d).2 rfl)
    | infinity negative =>
      obtain ⟨sign, name, _, hsign, rfl, hword⟩ := exists_name hread (by simp)
      obtain ⟨rfl, hname⟩ := readWord?_eq_infinity_iff.1 hword
      exact .infinity hsign hname
    | nan negative =>
      obtain ⟨sign, name, _, hsign, rfl, hword⟩ := exists_name hread (by simp)
      obtain ⟨rfl, hname⟩ := readWord?_eq_nan_iff.1 hword
      exact .nan hsign hname

/-- A word that a text stands for is not changed. -/
lemma convert_ofText (hf : f.Proper) (number : FloatText) :
    f.convert f (f.ofText number) = f.ofText number := by
  cases number with
  | decimal d =>
    have hle := (near_roundDecimal hf d.coefficient d.exponent).le_infinity
    rcases hle.lt_or_eq with hlt | heq
    · obtain ⟨a, hconvert, hnear⟩ := Resolves.exists_convert_withSign hf d.negative hlt
      rw [ofText, ofDecimal, hconvert, hnear.unique (near_place hlt)]
    · rw [ofText, ofDecimal, heq, convert, decode_infinityWord, encode]
  | infinity negative => rw [ofText, convert, decode_infinityWord, encode]
  | nan negative => rw [ofText, convert, decode_quietNaN hf, encode]

end BinaryFormat

end TensorBridge
