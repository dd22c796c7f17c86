import TensorBridge.Proofs.Literal.Reading
import TensorBridge.Proofs.Number.Decimal

/-!
# Scalars as text

The text of a scalar is read as the scalar, up to what distinguishes those that are no numbers
(`Scalar.read_display`).
-/

namespace TensorBridge

/-! ## Text -/

namespace BinaryFormat

variable {f g : BinaryFormat} {w : Nat}

/-- Showing and reading by way of a wider format. -/
lemma convert_canonicalWord (hf : f.Proper) (hg : g.Proper) (hfg : f.Embeds g)
    (hw : w < 2 * f.signWeight) :
    g.convert f (g.canonicalWord (f.convert g w)) = f.canonicalWord w := by
  -- No number stays no number in the wider format, and a number stays itself.
  by_cases hnan : ∃ negative, f.decode w = .nan negative
  · obtain ⟨negative, hnan⟩ := hnan
    rw [canonicalWord_of_nan hnan, canonicalWord_of_nan (decode_convert_of_nan hg hnan), convert,
      decode_quietNaN hg, encode]
  · have hnan' : ∀ negative, f.decode w ≠ .nan negative := not_exists.1 hnan
    rw [canonicalWord_of_ne_nan hnan', canonicalWord_of_ne_nan
      (decode_convert_ne_nan hf hg hfg hw hnan'), convert_convert hf hg hfg hw hnan']

lemma canonicalWord_lt (hw : w < 2 * f.signWeight) : f.canonicalWord w < 2 * f.signWeight := by
  unfold canonicalWord
  split
  · exact f.encode_lt (.nan false)
  · exact hw

/-- A word and the canonical one are shown alike. -/
lemma display_canonicalWord (hf : f.Proper) (hg : g.Proper) :
    g.display (g.decode (f.convert g (f.canonicalWord w))) =
      g.display (g.decode (f.convert g w)) := by
  by_cases hnan : ∃ negative, f.decode w = .nan negative
  · obtain ⟨negative, hnan⟩ := hnan
    rw [canonicalWord_of_nan hnan, decode_convert_of_nan hg hnan,
      decode_convert_of_nan hg (decode_quietNaN hf false), display_nan, display_nan]
  · rw [canonicalWord_of_ne_nan (not_exists.1 hnan)]

end BinaryFormat

namespace Scalar

variable {t : ElementType}

/-- The scalar itself if it is a number, otherwise the quiet one of its type that is none, without a
sign. -/
def canonical (t : ElementType) (s : Scalar t) : Scalar t :=
  match format? t with
  | some f => BitVec.ofNat _ (f.canonicalWord s.toNat)
  | none => s

/-- **Showing and reading** a scalar. -/
theorem read_display (s : Scalar t) : read t (display t s).toList = .ok (canonical t s) := by
  rw [read_eq_ok_iff]
  rcases hformat : format? t with _ | f
  · rw [denotes_iff_of_format?_eq_none hformat]
    simp only [display, canonical, hformat]
    exact IntegerText.toString s.toInt
  · rw [denotes_iff_of_format? hformat]
    simp only [display, canonical, hformat]
    have hfits := fits_of_format? hformat
    have hlt : s.toNat < 2 * f.signWeight := hfits.width_eq ▸ s.isLt
    obtain ⟨number, hread, hword⟩ :=
      BinaryFormat.read?_display hfits.text_proper ((textFormat f).encode_lt (f.decode s.toNat))
    refine ⟨number, hread, ?_⟩
    rw [hword, ← BinaryFormat.convert, BinaryFormat.convert_canonicalWord hfits.proper
      hfits.text_proper hfits.embeds hlt, BitVec.toNat_ofNat, hfits.width_eq,
      Nat.mod_eq_of_lt (BinaryFormat.canonicalWord_lt hlt)]

example : canonical .f16 0xfc01 = 0x7e00 ∧ canonical .bf16 0x7f81 = 0x7fc0 ∧
    canonical .f32 0x80000000 = 0x80000000 := by decide

/-- A scalar and the canonical one are shown alike. -/
lemma display_canonical (s : Scalar t) : display t (canonical t s) = display t s := by
  unfold display canonical
  rcases hformat : format? t with _ | f
  · rfl
  · have hfits := fits_of_format? hformat
    have hlt : f.canonicalWord s.toNat < 2 ^ (8 * t.width) := by
      rw [hfits.width_eq]
      exact BinaryFormat.canonicalWord_lt (hfits.width_eq ▸ s.isLt)
    dsimp only
    rw [BitVec.toNat_ofNat, Nat.mod_eq_of_lt hlt]
    exact BinaryFormat.display_canonicalWord hfits.proper hfits.text_proper

end Scalar

namespace Literal

lemma isSeparator_of_isAlphanum {c : Char} (h : c.isAlphanum = true) : isSeparator c = false := by
  have hblank : ∀ n ∈ whiteSpace, (Char.ofNat n).isAlphanum = false := by decide
  by_contra hseparator
  rw [Bool.not_eq_false, isSeparator, Bool.or_eq_true, beq_iff_eq] at hseparator
  rcases hseparator with hspace | rfl
  · have hnot := hblank c.toNat (List.contains_iff_mem.1 hspace)
    rw [Char.ofNat_toNat, h] at hnot
    cases hnot
  · cases h

/-- The text of an integer is an item. -/
lemma isItem_of_integerText {text : List Char} {n : Int} (h : IntegerText text n) :
    IsItem text := by
  have hdigits {digits : List Char} (h : IsDigits digits) : ∀ c ∈ digits, isSeparator c = false :=
    fun c hc => isSeparator_of_isAlphanum (isAlphanum_of_isDigit (h.isDigit c hc))
  cases h with
  | unsigned h => exact ⟨h.ne_nil, hdigits h⟩
  | plus h => exact ⟨List.cons_ne_nil _ _, List.forall_mem_cons.2 ⟨by decide, hdigits h⟩⟩
  | minus h => exact ⟨List.cons_ne_nil _ _, List.forall_mem_cons.2 ⟨by decide, hdigits h⟩⟩

/-- The text of a scalar is an item. -/
lemma isItem_display {t : ElementType} (s : Scalar t) : IsItem (Scalar.display t s).toList := by
  unfold Scalar.display
  rcases Scalar.format? t with _ | f
  · exact isItem_of_integerText (IntegerText.toString s.toInt)
  · refine ⟨BinaryFormat.display_ne_nil _, fun c hc => ?_⟩
    rcases BinaryFormat.mem_display hc with halpha | rfl | rfl
    · exact isSeparator_of_isAlphanum halpha
    · decide
    · decide

end Literal

end TensorBridge
