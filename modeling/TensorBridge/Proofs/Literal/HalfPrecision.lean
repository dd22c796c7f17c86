import TensorBridge.Proofs.Literal.Scalars
import TensorBridge.Proofs.Number.Narrowing
import TensorBridge.Proofs.Number.Numeral

/-!
# Literals of the sixteen bit formats

A value of a sixteen bit format is rounded to single precision first and to its own format then.

* `Tensor.parse_by_way_of_single`: what is stored for a numeral, and when it is the number of the
  format that is nearest to the numeral itself.
* `Tensor.parse_misrounded`: a numeral for which it is not.
-/

namespace TensorBridge

open BinaryFormat

/-- Single precision has the limits between the numbers of both sixteen bit formats. -/
lemma resolves_single {f : BinaryFormat} (hf : f = .half ∨ f = .brain) : f.Resolves .single := by
  rcases hf with rfl | rfl
  all_goals exact ⟨⟨by decide, by decide⟩, ⟨by decide, by decide⟩, by decide, by decide⟩

/-- The format of the text of a sixteen bit format. -/
lemma textFormat_eq_single {f : BinaryFormat} (hf : f = .half ∨ f = .brain) :
    Scalar.textFormat f = .single := by
  rcases hf with rfl | rfl <;> decide

/-- The scalar of a numeral. -/
lemma Scalar.Denotes.detour {t : ElementType} {f : BinaryFormat} {text : List Char} {s : Scalar t}
    {d : Decimal} (h : Scalar.Denotes t text s) (hformat : Scalar.format? t = some f)
    (hf : f = .half ∨ f = .brain) (hd : Numeral text d) :
    f.Detour .single d.value s.toNat ∧ f.isNegative s.toNat = d.negative := by
  obtain ⟨number, hread, hword⟩ := (Scalar.denotes_iff_of_format? hformat).1 h
  obtain rfl : number = .decimal d :=
    Option.some.inj (hread.symm.trans (read?_eq_decimal_iff.2 hd))
  rw [hword, textFormat_eq_single hf, ofText]
  exact (resolves_single hf).detour_ofDecimal d

/-- A numeral stands for a scalar of any floating point type. -/
lemma Scalar.exists_denotes {t : ElementType} {f : BinaryFormat} {text : List Char} {d : Decimal}
    (hformat : Scalar.format? t = some f) (hd : Numeral text d) : ∃ s, Scalar.Denotes t text s := by
  simp only [Scalar.denotes_iff_of_format? hformat]
  exact ⟨_, _, read?_eq_decimal_iff.2 hd, Scalar.toNat_ofNat_encode hformat _⟩

namespace Tensor

/-- **Numerals in literals of the sixteen bit formats.**  The stored word has the sign of the
numeral, and is the nearest one to the number of single precision that is nearest to the numeral;
ties go to the even word and numbers beyond the range to infinity.  It is the nearest one to the
numeral itself unless single precision rounds that to a limit between two neighbours from the side
of the odd one.  Literals that have as many values as they should, all of them numerals, are
read. -/
theorem parse_by_way_of_single {input : String} (l : Literal.Layout) (hl : l.text = input.toList)
    {f : BinaryFormat} (hformat : Scalar.format? l.elementType = some f)
    (hf : f = .half ∨ f = .brain) :
    (∀ tensor, parse input = .ok tensor → ∃ scalars : List (Scalar l.elementType),
      tensor.toValues l.elementType = .ok scalars ∧
        List.Forall₂ (fun token s => ∀ d, Numeral token d →
          f.Detour .single d.value s.toNat ∧ f.isNegative s.toNat = d.negative) l.values scalars) ∧
    ((∀ k, (l.sizes.take k).prod < addressSpace) → l.values.length = l.sizes.prod →
      (∀ token ∈ l.values, ∃ d, Numeral token d) → ∃ tensor, parse input = .ok tensor) := by
  constructor
  · intro tensor hparse
    have hdenotes := (l.parse_iff_denotes hl).1 hparse
    obtain ⟨scalars, hscalars, hdata⟩ := hdenotes.data_eq
    refine ⟨scalars, ?_, hscalars.imp fun token s hs => ?_⟩
    · rw [toValues, if_pos hdenotes.elementType_eq.symm, hdata, scalarsOfBytes_bytesOfScalars]
    · exact fun d hd => hs.detour hformat hf hd
  · intro hprod hlength hnumerals
    have hscalar : ∀ token ∈ l.values, ∃ s, Scalar.Denotes l.elementType token s := by
      intro token htoken
      obtain ⟨d, hd⟩ := hnumerals token htoken
      exact Scalar.exists_denotes hformat hd
    choose! scalar hscalar using hscalar
    have hscalars : List.Forall₂ (Scalar.Denotes l.elementType) l.values (l.values.map scalar) :=
      List.forall₂_map_right_iff.2 (List.forall₂_same.2 hscalar)
    exact ⟨⟨l.elementType, l.parts.shape, bytesOfScalars l.elementType (l.values.map scalar)⟩,
      (l.parse_iff_denotes hl).2 ⟨rfl, l.shape_eq_iff.1 rfl, hprod, hlength, _, hscalars,
        encodes_bytesOfScalars _⟩⟩

/-- A literal with two numerals, of which the second one is too small for single precision. -/
theorem parse_by_way_of_single_sample :
    ∃ (tensor : Tensor) (scalars : List (Scalar .bf16)), parse "2xbf16=1.5, -1e-50" = .ok tensor ∧
      tensor.toValues .bf16 = .ok scalars ∧
        List.Forall₂ (fun (d : Decimal) s => brain.Detour .single d.value s.toNat ∧
          brain.isNegative s.toNat = d.negative) [⟨false, 15, -1⟩, ⟨true, 1, -50⟩] scalars := by
  have hscan : Literal.scan "2xbf16=1.5, -1e-50".toList =
      .ok ⟨[2], .bf16, ["1.5".toList, "-1e-50".toList]⟩ := by decide +kernel
  have hfirst : Numeral "1.5".toList ⟨false, 15, -1⟩ := read?_eq_decimal_iff.1 (by decide)
  have hsecond : Numeral "-1e-50".toList ⟨true, 1, -50⟩ := read?_eq_decimal_iff.1 (by decide)
  obtain ⟨l, hl, hparts⟩ := Literal.exists_layout hscan
  have htype : l.elementType = .bf16 := congrArg Literal.Parts.elementType hparts
  have hvalues : l.values = ["1.5".toList, "-1e-50".toList] := congrArg Literal.Parts.values hparts
  have hsizes : l.sizes = [2] := List.map_injective_iff.2 Int.ofNat_injective
    (l.shape_eq_iff.1 (congrArg Literal.Parts.shape hparts).symm).symm
  have hformat : Scalar.format? l.elementType = some .brain := by rw [htype]; rfl
  obtain ⟨hstored, hread⟩ := parse_by_way_of_single l hl hformat (.inr rfl)
  obtain ⟨tensor, hparse⟩ := hread
    (fun k => by
      rw [hsizes]
      cases k <;> simp [addressSpace])
    (by rw [hvalues, hsizes]; rfl)
    (by
      rw [hvalues]
      exact List.forall_mem_cons.2 ⟨⟨_, hfirst⟩, List.forall_mem_singleton.2 ⟨_, hsecond⟩⟩)
  obtain ⟨scalars, htyped, hscalars⟩ := hstored tensor hparse
  rw [hvalues] at hscalars
  revert scalars
  rw [htype]
  rintro scalars htyped (_ | ⟨hs, _ | ⟨hs', hnil⟩⟩)
  cases hnil
  exact ⟨tensor, _, hparse, htyped, .cons (hs _ hfirst) (.cons (hs' _ hsecond) .nil)⟩

/-- Half precision: the numeral is a little more than the limit between one and the next number, but
what is stored is one. -/
theorem parse_misrounded :
    ∃ tensor, parse "1xf16=1.00048828125000001" = .ok tensor ∧
      tensor.toValues .f16 = .ok [0x3c00] ∧
      Numeral "1.00048828125000001".toList ⟨false, 100048828125000001, -17⟩ ∧
      ¬half.Nearest (Decimal.value ⟨false, 100048828125000001, -17⟩) 0x3c00 ∧
      half.Nearest (Decimal.value ⟨false, 100048828125000001, -17⟩) 0x3c01 := by
  have hproper : half.Proper := ⟨by decide, by decide⟩
  have hvalue : (0 : ℚ) ≤ (100048828125000001 : ℕ) * 10 ^ (-17 : ℤ) := by positivity
  have hunit : (2 : ℚ) ^ (half.minExponent + (14 : ℕ)) = (2 ^ 10)⁻¹ := by
    rw [show half.minExponent + (14 : ℕ) = -10 by decide, zpow_neg]
    norm_cast
  have hlimit : half.middle 0x3c00 = (1024 + 1 / 2) * (2 ^ 10)⁻¹ := by
    have hmiddle := middle_add (f := half) (n := 1024) (q := 14) (by decide) (by decide)
    rw [hunit] at hmiddle
    exact_mod_cast hmiddle
  have hnext : half.middle 0x3c01 = (1025 + 1 / 2) * (2 ^ 10)⁻¹ := by
    have hmiddle := middle_add (f := half) (n := 1025) (q := 14) (by decide) (by decide)
    rw [hunit] at hmiddle
    exact_mod_cast hmiddle
  refine ⟨⟨.f16, [1], [0x00, 0x3c]⟩, by decide +kernel, by decide +kernel,
    read?_eq_decimal_iff.1 (by decide +kernel), ?_, ?_⟩
  · intro hnearest
    have hnear := (nearest_iff_near (a := 0x3c00) hproper hvalue (by decide) false).1 hnearest
    have hhigh := hnear.high (by decide)
    rw [hlimit] at hhigh
    norm_num at hhigh
  · refine (nearest_iff_near (a := 0x3c01) hproper hvalue (by decide) false).2 ?_
    have hlow : half.middle 0x3c00 < (100048828125000001 : ℕ) * 10 ^ (-17 : ℤ) := by
      rw [hlimit]
      norm_num
    have hhigh : ((100048828125000001 : ℕ) * 10 ^ (-17 : ℤ) : ℚ) < half.middle 0x3c01 := by
      rw [hnext]
      norm_num
    exact ⟨by decide, fun _ => hlow.le, fun _ => hhigh.le, fun _ => ⟨hlow, hhigh⟩⟩

end Tensor

end TensorBridge
