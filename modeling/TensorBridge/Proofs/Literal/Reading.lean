import Mathlib
import TensorBridge.Proofs.Literal.Encoding
import TensorBridge.Proofs.Literal.Form
import TensorBridge.Proofs.Number.Spelling

/-!
# The meaning of literals

What a text with a layout stands for, and that reading gives just this.

* `Scalar.Denotes`: the texts of the values.
* `Literal.Layout.Denotes`: the tensor that a layout stands for.
* `Tensor.parse_eq_ok_iff`: a text is read as a tensor if and only if it has a layout that stands
  for it; another layout of the text stands for no other tensor.
-/

namespace TensorBridge

/-! ## Values -/

namespace Scalar

open BinaryFormat

/-- The text stands for the scalar.  A number of a sixteen bit format is rounded to single precision
first. -/
def Denotes : (t : ElementType) → List Char → Scalar t → Prop
  | .f16, text, s => ∃ wide, single.Spells text wide ∧ single.Recasts half wide s.toNat
  | .bf16, text, s => ∃ wide, single.Spells text wide ∧ single.Recasts brain wide s.toNat
  | .f32, text, s => single.Spells text s.toNat
  | .f64, text, s => double.Spells text s.toNat
  | .i32, text, s => IntegerText text s.toInt
  | .i64, text, s => IntegerText text s.toInt

variable {t : ElementType} {f : BinaryFormat} {text : List Char} {s : Scalar t}

/-- What the formats of the types have in common. -/
structure Fits (t : ElementType) (f : BinaryFormat) : Prop where
  /-- The fields are wide enough. -/
  proper : f.Proper
  /-- So are those of the format of the text. -/
  text_proper : (textFormat f).Proper
  /-- The format of the text has all numbers of the format. -/
  embeds : f.Embeds (textFormat f)
  /-- The words are as wide as the type. -/
  width_eq : 2 ^ (8 * t.width) = 2 * f.signWeight

lemma fits_of_format? (h : format? t = some f) : Fits t f := by
  cases t <;> cases h <;>
    exact ⟨⟨by decide, by decide⟩, ⟨by decide, by decide⟩, ⟨by decide, by decide⟩, by decide⟩

/-- The scalar with the word of a value. -/
lemma toNat_ofNat_encode (h : format? t = some f) (v : FloatValue) :
    (BitVec.ofNat (8 * t.width) (f.encode v)).toNat = f.encode v := by
  rw [BitVec.toNat_ofNat, (fits_of_format? h).width_eq, Nat.mod_eq_of_lt (f.encode_lt v)]

/-- A word that a text stands for in one format, taken to another one. -/
lemma exists_recast_iff (hf : f.Proper) {w : ℕ} :
    (∃ wide, single.Spells text wide ∧ single.Recasts f wide w) ↔
      ∃ number, FloatText.read? text = some number ∧
        w = single.convert f (single.ofText number) := by
  have hsingle : single.Proper := ⟨by decide, by decide⟩
  simp only [spells_iff hsingle, recasts_iff hf]
  constructor
  · rintro ⟨_, ⟨number, hread, rfl⟩, hw⟩
    exact ⟨number, hread, hw⟩
  · rintro ⟨number, hread, hw⟩
    exact ⟨_, ⟨number, hread, rfl⟩, hw⟩

/-- A format that is its own format of the text. -/
lemma spells_iff_convert (hf : f.Proper) {w : ℕ} :
    f.Spells text w ↔ ∃ number, FloatText.read? text = some number ∧
      w = f.convert f (f.ofText number) := by
  simp only [spells_iff hf, convert_ofText hf]

/-- The text of a floating point number is read, rounded and converted. -/
lemma denotes_iff_of_format? (h : format? t = some f) :
    Denotes t text s ↔ ∃ number, FloatText.read? text = some number ∧
      s.toNat = (textFormat f).convert f ((textFormat f).ofText number) := by
  have hfits := fits_of_format? h
  cases t with
  | f16 | bf16 =>
    cases h
    exact exists_recast_iff hfits.proper
  | f32 | f64 =>
    cases h
    exact spells_iff_convert hfits.proper
  | i32 | i64 => cases h

lemma denotes_iff_of_format?_eq_none (h : format? t = none) :
    Denotes t text s ↔ IntegerText text s.toInt := by
  cases t <;> first | rfl | cases h

/-- **Reading a scalar.** -/
theorem read_eq_ok_iff : read t text = .ok s ↔ Denotes t text s := by
  rcases hformat : format? t with _ | f
  · rw [denotes_iff_of_format?_eq_none hformat]
    simp only [read, hformat]
    have hwidth : 0 < 8 * t.width := Nat.mul_pos (by decide) t.width_pos
    have hlimit : ((Nat.pow 2 (8 * t.width - 1) - 1 : Nat) : Int) + 1 = 2 ^ (8 * t.width - 1) := by
      have hpos : 0 < 2 ^ (8 * t.width - 1) := Nat.two_pow_pos _
      have hcast : ((2 ^ (8 * t.width - 1) : Nat) : Int) = 2 ^ (8 * t.width - 1) := by simp
      rw [Nat.pow_eq]
      omega
    constructor
    · intro h
      rcases hread : readInteger (Nat.pow 2 (8 * t.width - 1) - 1) text with e | n
      · rw [hread] at h
        cases h
      · obtain ⟨htext, hlow, hhigh⟩ := readInteger_eq_ok_iff.1 hread
        rw [hread] at h
        cases h
        rwa [BitVec.toInt_ofInt_eq_self hwidth (by omega) (by omega)]
    · intro htext
      have hlow := s.le_toInt
      have hhigh := s.toInt_lt
      have hread : readInteger (Nat.pow 2 (8 * t.width - 1) - 1) text = .ok s.toInt :=
        readInteger_eq_ok_iff.2 ⟨htext, by omega, by omega⟩
      rw [hread]
      exact congrArg _ BitVec.ofInt_toInt
  · rw [denotes_iff_of_format? hformat]
    simp only [read, hformat]
    have hword (number : FloatText) :
        BitVec.ofNat _ ((textFormat f).convert f ((textFormat f).ofText number)) = s ↔
          s.toNat = (textFormat f).convert f ((textFormat f).ofText number) := by
      rw [← BitVec.toNat_inj, convert, toNat_ofNat_encode hformat, eq_comm]
    rcases FloatText.read? text with _ | number
    · simp
    · simp [hword]

end Scalar

namespace Literal

/-- Reading values one after the other. -/
lemma readValues_eq_ok_iff {t : ElementType} {texts : List (List Char)} {data : List UInt8} :
    readValues t texts = .ok data ↔ ∃ scalars : List (Scalar t),
      List.Forall₂ (Scalar.Denotes t) texts scalars ∧ data = bytesOfScalars t scalars := by
  induction texts generalizing data with
  | nil => simp [readValues, bytesOfScalars, eq_comm]
  | cons text texts ih =>
    rw [readValues]
    constructor
    · intro h
      rcases hread : Scalar.read t text with fault | s
      · simp [hread] at h
      rcases hrest : readValues t texts with fault | rest
      · simp [hread, hrest, Except.map] at h
      obtain ⟨scalars, hscalars, rfl⟩ := ih.1 hrest
      refine ⟨s :: scalars, .cons (Scalar.read_eq_ok_iff.1 hread) hscalars, ?_⟩
      simpa [hread, hrest, Except.map, bytesOfScalars, eq_comm] using h
    · rintro ⟨_, hscalars, rfl⟩
      cases hscalars with
      | @cons _ s _ scalars htext hrest =>
        rw [Scalar.read_eq_ok_iff.2 htext, ih.2 ⟨scalars, hrest, rfl⟩]
        rfl

/-! ## Sizes -/

/-- The product of the dimensions, each of which keeps it in the address space. -/
lemma multiply_eq_ok_iff {whole : Shape} {sizes : List Nat} {index count n : Nat}
    (hsizes : ∀ size ∈ sizes, size ≤ dimensionLimit) (hcount : count < addressSpace) :
    Shape.multiply whole index count (sizes.map Int64.ofNat) = .ok n ↔
      (∀ k, count * (sizes.take k).prod < addressSpace) ∧ n = count * sizes.prod := by
  induction sizes generalizing index count with
  | nil => simp [Shape.multiply, hcount, eq_comm]
  | cons size sizes ih =>
    obtain ⟨hsize, hsizes⟩ := List.forall_mem_cons.1 hsizes
    have htoInt : (Int64.ofNat size).toInt = size :=
      Int64.toInt_ofNat_of_lt (Nat.lt_of_le_of_lt hsize (by decide))
    rw [List.map_cons, Shape.multiply, htoInt, if_neg (by omega), Int.toNat_natCast]
    by_cases hnext : count * size < addressSpace
    · rw [if_pos hnext, ih hsizes hnext, List.prod_cons, Nat.mul_assoc]
      refine and_congr_left fun _ => ⟨fun h k => ?_, fun h k => ?_⟩
      · cases k with
        | zero => simpa using hcount
        | succ k => simpa [Nat.mul_assoc] using h k
      · simpa [Nat.mul_assoc] using h (k + 1)
    · rw [if_neg hnext]
      simp only [reduceCtorEq, false_iff]
      exact fun h => hnext (by simpa using h.1 1)

/-! ## Literals -/

namespace Layout

/-- What a layout stands for. -/
structure Denotes (l : Layout) (tensor : Tensor) : Prop where
  /-- The type is that of the token. -/
  elementType_eq : tensor.elementType = l.elementType
  /-- The shape is that of the dimensions. -/
  shape_eq : tensor.shape.map Int64.toInt = l.sizes.map Int.ofNat
  /-- Multiplying the dimensions from left to right does not leave the address space. -/
  prod_lt : ∀ k, (l.sizes.take k).prod < 2 ^ 64
  /-- There are as many values as the shape has elements. -/
  length_eq : l.values.length = l.sizes.prod
  /-- The data encode the scalars that the values stand for. -/
  encodes : ∃ scalars, List.Forall₂ (Scalar.Denotes l.elementType) l.values scalars ∧
    Encodes l.elementType tensor.data scalars

/-- The data are the bytes of the values. -/
lemma Denotes.data_eq {l : Layout} {tensor : Tensor} (h : l.Denotes tensor) :
    ∃ scalars, List.Forall₂ (Scalar.Denotes l.elementType) l.values scalars ∧
      tensor.data = bytesOfScalars l.elementType scalars := by
  obtain ⟨scalars, hscalars, hdata⟩ := h.encodes
  exact ⟨scalars, hscalars, encodes_iff.1 hdata⟩

/-- A layout cuts out dimensions that fit. -/
lemma le_limit_of_mem_sizes (l : Layout) : ∀ size ∈ l.sizes, size ≤ dimensionLimit := by
  intro size hsize
  obtain ⟨digits, hdigits, rfl⟩ := List.mem_map.1 hsize
  exact (l.dimensions_isDimension digits hdigits).le_limit

lemma elementCount_eq_ok_iff (l : Layout) {n : Nat} :
    l.parts.shape.elementCount = .ok n ↔
      (∀ k, (l.sizes.take k).prod < addressSpace) ∧ n = l.sizes.prod := by
  rw [Shape.elementCount, parts, multiply_eq_ok_iff l.le_limit_of_mem_sizes (by decide)]
  simp only [Nat.one_mul]

/-- The shape of a layout has the sizes of its dimensions. -/
lemma shape_eq_iff (l : Layout) {shape : Shape} :
    shape = l.parts.shape ↔ shape.map Int64.toInt = l.sizes.map Int.ofNat := by
  have hsizes : l.parts.shape.map Int64.toInt = l.sizes.map Int.ofNat := by
    rw [parts, List.map_map]
    refine List.map_congr_left fun size hsize => ?_
    exact Int64.toInt_ofNat_of_lt
      (Nat.lt_of_le_of_lt (l.le_limit_of_mem_sizes size hsize) (by decide))
  rw [← hsizes]
  exact (List.map_injective_iff.2 fun _ _ => Int64.toInt_inj.1).eq_iff.symm

/-- **Reading a text with a layout.** -/
lemma parse_iff_denotes {input : String} (l : Layout) (hl : l.text = input.toList)
    {tensor : Tensor} :
    Tensor.parse input = .ok tensor ↔ l.Denotes tensor := by
  rw [Tensor.parse, ← hl, scan_layout]
  dsimp only [bind, Except.bind]
  constructor
  · intro h
    rcases hcount : l.parts.shape.elementCount with e | n
    · rw [hcount] at h
      cases h
    rw [hcount] at h
    dsimp only at h
    split_ifs at h with hlength
    rcases hdata : readValues l.parts.elementType l.parts.values with fault | data
    · rw [hdata] at h
      cases h
    rw [hdata] at h
    cases h
    obtain ⟨hprod, rfl⟩ := l.elementCount_eq_ok_iff.1 hcount
    obtain ⟨scalars, hscalars, rfl⟩ := readValues_eq_ok_iff.1 hdata
    exact ⟨rfl, l.shape_eq_iff.1 rfl, hprod, not_not.1 hlength,
      scalars, hscalars, encodes_bytesOfScalars scalars⟩
  · intro h
    rw [l.elementCount_eq_ok_iff.2 ⟨h.prod_lt, rfl⟩]
    have hread : readValues l.parts.elementType l.parts.values = .ok tensor.data :=
      readValues_eq_ok_iff.2 h.data_eq
    dsimp only
    rw [if_neg (not_not.2 h.length_eq : ¬l.parts.values.length ≠ _), hread]
    obtain ⟨elementType, shape, data⟩ := tensor
    obtain rfl : elementType = l.elementType := h.elementType_eq
    obtain rfl : shape = l.parts.shape := l.shape_eq_iff.2 h.shape_eq
    rfl

end Layout

end Literal

namespace Tensor

/-- What has been read has a layout. -/
lemma exists_layout_of_parse {input : String} {tensor : Tensor} (h : parse input = .ok tensor) :
    ∃ l : Literal.Layout, l.text = input.toList ∧ l.Denotes tensor := by
  rcases hscan : Literal.scan input.toList with fault | parts
  · rw [parse, hscan] at h
    cases h
  · obtain ⟨l, hl, -⟩ := Literal.exists_layout hscan
    exact ⟨l, hl, (l.parse_iff_denotes hl).1 h⟩

/-- **Literals** are read as tensors just as they have a layout, and as what the layout stands for.
No text stands for two tensors, whatever its layouts. -/
theorem parse_eq_ok_iff (input : String) :
    (∀ tensor, parse input = .ok tensor ↔
      ∃ l : Literal.Layout, l.text = input.toList ∧ l.Denotes tensor) ∧
    Set.Subsingleton {tensor | ∃ l : Literal.Layout, l.text = input.toList ∧ l.Denotes tensor} := by
  have hparse (tensor : Tensor) : parse input = .ok tensor ↔
      ∃ l : Literal.Layout, l.text = input.toList ∧ l.Denotes tensor := by
    refine ⟨exists_layout_of_parse, ?_⟩
    rintro ⟨l, hl, h⟩
    exact (l.parse_iff_denotes hl).2 h
  refine ⟨hparse, fun first hfirst second hsecond => ?_⟩
  exact Except.ok.inj (((hparse first).2 hfirst).symm.trans ((hparse second).2 hsecond))

/-- Integers on both sides of zero and at a limit, single precision with a negative zero, half
precision with a number that is rounded twice, an infinity and what is no number, the other types,
and no values at all. -/
theorem parse_eq_ok_iff_bytes :
    (parse "2xi32=1,-2" = .ok ⟨.i32, [2], [1, 0, 0, 0, 254, 255, 255, 255]⟩ ∧
      ∃ l : Literal.Layout, l.text = "2xi32=1,-2".toList ∧
        l.Denotes ⟨.i32, [2], [1, 0, 0, 0, 254, 255, 255, 255]⟩) ∧
    (parse "\r\n2xi64=+9223372036854775807\u3000,0\n" =
        .ok ⟨.i64, [2], [255, 255, 255, 255, 255, 255, 255, 127, 0, 0, 0, 0, 0, 0, 0, 0]⟩ ∧
      ∃ l : Literal.Layout, l.text = "\r\n2xi64=+9223372036854775807\u3000,0\n".toList ∧
        l.Denotes ⟨.i64, [2], [255, 255, 255, 255, 255, 255, 255, 127, 0, 0, 0, 0, 0, 0, 0, 0]⟩) ∧
    (parse " 1x2xf32=\t1.5 -0.1e-50 " = .ok ⟨.f32, [1, 2], [0, 0, 192, 63, 0, 0, 0, 128]⟩ ∧
      ∃ l : Literal.Layout, l.text = " 1x2xf32=\t1.5 -0.1e-50 ".toList ∧
        l.Denotes ⟨.f32, [1, 2], [0, 0, 192, 63, 0, 0, 0, 128]⟩) ∧
    (parse "f64=0.1" = .ok ⟨.f64, [], [154, 153, 153, 153, 153, 153, 185, 63]⟩ ∧
      ∃ l : Literal.Layout, l.text = "f64=0.1".toList ∧
        l.Denotes ⟨.f64, [], [154, 153, 153, 153, 153, 153, 185, 63]⟩) ∧
    (parse "3xf16=1.00048828125000001, -inf,NaN" = .ok ⟨.f16, [3], [0, 60, 0, 252, 0, 126]⟩ ∧
      ∃ l : Literal.Layout, l.text = "3xf16=1.00048828125000001, -inf,NaN".toList ∧
        l.Denotes ⟨.f16, [3], [0, 60, 0, 252, 0, 126]⟩) ∧
    (parse "bf16=-2" = .ok ⟨.bf16, [], [0, 192]⟩ ∧
      ∃ l : Literal.Layout, l.text = "bf16=-2".toList ∧ l.Denotes ⟨.bf16, [], [0, 192]⟩) ∧
    (parse "0x3xbf16=" = .ok ⟨.bf16, [0, 3], []⟩ ∧
      ∃ l : Literal.Layout, l.text = "0x3xbf16=".toList ∧ l.Denotes ⟨.bf16, [0, 3], []⟩) := by
  have hinteger : parse "2xi32=1,-2" = .ok ⟨.i32, [2], [1, 0, 0, 0, 254, 255, 255, 255]⟩ := by
    decide +kernel
  have hlimit : parse "\r\n2xi64=+9223372036854775807\u3000,0\n" =
      .ok ⟨.i64, [2], [255, 255, 255, 255, 255, 255, 255, 127, 0, 0, 0, 0, 0, 0, 0, 0]⟩ := by
    decide +kernel
  have hsingle : parse " 1x2xf32=\t1.5 -0.1e-50 " =
      .ok ⟨.f32, [1, 2], [0, 0, 192, 63, 0, 0, 0, 128]⟩ := by
    decide +kernel
  have hdouble : parse "f64=0.1" = .ok ⟨.f64, [], [154, 153, 153, 153, 153, 153, 185, 63]⟩ := by
    decide +kernel
  have hhalf : parse "3xf16=1.00048828125000001, -inf,NaN" =
      .ok ⟨.f16, [3], [0, 60, 0, 252, 0, 126]⟩ := by
    decide +kernel
  have hshort : parse "bf16=-2" = .ok ⟨.bf16, [], [0, 192]⟩ := by decide +kernel
  have hempty : parse "0x3xbf16=" = .ok ⟨.bf16, [0, 3], []⟩ := by decide +kernel
  exact ⟨⟨hinteger, ((parse_eq_ok_iff _).1 _).1 hinteger⟩,
    ⟨hlimit, ((parse_eq_ok_iff _).1 _).1 hlimit⟩, ⟨hsingle, ((parse_eq_ok_iff _).1 _).1 hsingle⟩,
    ⟨hdouble, ((parse_eq_ok_iff _).1 _).1 hdouble⟩, ⟨hhalf, ((parse_eq_ok_iff _).1 _).1 hhalf⟩,
    ⟨hshort, ((parse_eq_ok_iff _).1 _).1 hshort⟩, hempty, ((parse_eq_ok_iff _).1 _).1 hempty⟩

end Tensor

end TensorBridge
