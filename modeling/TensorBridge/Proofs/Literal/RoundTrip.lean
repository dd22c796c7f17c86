import TensorBridge.Proofs.Literal.Scalars
import TensorBridge.Proofs.Session.Arguments

/-!
# Writing and reading literals

A tensor that is written as a literal is read back.  The literal has a layout without blanks, with
one space between values; what the layout stands for is told by `Literal.Layout.parse_iff_denotes`.

* `Tensor.parse_literal`: the tensor that comes back, and that its literal is the same again.
-/

namespace TensorBridge

namespace Literal

/-! ## The layout of a literal -/

/-- Items with a space between neighbours. -/
lemma separated_intercalate {items : List (List Char)} (h : ∀ item ∈ items, IsItem item) :
    Separated items ([' '].intercalate items) := by
  induction items with
  | nil => exact .none
  | cons item items ih =>
    obtain ⟨hitem, hitems⟩ := List.forall_mem_cons.1 h
    cases items with
    | nil =>
      rw [List.intercalate_singleton]
      exact .last hitem
    | cons next items =>
      rw [List.intercalate_cons_cons, List.append_assoc]
      exact .more hitem (List.cons_ne_nil _ _) (List.forall_mem_singleton.2 rfl) (ih hitems)

/-- The digits of a dimension. -/
lemma isDimension_digitsOf (d : Int64) : IsDimension (digitsOf d.toInt.toNat) := by
  have hlt := d.toInt_lt
  refine ⟨isDigits_digitsOf _, ?_⟩
  rw [ofDigits_digitsOf]
  omega

/-- The layout of the literal of scalars. -/
def Layout.ofScalars (t : ElementType) (shape : Shape) (scalars : List (Scalar t)) : Layout where
  before := []
  dimensions := shape.map fun d => digitsOf d.toInt.toNat
  elementType := t
  inner := []
  values := scalars.map fun s => (Scalar.display t s).toList
  body := [' '].intercalate (scalars.map fun s => (Scalar.display t s).toList)
  after := []
  before_blank := by simp
  dimensions_isDimension := by
    intro digits hdigits
    obtain ⟨d, -, rfl⟩ := List.mem_map.1 hdigits
    exact isDimension_digitsOf d
  inner_blank := by simp
  separated := by
    refine separated_intercalate fun item hitem => ?_
    obtain ⟨s, -, rfl⟩ := List.mem_map.1 hitem
    exact isItem_display s
  after_blank := by simp

variable {t : ElementType} {shape : Shape} {scalars : List (Scalar t)}

lemma valueTexts_ofScalars :
    (Tensor.ofScalars t shape scalars).valueTexts = scalars.map (Scalar.display t) := by
  have hpieces := wholePieces_bytesOfScalars scalars
  simp only [Tensor.valueTexts, Tensor.ofScalars, hpieces, List.map_map]
  exact List.map_congr_left fun s _ => by rw [Function.comp_apply, Scalar.ofBytes_toBytes]

/-- The literal is cut as it was put together. -/
lemma text_ofScalars (hshape : ∀ d ∈ shape, 0 ≤ d.toInt) :
    (Layout.ofScalars t shape scalars).text =
      (Tensor.ofScalars t shape scalars).literal.toList := by
  have hdimensions : dimensionText (shape.map fun d => digitsOf d.toInt.toNat) =
      (String.join (shape.map fun d => toString d.toInt ++ "x")).toList := by
    rw [dimensionText, String.toList_join, List.flatMap_map, List.flatMap_map]
    refine List.flatMap_congr fun d hd => ?_
    rw [String.toList_append, toList_toString_of_nonneg (hshape d hd)]
    rfl
  rw [Tensor.literal, valueTexts_ofScalars]
  simp only [Layout.text, Layout.ofScalars, hdimensions, String.toList_append,
    String.toList_intercalate, List.map_map, List.nil_append, List.append_nil, List.append_assoc]
  rfl

/-- The layout stands for the canonical scalars. -/
lemma denotes_ofScalars (hcount : shape.elementCount = .ok scalars.length) :
    (Layout.ofScalars t shape scalars).Denotes
      (Tensor.ofScalars t shape (scalars.map (Scalar.canonical t))) := by
  have hshape := Shape.nonneg_of_multiply hcount
  have hsizes : shape.map Int64.toInt = (Layout.ofScalars t shape scalars).sizes.map Int.ofNat := by
    rw [Layout.sizes, Layout.ofScalars, List.map_map, List.map_map]
    refine List.map_congr_left fun d hd => ?_
    rw [Function.comp_apply, Function.comp_apply, ofDigits_digitsOf]
    exact (Int.toNat_of_nonneg (hshape d hd)).symm
  have hparts := (Layout.ofScalars t shape scalars).shape_eq_iff.2 hsizes
  rw [hparts] at hcount
  obtain ⟨hprod, hlength⟩ := (Layout.ofScalars t shape scalars).elementCount_eq_ok_iff.1 hcount
  refine ⟨rfl, hsizes, hprod, ?_, scalars.map (Scalar.canonical t), ?_, encodes_bytesOfScalars _⟩
  · rw [← hlength, Layout.ofScalars, List.length_map]
  · refine List.forall₂_map_left_iff.2 (List.forall₂_map_right_iff.2 (List.forall₂_same.2 ?_))
    exact fun s _ => Scalar.read_eq_ok_iff.1 (Scalar.read_display s)

end Literal

/-! ## There and back -/

namespace Tensor

variable {t : ElementType} {shape : Shape} {scalars : List (Scalar t)}

/-- Scalars that are written are read back as the canonical ones. -/
lemma parse_literal_ofScalars (hcount : shape.elementCount = .ok scalars.length) :
    parse (ofScalars t shape scalars).literal =
      .ok (ofScalars t shape (scalars.map (Scalar.canonical t))) :=
  ((Literal.Layout.ofScalars t shape scalars).parse_iff_denotes
    (Literal.text_ofScalars (Shape.nonneg_of_multiply hcount))).2 (Literal.denotes_ofScalars hcount)

/-- The canonical scalars are written in the same way. -/
lemma literal_map_canonical :
    (ofScalars t shape (scalars.map (Scalar.canonical t))).literal =
      (ofScalars t shape scalars).literal := by
  have htexts : (ofScalars t shape (scalars.map (Scalar.canonical t))).valueTexts =
      (ofScalars t shape scalars).valueTexts := by
    rw [Literal.valueTexts_ofScalars, Literal.valueTexts_ofScalars, List.map_map]
    exact List.map_congr_left fun s _ => Scalar.display_canonical s
  rw [literal, literal, htexts]
  rfl

/-- **Reading undoes writing.**  The literal of a well-formed tensor is read as a tensor of its type
and shape, with its elements but for those that are no numbers: each of these becomes the canonical
one of the type.  The tensor that is read has the same literal; so has every tensor that is read
from a text, whatever its size. -/
theorem parse_literal :
    (∀ tensor : Tensor, tensor.validate = .ok () → ∃ back : Tensor,
      parse tensor.literal = .ok back ∧ back.elementType = tensor.elementType ∧
        back.shape = tensor.shape ∧ back.validate = .ok () ∧
        scalarsOfBytes tensor.elementType back.data =
          (scalarsOfBytes tensor.elementType tensor.data).map
            (Scalar.canonical tensor.elementType) ∧
        back.literal = tensor.literal) ∧
    ∀ (input : String) (tensor : Tensor), parse input = .ok tensor → ∃ back : Tensor,
      parse tensor.literal = .ok back ∧ back.literal = tensor.literal := by
  constructor
  · rintro ⟨t, shape, data⟩ hvalid
    obtain ⟨count, hcount, hlt, hlength⟩ := validate_eq_ok_iff.1 hvalid
    dsimp only at hcount hlt hlength
    obtain ⟨scalars, rfl, rfl⟩ := exists_scalars hlength
    refine ⟨_, parse_literal_ofScalars hcount, rfl, rfl, ?_, ?_, literal_map_canonical⟩
    · refine validate_eq_ok_iff.2 ⟨scalars.length, hcount, hlt, ?_⟩
      rw [ofScalars, length_bytesOfScalars, List.length_map]
    · rw [ofScalars, scalarsOfBytes_bytesOfScalars, scalarsOfBytes_bytesOfScalars]
  -- What is read has the elements that its shape asks for, but their bytes are not counted: it need
  -- not be well formed.
  · intro input tensor hparse
    obtain ⟨l, -, hdenotes⟩ := exists_layout_of_parse hparse
    obtain ⟨scalars, hscalars, hdata⟩ := hdenotes.data_eq
    have htensor : tensor = ofScalars l.elementType tensor.shape scalars := by
      rw [ofScalars, ← hdata, ← hdenotes.elementType_eq]
    have hcount : tensor.shape.elementCount = .ok scalars.length := by
      rw [l.shape_eq_iff.2 hdenotes.shape_eq, l.elementCount_eq_ok_iff, ← hscalars.length_eq]
      exact ⟨hdenotes.prod_lt, hdenotes.length_eq⟩
    rw [htensor]
    exact ⟨_, parse_literal_ofScalars hcount, literal_map_canonical⟩

/-- Two scalars of half precision: one with a sign and a payload that is no number, and minus
zero. -/
theorem parse_literal_half :
    (ofScalars .f16 [2] [0xfe01, 0x8000]).validate = .ok () ∧ ∃ back : Tensor,
      parse (ofScalars .f16 [2] [0xfe01, 0x8000]).literal = .ok back ∧
        scalarsOfBytes .f16 back.data = [0x7e00, 0x8000] ∧
        ∃ again : Tensor, parse back.literal = .ok again ∧ again.literal = back.literal := by
  have hvalid : (ofScalars .f16 [2] [0xfe01, 0x8000]).validate = .ok () := by decide
  have hcanonical : ([0xfe01, 0x8000] : List (Scalar .f16)).map (Scalar.canonical .f16) =
      [0x7e00, 0x8000] := by decide
  obtain ⟨back, hparse, -, -, -, hscalars, -⟩ := parse_literal.1 _ hvalid
  refine ⟨hvalid, back, hparse, hscalars.trans ?_, parse_literal.2 _ back hparse⟩
  exact (congrArg _ (scalarsOfBytes_bytesOfScalars _)).trans hcanonical

end Tensor

end TensorBridge
