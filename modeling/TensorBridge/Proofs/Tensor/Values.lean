import TensorBridge.Proofs.Tensor.Views

/-!
# Typed values

A tensor can be made of a shape and scalars of one type, and its scalars can be asked for at a type.
Scalars are bit patterns, so nothing is lost on the way, not even what distinguishes those that are
no numbers, and types of the same width are not taken for each other.

* `Shape.WellFormed`: the shapes that a dense tensor can have, told by exact products.
* `Tensor.fromValues_eq_ok_iff`: when scalars and a shape make a tensor, and which.
* `Tensor.exists_ofScalars`: a tensor in order is made of scalars.
* `Tensor.typed_values`: there and back, from scalars and from tensors.
-/

namespace TensorBridge

/-! ## Shapes of dense tensors -/

namespace Shape

/-- A dense tensor of the type can have the shape. -/
structure WellFormed (t : ElementType) (shape : Shape) : Prop where
  /-- No dimension is below zero. -/
  nonneg : ∀ d ∈ shape, 0 ≤ d.toInt
  /-- However many dimensions are multiplied from the front, the product is in the address space. -/
  fits : ∀ k, exactCount (shape.take k) < addressSpace
  /-- So is the number of bytes. -/
  bytes_fit : shape.exactCount * t.width < addressSpace

variable {t : ElementType} {shape : Shape}

/-- Sizes are those of well-formed shapes, and exact. -/
lemma measured_ok_iff {n : Nat} : Measured t.width shape (.ok n) ↔
    shape.WellFormed t ∧ (n : Int) = shape.exactCount * t.width := by
  constructor
  · rintro (⟨nonneg, fits, hlt, exact⟩ | _)
    exact ⟨⟨nonneg, fits, exact ▸ Int.ofNat_lt.2 hlt⟩, exact⟩
  · rintro ⟨h, exact⟩
    have hlt : (n : Int) < addressSpace := exact ▸ h.bytes_fit
    exact .size h.nonneg h.fits (Int.ofNat_lt.1 hlt) exact

/-- **Well-formed shapes** are those that have a size. -/
theorem wellFormed_iff : shape.WellFormed t ↔ ∃ n, shape.denseByteLength t = .ok n := by
  simp only [denseByteLength_eq_iff, measured_ok_iff]
  constructor
  · intro h
    have hbytes : 0 ≤ shape.exactCount * t.width :=
      Int.mul_nonneg (exactCount_nonneg h.nonneg) (Int.natCast_nonneg _)
    exact ⟨_, h, Int.toNat_of_nonneg hbytes⟩
  · rintro ⟨n, h, -⟩
    exact h

end Shape

/-! ## Tensors of scalars -/

namespace Tensor

open Shape (WellFormed measured_ok_iff)

variable {t : ElementType} {shape : Shape} {values : List (Scalar t)} {tensor : Tensor}

/-- A tensor of scalars is in order if its shape asks for as many. -/
lemma validate_ofScalars_iff : (ofScalars t shape values).validate = .ok () ↔
    shape.WellFormed t ∧ shape.exactCount = values.length := by
  have hwidth : (t.width : Int) ≠ 0 := Int.natCast_ne_zero.2 t.width_pos.ne'
  rw [ofScalars, validate_ok_iff_measured, length_bytesOfScalars, measured_ok_iff, Nat.cast_mul,
    Int.mul_eq_mul_right_iff hwidth, eq_comm]

lemma fromValues_eq_ok_iff_validate : fromValues t shape values = .ok tensor ↔
    (ofScalars t shape values).validate = .ok () ∧ ofScalars t shape values = tensor := by
  unfold fromValues
  rcases h : (ofScalars t shape values).validate with e | _ <;> simp [h]

/-- **Making a tensor of scalars** succeeds if the shape asks for as many. -/
theorem fromValues_eq_ok_iff : fromValues t shape values = .ok tensor ↔
    (shape.WellFormed t ∧ shape.exactCount = values.length) ∧
      ofScalars t shape values = tensor := by
  rw [fromValues_eq_ok_iff_validate, validate_ofScalars_iff]

lemma toValues_ofScalars (values : List (Scalar t)) :
    (ofScalars t shape values).toValues t = .ok values :=
  (if_pos rfl).trans (congrArg Except.ok (scalarsOfBytes_bytesOfScalars values))

lemma toValues_of_ne (h : t ≠ tensor.elementType) :
    tensor.toValues t = .error (.elementTypeMismatch tensor.elementType t) :=
  if_neg h

/-- **A tensor in order** is made of the scalars it stores. -/
theorem exists_ofScalars (h : tensor.validate = .ok ()) :
    ∃ values, tensor.toValues tensor.elementType = .ok values ∧
      ofScalars tensor.elementType tensor.shape values = tensor := by
  obtain ⟨values, rest, hholds⟩ := tensor.exists_holds
  obtain rfl := hholds.rest_eq_nil_iff.2 (dvd_of_validate h)
  refine ⟨values, hholds.agrees.toValues_eq, ?_⟩
  rw [ofScalars, ← List.append_nil (bytesOfScalars _ _), ← hholds.data_eq]

/-- **Typed values, there and back.**  Scalars of a type make a tensor just if the shape is well
formed and asks for as many.  The tensor has the type and the shape, gives back the same scalars,
bit for bit, and refuses every other type, of whatever width.  And the scalars of a tensor that is
in order make the same tensor again. -/
theorem typed_values :
    (∀ (t : ElementType) (shape : Shape) (values : List (Scalar t)),
      (∃ tensor, fromValues t shape values = .ok tensor) ↔
        shape.WellFormed t ∧ shape.exactCount = values.length) ∧
    (∀ (t : ElementType) (shape : Shape) (values : List (Scalar t)) (tensor : Tensor),
      fromValues t shape values = .ok tensor →
        tensor.elementType = t ∧ tensor.shape = shape ∧ tensor.validate = .ok () ∧
        tensor.toValues t = .ok values ∧
        ∀ u, u ≠ t → tensor.toValues u = .error (.elementTypeMismatch t u)) ∧
    ∀ tensor : Tensor, tensor.validate = .ok () →
      ∃ values, tensor.toValues tensor.elementType = .ok values ∧
        fromValues tensor.elementType tensor.shape values = .ok tensor := by
  refine ⟨fun t shape values => ?_, fun t shape values tensor h => ?_, fun tensor h => ?_⟩
  · simp only [fromValues_eq_ok_iff, exists_and_left, exists_eq', and_true]
  · obtain ⟨hvalid, rfl⟩ := fromValues_eq_ok_iff_validate.1 h
    exact ⟨rfl, rfl, hvalid, toValues_ofScalars values, fun u hu => toValues_of_ne hu⟩
  · obtain ⟨values, hvalues, htensor⟩ := exists_ofScalars h
    exact ⟨values, hvalues, fromValues_eq_ok_iff_validate.2 ⟨htensor.symm ▸ h, htensor⟩⟩

/-- Two patterns in single precision that are no numbers, the first of them signalling: both come
back, nothing comes back as integers of the same width, and the tensor is made of them again. -/
theorem typed_values_sample :
    (fromValues .f32 [2] [0x7f800001, 0xffc12345] =
        .ok ⟨.f32, [2], [0x01, 0x00, 0x80, 0x7f, 0x45, 0x23, 0xc1, 0xff]⟩ ∧
      toValues ⟨.f32, [2], [0x01, 0x00, 0x80, 0x7f, 0x45, 0x23, 0xc1, 0xff]⟩ .f32 =
        .ok [0x7f800001, 0xffc12345] ∧
      toValues ⟨.f32, [2], [0x01, 0x00, 0x80, 0x7f, 0x45, 0x23, 0xc1, 0xff]⟩ .i32 =
        .error (.elementTypeMismatch .f32 .i32)) ∧
    validate ⟨.f32, [2], [0x01, 0x00, 0x80, 0x7f, 0x45, 0x23, 0xc1, 0xff]⟩ = .ok () ∧
      ∃ values, toValues ⟨.f32, [2], [0x01, 0x00, 0x80, 0x7f, 0x45, 0x23, 0xc1, 0xff]⟩ .f32 =
          .ok values ∧
        fromValues .f32 [2] values =
          .ok ⟨.f32, [2], [0x01, 0x00, 0x80, 0x7f, 0x45, 0x23, 0xc1, 0xff]⟩ := by
  obtain ⟨-, hfrom, hback⟩ := typed_values
  have hmade : fromValues .f32 [2] [0x7f800001, 0xffc12345] =
      .ok ⟨.f32, [2], [0x01, 0x00, 0x80, 0x7f, 0x45, 0x23, 0xc1, 0xff]⟩ := by decide
  obtain ⟨-, -, hvalid, hvalues, hother⟩ := hfrom _ _ _ _ hmade
  exact ⟨⟨hmade, hvalues, hother .i32 (by decide)⟩, hvalid, hback _ hvalid⟩

end Tensor

end TensorBridge
