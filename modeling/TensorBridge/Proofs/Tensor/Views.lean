import TensorBridge.Proofs.Tensor.Sizes
import TensorBridge.Proofs.Literal.Scalars

/-!
# The elements of a tensor

The data of a tensor need neither fit its shape nor be made of whole elements.  They store some
scalars, followed by a rest that is too short for one more (`Tensor.Holds`), and the views of a
tensor treat the rest differently: the number of elements and their texts leave it out, the typed
values have one more for it, and a tensor with nothing but a rest is not empty.

* `Tensor.Holds.unique`: elements and rest are determined by the data.
* `Tensor.Agrees`: what it means that all views show the same elements.
* `Tensor.views_agree`: what each view shows of any tensor, and that they agree just if there is no
  rest.
-/

namespace TensorBridge

namespace Tensor

variable {tensor : Tensor} {elements elements' : List (Scalar tensor.elementType)}
  {rest rest' : List UInt8}

/-! ## Elements and rest -/

/-- The data store the elements, followed by a rest that is too short for one more. -/
structure Holds (tensor : Tensor) (elements : List (Scalar tensor.elementType))
    (rest : List UInt8) : Prop where
  /-- The elements come first, the rest behind them. -/
  data_eq : tensor.data = bytesOfScalars tensor.elementType elements ++ rest
  /-- The rest is shorter than an element. -/
  rest_lt : rest.length < tensor.elementType.width

lemma exists_holds (tensor : Tensor) : ∃ elements rest, tensor.Holds elements rest := by
  obtain ⟨elements, rest, hdata, hlt⟩ := exists_scalars_append tensor.elementType tensor.data
  exact ⟨elements, rest, hdata, hlt⟩

/-- What typed access makes of a rest: nothing of no bytes, otherwise one scalar, with zeros for the
bytes that are missing. -/
def padded (t : ElementType) (rest : List UInt8) : List (Scalar t) :=
  if rest = [] then [] else [Scalar.ofBytes t rest]

lemma padded_eq_nil_iff {t : ElementType} : padded t rest = [] ↔ rest = [] := by
  unfold padded
  split_ifs with h <;> simp [h]

lemma scalarsOfBytes_rest {t : ElementType} (hlt : rest.length < t.width) :
    scalarsOfBytes t rest = padded t rest := by
  unfold padded
  split_ifs with hnil
  · rw [hnil, scalarsOfBytes_nil]
  · exact scalarsOfBytes_of_lt hnil hlt

namespace Holds

lemma byteLength_eq (h : tensor.Holds elements rest) :
    tensor.byteLength = elements.length * tensor.elementType.width + rest.length := by
  rw [byteLength, h.data_eq, List.length_append, length_bytesOfScalars]

/-- The number of elements leaves out the rest. -/
lemma length_eq (h : tensor.Holds elements rest) : tensor.length = elements.length := by
  rw [length, ← byteLength, h.byteLength_eq, Nat.mul_comm,
    Nat.mul_add_div tensor.elementType.width_pos, Nat.div_eq_of_lt h.rest_lt, Nat.add_zero]

/-- The texts leave out the rest. -/
lemma valueTexts_eq (h : tensor.Holds elements rest) :
    tensor.valueTexts = elements.map (Scalar.display tensor.elementType) := by
  rw [valueTexts, h.data_eq, wholePieces_append, wholePieces_of_lt h.rest_lt, List.append_nil,
    List.map_map]
  exact List.map_congr_left fun s _ =>
    congrArg (Scalar.display tensor.elementType) (Scalar.ofBytes_toBytes s)

/-- The typed values pad the rest. -/
lemma toValues_eq (h : tensor.Holds elements rest) :
    tensor.toValues tensor.elementType = .ok (elements ++ padded tensor.elementType rest) := by
  rw [toValues, if_pos rfl, h.data_eq, scalarsOfBytes_append, scalarsOfBytes_rest h.rest_lt]

lemma byteLength_eq_zero_iff (h : tensor.Holds elements rest) :
    tensor.byteLength = 0 ↔ elements = [] ∧ rest = [] := by
  rw [h.byteLength_eq, Nat.add_eq_zero_iff, Nat.mul_eq_zero,
    or_iff_left tensor.elementType.width_pos.ne', List.length_eq_zero_iff, List.length_eq_zero_iff]

/-- A rest is something. -/
lemma isEmpty_iff (h : tensor.Holds elements rest) :
    tensor.isEmpty = true ↔ elements = [] ∧ rest = [] := by
  rw [isEmpty, List.isEmpty_iff, ← h.byteLength_eq_zero_iff, byteLength, List.length_eq_zero_iff]

lemma rest_eq_nil_iff (h : tensor.Holds elements rest) :
    rest = [] ↔ tensor.elementType.width ∣ tensor.byteLength := by
  rw [h.byteLength_eq, Nat.dvd_add_right (Nat.dvd_mul_left _ _), ← List.length_eq_zero_iff]
  exact ⟨fun hzero => hzero ▸ Nat.dvd_zero _, fun hdvd => Nat.eq_zero_of_dvd_of_lt hdvd h.rest_lt⟩

/-- **Elements and rest** are determined by the data. -/
theorem unique (h : tensor.Holds elements rest) (h' : tensor.Holds elements' rest') :
    elements = elements' ∧ rest = rest' := by
  have hlength : elements.length = elements'.length := h.length_eq.symm.trans h'.length_eq
  have hbytes : (bytesOfScalars _ elements).length = (bytesOfScalars _ elements').length := by
    rw [length_bytesOfScalars, length_bytesOfScalars, hlength]
  obtain ⟨helements, hrest⟩ := List.append_inj (h.data_eq.symm.trans h'.data_eq) hbytes
  refine ⟨?_, hrest⟩
  rw [← scalarsOfBytes_bytesOfScalars elements, helements, scalarsOfBytes_bytesOfScalars]

end Holds

/-! ## Agreement -/

/-- All views of a tensor show the same elements. -/
structure Agrees (tensor : Tensor) (values : List (Scalar tensor.elementType)) : Prop where
  /-- They are the typed values. -/
  toValues_eq : tensor.toValues tensor.elementType = .ok values
  /-- The number of elements counts them. -/
  length_eq : tensor.length = values.length
  /-- The texts show them. -/
  valueTexts_eq : tensor.valueTexts = values.map (Scalar.display tensor.elementType)
  /-- The tensor is empty if there are none. -/
  isEmpty_iff : tensor.isEmpty = true ↔ tensor.length = 0

/-- Without a rest all views agree. -/
lemma Holds.agrees (h : tensor.Holds elements []) : tensor.Agrees elements where
  toValues_eq := by rw [h.toValues_eq, padded, if_pos rfl, List.append_nil]
  length_eq := h.length_eq
  valueTexts_eq := h.valueTexts_eq
  isEmpty_iff := by rw [h.isEmpty_iff, h.length_eq, List.length_eq_zero_iff, and_iff_left rfl]

/-- With a rest the typed values are too many. -/
lemma Agrees.rest_eq_nil {values : List (Scalar tensor.elementType)}
    (hagrees : tensor.Agrees values)
    (h : tensor.Holds elements rest) : rest = [] := by
  obtain rfl := Except.ok.inj (h.toValues_eq.symm.trans hagrees.toValues_eq)
  have hlength := h.length_eq.symm.trans hagrees.length_eq
  rw [List.length_append, Nat.left_eq_add, List.length_eq_zero_iff, padded_eq_nil_iff] at hlength
  exact hlength

/-- All views agree just if the data are made of whole elements. -/
lemma exists_agrees_iff (tensor : Tensor) :
    (∃ values, tensor.Agrees values) ↔ tensor.elementType.width ∣ tensor.byteLength := by
  obtain ⟨elements, rest, h⟩ := tensor.exists_holds
  rw [← h.rest_eq_nil_iff]
  constructor
  · rintro ⟨values, hagrees⟩
    exact hagrees.rest_eq_nil h
  · rintro rfl
    exact ⟨elements, h.agrees⟩

/-- Emptiness fits the number of elements, unless there is only a rest. -/
lemma isEmpty_agrees_iff (tensor : Tensor) : (tensor.isEmpty = true ↔ tensor.length = 0) ↔
    tensor.byteLength = 0 ∨ tensor.elementType.width ≤ tensor.byteLength := by
  rw [isEmpty, List.isEmpty_iff, ← List.length_eq_zero_iff, length, Nat.div_eq_zero_iff,
    or_iff_right tensor.elementType.width_pos.ne', byteLength]
  have hwidth := tensor.elementType.width_pos
  omega

/-- A tensor in order is made of whole elements. -/
lemma dvd_of_validate (h : tensor.validate = .ok ()) :
    tensor.elementType.width ∣ tensor.byteLength := by
  cases validate_ok_iff_measured.1 h with
  | size _ _ _ exact => exact Int.natCast_dvd_natCast.1 ⟨_, exact.trans (Int.mul_comm _ _)⟩

/-- A tensor that has been read is made of whole elements. -/
lemma dvd_of_parse {input : String} (h : parse input = .ok tensor) :
    tensor.elementType.width ∣ tensor.byteLength := by
  obtain ⟨l, -, hdenotes⟩ := exists_layout_of_parse h
  obtain ⟨scalars, -, hdata⟩ := hdenotes.data_eq
  rw [byteLength, hdata, length_bytesOfScalars, hdenotes.elementType_eq]
  exact Nat.dvd_mul_left _ _

/-- **The views of a tensor.**  Whatever its data are, the number of elements counts the whole ones
and the texts show these, the typed values are the same and perhaps one more, made of the rest, and
the tensor is empty without either.  So the texts always are as many as the elements; all views
agree just if there is no rest, and emptiness fits the number of elements unless there is only a
rest.  Tensors that are in order and tensors that have been read have no rest. -/
theorem views_agree (tensor : Tensor) :
    (∃ elements rest, tensor.Holds elements rest ∧ tensor.length = elements.length ∧
      tensor.valueTexts = elements.map (Scalar.display tensor.elementType) ∧
      tensor.toValues tensor.elementType = .ok (elements ++ padded tensor.elementType rest) ∧
      (tensor.isEmpty = true ↔ elements = [] ∧ rest = [])) ∧
    tensor.valueTexts.length = tensor.length ∧
    ((∃ values, tensor.Agrees values) ↔ tensor.elementType.width ∣ tensor.byteLength) ∧
    ((tensor.isEmpty = true ↔ tensor.length = 0) ↔
      tensor.byteLength = 0 ∨ tensor.elementType.width ≤ tensor.byteLength) ∧
    (tensor.validate = .ok () → ∃ values, tensor.Agrees values) ∧
    ∀ input, parse input = .ok tensor → ∃ values, tensor.Agrees values := by
  obtain ⟨elements, rest, h⟩ := tensor.exists_holds
  have hagrees := tensor.exists_agrees_iff
  refine ⟨⟨elements, rest, h, h.length_eq, h.valueTexts_eq, h.toValues_eq, h.isEmpty_iff⟩, ?_,
    hagrees, tensor.isEmpty_agrees_iff, fun hvalid => hagrees.2 (dvd_of_validate hvalid),
    fun _ hparse => hagrees.2 (dvd_of_parse hparse)⟩
  rw [h.valueTexts_eq, List.length_map, h.length_eq]

/-- Two integers: in order, read, and the same in all views. -/
theorem views_agree_sample :
    (validate ⟨.i32, [2], [1, 0, 0, 0, 2, 0, 0, 0]⟩ = .ok () ∧
      ∃ values, Agrees ⟨.i32, [2], [1, 0, 0, 0, 2, 0, 0, 0]⟩ values) ∧
    parse "2xi32=1 2" = .ok ⟨.i32, [2], [1, 0, 0, 0, 2, 0, 0, 0]⟩ ∧
      ∃ values, Agrees ⟨.i32, [2], [1, 0, 0, 0, 2, 0, 0, 0]⟩ values := by
  obtain ⟨-, -, -, -, hvalid, hread⟩ := views_agree ⟨.i32, [2], [1, 0, 0, 0, 2, 0, 0, 0]⟩
  have horder : validate ⟨.i32, [2], [1, 0, 0, 0, 2, 0, 0, 0]⟩ = .ok () := by decide
  have hparse : parse "2xi32=1 2" = .ok ⟨.i32, [2], [1, 0, 0, 0, 2, 0, 0, 0]⟩ := by decide +kernel
  exact ⟨⟨horder, hvalid horder⟩, hparse, hread _ hparse⟩

/-- One byte is no element, and yet the tensor is not empty; of five bytes there is one element, and
there are two typed values. -/
theorem views_disagree :
    (length ⟨.i32, [], [1]⟩ = 0 ∧ valueTexts ⟨.i32, [], [1]⟩ = [] ∧
      isEmpty ⟨.i32, [], [1]⟩ = false ∧
      toValues ⟨.i32, [], [1]⟩ .i32 = .ok [1]) ∧
    length ⟨.i32, [1], [7, 0, 0, 0, 1]⟩ = 1 ∧ valueTexts ⟨.i32, [1], [7, 0, 0, 0, 1]⟩ = ["7"] ∧
      toValues ⟨.i32, [1], [7, 0, 0, 0, 1]⟩ .i32 = .ok [7, 1] := by
  refine ⟨⟨?_, ?_, ?_, ?_⟩, ?_, ?_, ?_⟩ <;> decide +kernel

end Tensor

end TensorBridge
