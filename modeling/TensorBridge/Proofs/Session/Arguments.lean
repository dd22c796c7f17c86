import Mathlib
import TensorBridge.Proofs.Program.Watch
import TensorBridge.Session.Basic

/-!
# Checks of inputs and outputs

What the checks before an invocation say.  They accept inputs that are all well formed, and refuse
others with a failure that names the first one that is not.  What is well formed passes the checks
of outputs as well, so a tensor that is handed over can be read back.
-/

namespace TensorBridge

/-! ## Well-formed tensors -/

namespace Shape

lemma multiply_error {whole shape : Shape} {index count : Nat} {e : TensorError}
    (h : multiply whole index count shape = .error e) :
    (∃ i d, e = .negativeDimension i d) ∨ e = .shapeOverflow whole := by
  induction shape generalizing index count with
  | nil => simp [multiply] at h
  | cons d rest ih =>
    rw [multiply] at h
    split_ifs at h
    · cases h
      exact .inl ⟨index, d, rfl⟩
    · exact ih h
    · cases h
      exact .inr rfl

/-- A product that is there is one of dimensions that are not negative. -/
lemma nonneg_of_multiply {whole shape : Shape} {index count n : Nat}
    (h : multiply whole index count shape = .ok n) : ∀ d ∈ shape, 0 ≤ d.toInt := by
  induction shape generalizing index count with
  | nil => simp
  | cons d rest ih =>
    rw [multiply] at h
    split_ifs at h with hneg
    exact List.forall_mem_cons.2 ⟨not_lt.1 hneg, ih h⟩

end Shape

namespace Tensor

lemma validate_eq (t : Tensor) :
    t.validate = match Shape.multiply t.shape 0 1 t.shape with
      | .error e => .error e
      | .ok count =>
        if count * t.elementType.width < addressSpace then
          if count * t.elementType.width = t.data.length then .ok ()
          else .error (.byteLengthMismatch (count * t.elementType.width) t.data.length)
        else .error (.shapeOverflow t.shape) := by
  simp only [validate, Shape.denseByteLength, Shape.elementCount, bind, Except.bind]
  cases Shape.multiply t.shape 0 1 t.shape with
  | error e => rfl
  | ok count => by_cases h : count * t.elementType.width < addressSpace <;> simp [h]

/-- A tensor is well formed if its data are as long as type and shape ask for. -/
lemma validate_eq_ok_iff {t : Tensor} :
    t.validate = .ok () ↔ ∃ count, t.shape.elementCount = .ok count ∧
      count * t.elementType.width < addressSpace ∧
        t.data.length = count * t.elementType.width := by
  rw [validate_eq, ← Shape.elementCount]
  constructor
  · intro h
    rcases hcount : t.shape.elementCount with e | count
    · rw [hcount] at h
      cases h
    · rw [hcount] at h
      dsimp only at h
      split_ifs at h with hlt heq
      exact ⟨count, rfl, hlt, heq.symm⟩
  · rintro ⟨count, hcount, hlt, hlength⟩
    rw [hcount]
    dsimp only
    rw [if_pos hlt, if_pos hlength.symm]

/-- The dimensions of a well-formed tensor are not negative. -/
lemma nonneg_of_validate {t : Tensor} (h : t.validate = .ok ()) : ∀ d ∈ t.shape, 0 ≤ d.toInt := by
  rw [validate_eq] at h
  rcases hcount : Shape.multiply t.shape 0 1 t.shape with e | count
  · simp [hcount] at h
  · exact Shape.nonneg_of_multiply hcount

/-- What is wrong with a tensor is never its element type. -/
lemma ofTensorError_validate {t : Tensor} {e : TensorError} (h : t.validate = .error e) :
    BridgeError.ofTensorError e = .invalidArgument "tensor" e.message := by
  rw [validate_eq] at h
  rcases hcount : Shape.multiply t.shape 0 1 t.shape with e' | count
  · rw [hcount] at h
    cases h
    rcases Shape.multiply_error hcount with ⟨i, d, rfl⟩ | rfl <;> rfl
  · rw [hcount] at h
    dsimp only at h
    split_ifs at h <;> cases h <;> rfl

end Tensor

/-! ## Element types -/

namespace ElementType

lemma ofNative?_eq_some_iff {code : UInt32} {t : ElementType} :
    ofNative? code = some t ↔ t.toNative = code := by
  constructor
  · intro h
    simpa using List.find?_some h
  · rintro rfl
    exact ofNative?_toNative t

lemma ofNative?_eq_none_iff {code : UInt32} :
    ofNative? code = none ↔ ∀ t : ElementType, t.toNative ≠ code := by
  simp [ofNative?, mem_all]

end ElementType

/-! ## Inputs -/

namespace Marshal

/-- What is wrong with an input that has a position. -/
def faultOf (input : Tensor × Nat) : Option (Nat × TensorError) :=
  match input.1.validate with
  | .ok () => none
  | .error e => some (input.2, e)

/-- The first input that is not well formed: its position and what is wrong with it. -/
def firstFault (inputs : List Tensor) : Option (Nat × TensorError) :=
  inputs.zipIdx.findSome? faultOf

/-- The failure that an input at fault amounts to. -/
def refusal (fault : Nat × TensorError) : BridgeError :=
  .invalidArgument s!"inputs[{fault.1}]" fault.2.message

lemma validateFrom_eq (index : Nat) (inputs : List Tensor) :
    validateFrom index inputs =
      match (inputs.zipIdx index).findSome? faultOf with
      | none => .ok ()
      | some fault => .error (refusal fault) := by
  induction inputs generalizing index with
  | nil => rfl
  | cons tensor rest ih =>
    rw [validateFrom, List.zipIdx_cons, List.findSome?_cons]
    rcases hvalid : tensor.validate with e | ⟨⟩
    · simp [faultOf, hvalid, Tensor.ofTensorError_validate hvalid, refusal]
    · simp [faultOf, hvalid, ih]

/-- **The check of the inputs** finds the first one at fault. -/
theorem validateInputs_eq (inputs : List Tensor) :
    validateInputs inputs =
      match firstFault inputs with
      | none => .ok ()
      | some fault => .error (refusal fault) :=
  validateFrom_eq 0 inputs

lemma validate_of_firstFault_eq_none {inputs : List Tensor} (h : firstFault inputs = none) :
    ∀ t ∈ inputs, t.validate = .ok () := by
  intro t ht
  obtain ⟨i, hi⟩ := List.mem_iff_getElem?.1 ht
  have hmem : (t, i) ∈ inputs.zipIdx := List.mk_mem_zipIdx_iff_getElem?.2 hi
  have hnone := List.findSome?_eq_none_iff.1 h (t, i) hmem
  rcases hvalid : t.validate with e | ⟨⟩
  · simp [faultOf, hvalid] at hnone
  · rfl

lemma validateFrom_eq_ok_iff {index : Nat} {inputs : List Tensor} :
    validateFrom index inputs = .ok () ↔ ∀ t ∈ inputs, t.validate = .ok () := by
  induction inputs generalizing index with
  | nil => simp [validateFrom]
  | cons tensor rest ih =>
    rw [validateFrom, List.forall_mem_cons]
    rcases hvalid : tensor.validate with e | ⟨⟩
    · simp [Tensor.ofTensorError_validate hvalid]
    · simp [ih]

lemma valid_of_validateInputs {inputs : List Tensor} (h : validateInputs inputs = .ok ()) :
    ∀ t ∈ inputs, t.validate = .ok () := validateFrom_eq_ok_iff.1 h

lemma validateFrom_eq_error_iff {index : Nat} {inputs : List Tensor} {e : BridgeError} :
    validateFrom index inputs = .error e ↔
      ∃ before t after fault, inputs = before ++ t :: after ∧
        (∀ b ∈ before, b.validate = .ok ()) ∧ t.validate = .error fault ∧
          e = refusal (index + before.length, fault) := by
  induction inputs generalizing index with
  | nil => simp [validateFrom]
  | cons tensor rest ih =>
    rw [validateFrom]
    rcases hvalid : tensor.validate with fault | ⟨⟩
    · simp only [Tensor.ofTensorError_validate hvalid]
      constructor
      · intro h
        cases h
        exact ⟨[], tensor, rest, fault, rfl, List.forall_mem_nil _, hvalid, rfl⟩
      · rintro ⟨before, t, after, fault', hinputs, hbefore, ht, rfl⟩
        cases before with
        | nil =>
          obtain ⟨rfl, -⟩ := List.cons_eq_cons.1 hinputs
          cases hvalid.symm.trans ht
          rfl
        | cons first before =>
          obtain ⟨rfl, -⟩ := List.cons_eq_cons.1 hinputs
          cases hvalid.symm.trans (hbefore _ List.mem_cons_self)
    · simp only [ih]
      constructor
      · rintro ⟨before, t, after, fault, rfl, hbefore, ht, rfl⟩
        refine ⟨tensor :: before, t, after, fault, rfl, ?_, ht, ?_⟩
        · exact List.forall_mem_cons.2 ⟨hvalid, hbefore⟩
        · rw [List.length_cons, Nat.add_right_comm, Nat.add_assoc]
      · rintro ⟨before, t, after, fault, hinputs, hbefore, ht, rfl⟩
        cases before with
        | nil =>
          obtain ⟨rfl, -⟩ := List.cons_eq_cons.1 hinputs
          cases hvalid.symm.trans ht
        | cons first before =>
          obtain ⟨rfl, hrest⟩ := List.cons_eq_cons.1 hinputs
          refine ⟨before, t, after, fault, hrest, (List.forall_mem_cons.1 hbefore).2, ht, ?_⟩
          rw [List.length_cons, Nat.add_right_comm, Nat.add_assoc]

/-! ## Outputs -/

/-- A dimension that is not negative is the same number without a sign. -/
lemma toNat_toUInt64 {d : Int64} (h : 0 ≤ d.toInt) : (d.toUInt64.toNat : Int) = d.toInt := by
  have hcond := BitVec.toInt_eq_toNat_cond d.toBitVec
  have hlt := d.toBitVec.isLt
  have hint : d.toInt = d.toBitVec.toInt := rfl
  have hnat : d.toUInt64.toNat = d.toBitVec.toNat := rfl
  rw [hint] at h
  rw [hnat, hint, hcond]
  rw [hcond] at h
  split_ifs at h ⊢ with hsmall
  · rfl
  · omega

lemma length_nativeDims (shape : Shape) : (nativeDims shape).length = shape.length := by
  rw [nativeDims, Dims.toList_ofShape, List.length_map]

/-- A dimension that is not too large keeps its value. -/
lemma toInt_ofNat_of_le {d : UInt64} (h : d.toNat ≤ dimensionLimit) :
    (Int64.ofNat d.toNat).toInt = d.toNat :=
  Int64.toInt_ofNat_of_lt (Nat.lt_of_le_pred (by decide) h)

lemma hostDims_eq_ok_iff {index : Nat} {dims : List UInt64} {shape : Shape} :
    hostDims index dims = .ok shape ↔
      (∀ d ∈ dims, d.toNat ≤ dimensionLimit) ∧
        shape.map Int64.toInt = dims.map fun d => (d.toNat : Int) := by
  induction dims generalizing shape with
  | nil => simp [hostDims, eq_comm]
  | cons d rest ih =>
    rw [hostDims, List.forall_mem_cons]
    split_ifs with hd
    · constructor
      · intro h
        rcases hrest : hostDims index rest with e | later
        · rw [hrest] at h
          cases h
        · rw [hrest] at h
          cases h
          obtain ⟨hle, hmap⟩ := ih.1 hrest
          exact ⟨⟨hd, hle⟩, by rw [List.map_cons, List.map_cons, toInt_ofNat_of_le hd, hmap]⟩
      · rintro ⟨⟨-, hle⟩, hmap⟩
        cases shape with
        | nil => cases hmap
        | cons first later =>
          obtain ⟨hfirst, hlater⟩ := List.cons_eq_cons.1 hmap
          rw [ih.2 ⟨hle, hlater⟩]
          have hsame : Int64.ofNat d.toNat = first := by
            rw [← Int64.toInt_inj, toInt_ofNat_of_le hd, hfirst]
          rw [← hsame]
          rfl
    · constructor
      · intro h
        cases h
      · rintro ⟨⟨hle, -⟩, -⟩
        exact absurd hle hd

lemma exists_hostDims (index : Nat) {dims : List UInt64}
    (h : ∀ d ∈ dims, d.toNat ≤ dimensionLimit) : ∃ shape, hostDims index dims = .ok shape := by
  refine ⟨dims.map fun d => Int64.ofNat d.toNat, hostDims_eq_ok_iff.2 ⟨h, ?_⟩⟩
  rw [List.map_map]
  exact List.map_congr_left fun d hd => toInt_ofNat_of_le (h d hd)

lemma hostDims_eq_error_iff {index : Nat} {dims : List UInt64} {e : BridgeError} :
    hostDims index dims = .error e ↔
      ∃ before d after, dims = before ++ d :: after ∧
        (∀ b ∈ before, b.toNat ≤ dimensionLimit) ∧ dimensionLimit < d.toNat ∧
          e = .resourceExhausted s!"output {index} dimension {d.toNat} exceeds i64" := by
  induction dims with
  | nil => simp [hostDims]
  | cons d rest ih =>
    rw [hostDims]
    split_ifs with hd
    · constructor
      · intro h
        rcases hrest : hostDims index rest with e' | later
        · rw [hrest] at h
          cases h
          obtain ⟨before, d', after, rfl, hbefore, hd', rfl⟩ := ih.1 hrest
          exact ⟨d :: before, d', after, rfl, List.forall_mem_cons.2 ⟨hd, hbefore⟩, hd', rfl⟩
        · rw [hrest] at h
          cases h
      · rintro ⟨before, d', after, hdims, hbefore, hd', rfl⟩
        cases before with
        | nil =>
          obtain ⟨rfl, -⟩ := List.cons_eq_cons.1 hdims
          exact absurd hd (not_le.2 hd')
        | cons first before =>
          obtain ⟨rfl, hrest⟩ := List.cons_eq_cons.1 hdims
          rw [ih.2 ⟨before, d', after, hrest, (List.forall_mem_cons.1 hbefore).2, hd', rfl⟩]
          rfl
    · constructor
      · intro h
        cases h
        exact ⟨[], d, rest, rfl, List.forall_mem_nil _, not_le.1 hd, rfl⟩
      · rintro ⟨before, d', after, hdims, hbefore, hd', rfl⟩
        cases before with
        | nil =>
          obtain ⟨rfl, -⟩ := List.cons_eq_cons.1 hdims
          rfl
        | cons first before =>
          obtain ⟨rfl, -⟩ := List.cons_eq_cons.1 hdims
          exact absurd (hbefore d List.mem_cons_self) hd

/-- The dimensions that were handed over come back as they were. -/
lemma hostDims_nativeDims {index : Nat} {shape : Shape} (h : ∀ d ∈ shape, 0 ≤ d.toInt) :
    hostDims index (nativeDims shape) = .ok shape := by
  rw [nativeDims, Dims.toList_ofShape, hostDims_eq_ok_iff, List.map_map, List.forall_mem_map]
  refine ⟨fun d hd => ?_, List.map_congr_left fun d hd => ?_⟩
  · have hsame := toNat_toUInt64 (h d hd)
    have hlt := d.toInt_lt
    have hbound : d.toUInt64.toNat < 2 ^ 63 := by omega
    exact Nat.le_pred_of_lt hbound
  · exact (toNat_toUInt64 (h d hd)).symm

/-- A check that needs no operation. -/
lemma liftExcept_meets {σ α : Type} {W : Watch Backend σ} {s : σ}
    {r : Except BridgeError α} {ok : α → σ → Prop} {bad : BridgeError → σ → Prop}
    (hok : ∀ a, r = .ok a → ok a s) (hbad : ∀ e, r = .error e → bad e s) :
    (readOutput.liftExcept r).Meets W s ok bad := by
  cases r with
  | ok a => exact hok a rfl
  | error e => exact hbad e rfl

/-- A check that is passed. -/
lemma liftExcept_meets_of_ok {σ α : Type} {W : Watch Backend σ} {s : σ}
    {r : Except BridgeError α} {a : α} {ok : α → σ → Prop} {bad : BridgeError → σ → Prop}
    (hr : r = .ok a) (hok : ok a s) : (readOutput.liftExcept r).Meets W s ok bad := by
  subst hr
  exact hok

lemma reserve_of_le {bytes : Nat} {what : String} (h : bytes ≤ allocationLimit) :
    reserve bytes what = .ok () := if_pos h

lemma reserve_eq_error_iff {bytes : Nat} {what : String} {e : BridgeError} :
    reserve bytes what = .error e ↔ allocationLimit < bytes ∧ e = .resourceExhausted what := by
  rw [reserve]
  split_ifs with h
  · simp [not_lt.2 h]
  · simp [not_le.1 h, eq_comm]

lemma reserve_eq_ok_iff {bytes : Nat} {what : String} :
    reserve bytes what = .ok () ↔ bytes ≤ allocationLimit := by
  rw [reserve]
  split_ifs with h <;> simp [h]

lemma decodeElementType_eq_ok_iff {code : UInt32} {t : ElementType} :
    decodeElementType code = .ok t ↔ t.toNative = code := by
  rw [decodeElementType, ← ElementType.ofNative?_eq_some_iff]
  cases ElementType.ofNative? code <;> simp

lemma decodeElementType_eq_error_iff {code : UInt32} {e : BridgeError} :
    decodeElementType code = .error e ↔
      (∀ t : ElementType, t.toNative ≠ code) ∧
        e = .unsupportedElementType (Int64.ofNat code.toNat) := by
  rw [decodeElementType, ← ElementType.ofNative?_eq_none_iff]
  cases ElementType.ofNative? code <;> simp [eq_comm]

lemma decodeElementType_toNative (t : ElementType) : decodeElementType t.toNative = .ok t :=
  decodeElementType_eq_ok_iff.2 rfl

end Marshal

end TensorBridge
