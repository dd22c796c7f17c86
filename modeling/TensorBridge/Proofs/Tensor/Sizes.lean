import Mathlib
import TensorBridge.Tensor

/-!
# Sizes of shapes

Dimensions are multiplied from left to right, and the product must stay in the address space all the
way.  What comes out is compared here with the products of integers (`Shape.exactCount`), which know
of no limit.

* `Shape.Measured` tells the outcome for a shape by exact products: the size, the first dimension
  below zero, or that a product leaves the address space.  No shape has two outcomes
  (`Measured.unique`).
* `Shape.measured_multiply` is the step along the dimensions; the outcomes for `Shape.elementCount`
  and `Shape.denseByteLength` follow from it.
* `Tensor.size_arithmetic` says so of both, and what it means for checking a tensor.
-/

namespace TensorBridge

namespace Shape

variable {shape : Shape}

/-! ## Exact products -/

@[simp] lemma exactCount_nil : exactCount [] = 1 := rfl

@[simp] lemma exactCount_cons (d : Int64) (rest : Shape) :
    exactCount (d :: rest) = d.toInt * exactCount rest := rfl

lemma exactCount_eq_prod (shape : Shape) : shape.exactCount = (shape.map Int64.toInt).prod := rfl

lemma exactCount_append (first second : Shape) :
    exactCount (first ++ second) = exactCount first * exactCount second := by
  rw [exactCount_eq_prod, List.map_append, List.prod_append]
  rfl

lemma exactCount_nonneg (nonneg : ∀ d ∈ shape, 0 ≤ d.toInt) : 0 ≤ shape.exactCount :=
  List.prod_nonneg (List.forall_mem_map.2 nonneg)

/-! ## Outcomes -/

/-- The outcome of multiplying the dimensions of a shape and a last factor, told by exact
products. -/
inductive Measured (factor : Nat) (shape : Shape) : Except TensorError Nat → Prop where
  /-- No dimension is below zero and no product leaves the address space: the exact size. -/
  | size {n : Nat} (nonneg : ∀ d ∈ shape, 0 ≤ d.toInt)
      (fits : ∀ k, exactCount (shape.take k) < addressSpace) (lt : n < addressSpace)
      (exact : (n : Int) = shape.exactCount * factor) : Measured factor shape (.ok n)
  /-- A dimension is below zero, none in front of it is, and no product of those leaves the address
  space. -/
  | negative {i : Nat} {d : Int64} (there : shape[i]? = some d) (neg : d.toInt < 0)
      (nonneg : ∀ d ∈ shape.take i, 0 ≤ d.toInt)
      (fits : ∀ k ≤ i, exactCount (shape.take k) < addressSpace) :
      Measured factor shape (.error (.negativeDimension i d))
  /-- The product of dimensions in front of all that are below zero leaves the address space. -/
  | overflow {k : Nat} (nonneg : ∀ d ∈ shape.take k, 0 ≤ d.toInt)
      (le : addressSpace ≤ exactCount (shape.take k)) :
      Measured factor shape (.error (.shapeOverflow shape))
  /-- No dimension is below zero, and the product with the last factor leaves the address space. -/
  | overflowLast (nonneg : ∀ d ∈ shape, 0 ≤ d.toInt)
      (le : addressSpace ≤ shape.exactCount * factor) :
      Measured factor shape (.error (.shapeOverflow shape))

namespace Measured

variable {factor i k n : Nat} {d : Int64} {r r' : Except TensorError Nat}

lemma mem_of_nonneg (there : shape[i]? = some d) (neg : d.toInt < 0)
    (nonneg : ∀ d ∈ shape, 0 ≤ d.toInt) : False :=
  (nonneg d (List.mem_of_getElem? there)).not_gt neg

/-- A dimension below zero is not among some that are not. -/
lemma le_of_nonneg (there : shape[i]? = some d) (neg : d.toInt < 0)
    (nonneg : ∀ d ∈ shape.take k, 0 ≤ d.toInt) : k ≤ i := by
  by_contra hik
  have hamong : (shape.take k)[i]? = some d := by
    rw [List.getElem?_take_of_lt (not_le.1 hik), there]
  exact mem_of_nonneg hamong neg nonneg

lemma eq_ok (h : Measured factor shape r) (nonneg : ∀ d ∈ shape, 0 ≤ d.toInt)
    (fits : ∀ k, exactCount (shape.take k) < addressSpace) (lt : n < addressSpace)
    (exact : (n : Int) = shape.exactCount * factor) : r = .ok n := by
  cases h with
  | size _ _ _ exact' => rw [Int.ofNat_inj.1 (exact.trans exact'.symm)]
  | negative there neg => exact (mem_of_nonneg there neg nonneg).elim
  | overflow _ le => exact absurd (fits _) le.not_gt
  | overflowLast _ le => omega

lemma eq_negative (h : Measured factor shape r) (there : shape[i]? = some d) (neg : d.toInt < 0)
    (nonneg : ∀ d ∈ shape.take i, 0 ≤ d.toInt)
    (fits : ∀ k ≤ i, exactCount (shape.take k) < addressSpace) :
    r = .error (.negativeDimension i d) := by
  cases h with
  | size nonneg' => exact (mem_of_nonneg there neg nonneg').elim
  | negative there' neg' nonneg' =>
    obtain rfl := le_antisymm (le_of_nonneg there neg nonneg') (le_of_nonneg there' neg' nonneg)
    obtain rfl := Option.some.inj (there.symm.trans there')
    rfl
  | overflow nonneg' le => exact absurd (fits _ (le_of_nonneg there neg nonneg')) le.not_gt
  | overflowLast nonneg' => exact (mem_of_nonneg there neg nonneg').elim

lemma eq_overflow (h : Measured factor shape r)
    (hoverflow : Measured factor shape (.error (.shapeOverflow shape))) :
    r = .error (.shapeOverflow shape) := by
  cases h with
  | size nonneg fits lt exact => exact (hoverflow.eq_ok nonneg fits lt exact).symm
  | negative there neg nonneg fits => exact (hoverflow.eq_negative there neg nonneg fits).symm
  | overflow => rfl
  | overflowLast => rfl

/-- **No shape has two outcomes.** -/
theorem unique (h : Measured factor shape r) (h' : Measured factor shape r') : r = r' := by
  cases h' with
  | size nonneg fits lt exact => exact h.eq_ok nonneg fits lt exact
  | negative there neg nonneg fits => exact h.eq_negative there neg nonneg fits
  | overflow nonneg le => exact h.eq_overflow (.overflow nonneg le)
  | overflowLast nonneg le => exact h.eq_overflow (.overflowLast nonneg le)

end Measured

/-! ## Multiplying -/

/-- **Multiplying the dimensions** behind some that have been multiplied has the outcome of the
whole shape. -/
theorem measured_multiply {done rest : Shape} {count : Nat} (nonneg : ∀ d ∈ done, 0 ≤ d.toInt)
    (fits : ∀ k, exactCount (done.take k) < addressSpace)
    (exact : (count : Int) = done.exactCount) :
    Measured 1 (done ++ rest) (multiply (done ++ rest) done.length count rest) := by
  induction rest generalizing done count with
  | nil =>
    have hlt := fits done.length
    rw [List.take_length, ← exact] at hlt
    rw [List.append_nil, multiply]
    exact .size nonneg fits (Int.ofNat_lt.1 hlt) (by rw [exact, Nat.cast_one, Int.mul_one])
  | cons d rest ih =>
    have hfront {k : Nat} (hk : k ≤ done.length) : (done ++ d :: rest).take k = done.take k :=
      List.take_append_of_le_length hk
    have hmore : done ++ d :: rest = (done ++ [d]) ++ rest := List.append_cons done d rest
    rw [multiply]
    by_cases hneg : d.toInt < 0
    · have there : (done ++ d :: rest)[done.length]? = some d := by simp
      rw [if_pos hneg]
      refine .negative there hneg ?_ fun k hk => ?_
      · rwa [hfront le_rfl, List.take_length]
      · rw [hfront hk]
        exact fits k
    have nonneg' : ∀ x ∈ done ++ [d], 0 ≤ x.toInt := by
      simpa [or_imp, forall_and] using ⟨nonneg, not_lt.1 hneg⟩
    have exact' : ((count * d.toInt.toNat : Nat) : Int) = exactCount (done ++ [d]) := by
      rw [exactCount_append, exactCount_cons, exactCount_nil, Int.mul_one, ← exact, Nat.cast_mul,
        Int.toNat_of_nonneg (not_lt.1 hneg)]
    rw [if_neg hneg]
    by_cases hlt : count * d.toInt.toNat < addressSpace
    -- One more dimension has been multiplied.
    · have fits' : ∀ k, exactCount ((done ++ [d]).take k) < addressSpace := by
        intro k
        rcases le_or_gt k done.length with hk | hk
        · rw [List.take_append_of_le_length hk]
          exact fits k
        · rw [List.take_of_length_le (by simpa using hk), ← exact']
          exact Int.ofNat_lt.2 hlt
      have hnext := ih nonneg' fits' exact'
      rw [if_pos hlt]
      rwa [← hmore, List.length_append] at hnext
    · have hlast : (done ++ d :: rest).take (done ++ [d]).length = done ++ [d] := by
        rw [hmore, List.take_left]
      rw [if_neg hlt]
      refine .overflow (hlast ▸ nonneg') ?_
      rw [hlast, ← exact']
      exact Int.ofNat_le.2 (not_lt.1 hlt)

lemma measured_elementCount (shape : Shape) : Measured 1 shape shape.elementCount := by
  have fits : ∀ k, exactCount (([] : Shape).take k) < addressSpace := by
    intro k
    rw [List.take_nil]
    decide
  exact measured_multiply (List.forall_mem_nil _) fits rfl

/-- **The outcome for the elements** of a shape. -/
theorem elementCount_eq_iff {r : Except TensorError Nat} :
    shape.elementCount = r ↔ Measured 1 shape r :=
  ⟨fun h => h ▸ measured_elementCount shape, fun h => (measured_elementCount shape).unique h⟩

-- What stands further in front counts: an overflow, or a dimension below zero.
example : elementCount [4294967296, 4294967296, -1] =
      .error (.shapeOverflow [4294967296, 4294967296, -1]) ∧
    elementCount [4294967296, -1, 4294967296] = .error (.negativeDimension 1 (-1)) := by decide

lemma measured_denseByteLength (t : ElementType) (shape : Shape) :
    Measured t.width shape (shape.denseByteLength t) := by
  have hcount := measured_elementCount shape
  unfold denseByteLength
  generalize shape.elementCount = r at hcount ⊢
  cases hcount with
  | @size count nonneg fits lt exact =>
    rw [Nat.cast_one, Int.mul_one] at exact
    change Measured t.width shape (if count * t.width < addressSpace then _ else _)
    split_ifs with hlt
    · exact .size nonneg fits hlt (by rw [Nat.cast_mul, exact])
    · refine .overflowLast nonneg ?_
      rw [← exact]
      exact_mod_cast not_lt.1 hlt
  | negative there neg nonneg fits => exact .negative there neg nonneg fits
  | overflow nonneg le => exact .overflow nonneg le
  | overflowLast nonneg le =>
    refine @Measured.overflow _ _ shape.length ?_ ?_
    · rwa [List.take_length]
    · rwa [List.take_length, ← Int.mul_one shape.exactCount]

/-- **The outcome for the bytes** of a dense tensor of the shape. -/
theorem denseByteLength_eq_iff {t : ElementType} {r : Except TensorError Nat} :
    shape.denseByteLength t = r ↔ Measured t.width shape r :=
  ⟨fun h => h ▸ measured_denseByteLength t shape,
    fun h => (measured_denseByteLength t shape).unique h⟩

end Shape

/-! ## Checking tensors -/

namespace Tensor

open Shape (Measured elementCount_eq_iff denseByteLength_eq_iff measured_elementCount
  measured_denseByteLength)

variable {t : ElementType} {shape : Shape} {data : List UInt8}

/-- Checking a tensor compares the size of its shape with the data. -/
lemma validate_eq_of_ok {expected : Nat} (h : shape.denseByteLength t = .ok expected) :
    validate ⟨t, shape, data⟩ = if expected = data.length then .ok ()
      else .error (.byteLengthMismatch expected data.length) := by
  rw [validate, h]
  rfl

lemma validate_eq_of_error {e : TensorError} (h : shape.denseByteLength t = .error e) :
    validate ⟨t, shape, data⟩ = .error e := by
  rw [validate, h]
  rfl

lemma validate_ok_iff_measured :
    validate ⟨t, shape, data⟩ = .ok () ↔ Measured t.width shape (.ok data.length) := by
  rw [← denseByteLength_eq_iff]
  rcases h : shape.denseByteLength t with e | expected
  · simp [validate_eq_of_error h]
  · by_cases heq : expected = data.length <;> simp [validate_eq_of_ok h, heq]

lemma validate_error_iff_measured {e : TensorError} :
    validate ⟨t, shape, data⟩ = .error e ↔ Measured t.width shape (.error e) ∨
      ∃ expected, Measured t.width shape (.ok expected) ∧ expected ≠ data.length ∧
        e = .byteLengthMismatch expected data.length := by
  simp only [← denseByteLength_eq_iff]
  rcases h : shape.denseByteLength t with e' | expected
  · simp [validate_eq_of_error h]
  · by_cases heq : expected = data.length <;> simp [validate_eq_of_ok h, heq, eq_comm]

/-- **Sizes are exact.**  Counting elements and bytes has just the outcomes that the exact products
have, and each shape has exactly one.  So a tensor is in order just if its data have the exact
length, and otherwise it is told what is wrong with the shape, or which length it should have
been. -/
theorem size_arithmetic (t : ElementType) (shape : Shape) :
    (∀ r, shape.elementCount = r ↔ Measured 1 shape r) ∧
    (∀ r, shape.denseByteLength t = r ↔ Measured t.width shape r) ∧
    (∃! r, Measured 1 shape r) ∧ (∃! r, Measured t.width shape r) ∧
    ∀ data : List UInt8,
      (validate ⟨t, shape, data⟩ = .ok () ↔ Measured t.width shape (.ok data.length)) ∧
      ∀ e, validate ⟨t, shape, data⟩ = .error e ↔ Measured t.width shape (.error e) ∨
        ∃ expected, Measured t.width shape (.ok expected) ∧ expected ≠ data.length ∧
          e = .byteLengthMismatch expected data.length :=
  ⟨fun _ => elementCount_eq_iff, fun _ => denseByteLength_eq_iff,
    ⟨_, measured_elementCount shape, fun _ h => h.unique (measured_elementCount shape)⟩,
    ⟨_, measured_denseByteLength t shape, fun _ h => h.unique (measured_denseByteLength t shape)⟩,
    fun _ => ⟨validate_ok_iff_measured, fun _ => validate_error_iff_measured⟩⟩

end Tensor

end TensorBridge
