import TensorBridge.Literal
import TensorBridge.Proofs.Tensor.Sizes

/-!
# Overflow and the order of dimensions

A product that passes through numbers beyond the address space is refused, even if a zero further on
would bring it back.  So whether a shape with a zero overflows depends on where the zero stands, and
without a zero the order of the dimensions makes no difference.

* `Shape.exactCount_take_le`: the largest of the products on the way is that in front of the first
  zero.
* `Shape.denseByteLength_eq_overflow_iff`: which shapes overflow.
* `Shape.overflow_in_any_order`: for which shapes all orders of the dimensions are treated alike,
  also in literals, and what happens to the others.
-/

namespace TensorBridge

namespace Shape

variable {t : ElementType} {shape shape' : Shape}

/-! ## Zeros -/

/-- The dimensions in front of the first zero. -/
def beforeZero (shape : Shape) : Shape := shape.takeWhile (· ≠ 0)

/-- The dimensions that are not zero. -/
def withoutZeros (shape : Shape) : Shape := shape.filter (· ≠ 0)

/-- The dimensions can be multiplied in any order: if there is a zero among them, the product of the
others stays in the address space. -/
def Steady (shape : Shape) : Prop := 0 ∈ shape → shape.withoutZeros.exactCount < addressSpace

lemma beforeZero_cons {d : Int64} (hd : d ≠ 0) (rest : Shape) :
    beforeZero (d :: rest) = d :: beforeZero rest :=
  List.takeWhile_cons_of_pos (by simpa using hd)

lemma withoutZeros_cons {d : Int64} (hd : d ≠ 0) (rest : Shape) :
    withoutZeros (d :: rest) = d :: withoutZeros rest :=
  List.filter_cons_of_pos (by simpa using hd)

lemma beforeZero_of_notMem (h : 0 ∉ shape) : shape.beforeZero = shape :=
  List.takeWhile_eq_self_iff.2 fun d hd => by simpa using ne_of_mem_of_not_mem hd h

lemma take_length_beforeZero (shape : Shape) :
    shape.take shape.beforeZero.length = shape.beforeZero :=
  (List.prefix_iff_eq_take.1 (List.takeWhile_prefix _)).symm

lemma toInt_pos {d : Int64} (hd : d ≠ 0) (hnonneg : 0 ≤ d.toInt) : 0 < d.toInt := by
  refine lt_of_le_of_ne hnonneg fun h => hd ?_
  exact Int64.toInt_inj.1 (h.symm.trans Int64.toInt_zero.symm)

lemma exactCount_eq_zero (h : 0 ∈ shape) : shape.exactCount = 0 := by
  rw [exactCount_eq_prod, List.prod_eq_zero_iff]
  exact List.mem_map.2 ⟨0, h, Int64.toInt_zero⟩

lemma one_le_withoutZeros (nonneg : ∀ d ∈ shape, 0 ≤ d.toInt) :
    1 ≤ shape.withoutZeros.exactCount := by
  induction shape with
  | nil => exact le_rfl
  | cons d rest ih =>
    obtain ⟨hd, hrest⟩ := List.forall_mem_cons.1 nonneg
    by_cases hzero : d = 0
    · subst hzero
      exact ih hrest
    · rw [withoutZeros_cons hzero, exactCount_cons]
      exact one_le_mul_of_one_le_of_one_le (toInt_pos hzero hd) (ih hrest)

/-- The largest product on the way is that in front of the first zero. -/
lemma exactCount_take_le (nonneg : ∀ d ∈ shape, 0 ≤ d.toInt) (k : Nat) :
    exactCount (shape.take k) ≤ shape.beforeZero.exactCount := by
  induction shape generalizing k with
  | nil => rw [List.take_nil]; rfl
  | cons d rest ih =>
    obtain ⟨hd, hrest⟩ := List.forall_mem_cons.1 nonneg
    by_cases hzero : d = 0
    · subst hzero
      cases k with
      | zero => exact le_rfl
      | succ k =>
        rw [List.take_succ_cons, exactCount_eq_zero List.mem_cons_self]
        exact zero_le_one
    · rw [beforeZero_cons hzero, exactCount_cons]
      cases k with
      | zero => exact one_le_mul_of_one_le_of_one_le (toInt_pos hzero hd) (ih hrest 0)
      | succ k => exact mul_le_mul_of_nonneg_left (ih hrest k) hd

lemma exactCount_le_beforeZero (nonneg : ∀ d ∈ shape, 0 ≤ d.toInt) :
    shape.exactCount ≤ shape.beforeZero.exactCount := by
  have hle := exactCount_take_le nonneg shape.length
  rwa [List.take_length] at hle

lemma beforeZero_le_withoutZeros (nonneg : ∀ d ∈ shape, 0 ≤ d.toInt) :
    shape.beforeZero.exactCount ≤ shape.withoutZeros.exactCount := by
  induction shape with
  | nil => exact le_rfl
  | cons d rest ih =>
    obtain ⟨hd, hrest⟩ := List.forall_mem_cons.1 nonneg
    by_cases hzero : d = 0
    · subst hzero
      exact one_le_withoutZeros nonneg
    · rw [beforeZero_cons hzero, withoutZeros_cons hzero]
      exact mul_le_mul_of_nonneg_left (ih hrest) hd

/-! ## Which shapes overflow -/

lemma Measured.of_beforeZero {factor : Nat} (nonneg : ∀ d ∈ shape, 0 ≤ d.toInt)
    (hle : addressSpace ≤ shape.beforeZero.exactCount) :
    Measured factor shape (.error (.shapeOverflow shape)) := by
  rw [← take_length_beforeZero] at hle
  exact .overflow (fun d hd => nonneg d (List.mem_of_mem_take hd)) hle

/-- **A shape overflows** if its size leaves the address space, or the product in front of its first
zero does. -/
theorem denseByteLength_eq_overflow_iff (nonneg : ∀ d ∈ shape, 0 ≤ d.toInt) :
    shape.denseByteLength t = .error (.shapeOverflow shape) ↔
      addressSpace ≤ shape.exactCount * t.width ∨ addressSpace ≤ shape.beforeZero.exactCount := by
  rw [denseByteLength_eq_iff]
  constructor
  · intro h
    cases h with
    | overflow _ le => exact .inr (le.trans (exactCount_take_le nonneg _))
    | overflowLast _ le => exact .inl le
  · rintro (h | h)
    · exact .overflowLast nonneg h
    · exact .of_beforeZero nonneg h

lemma denseByteLength_eq_ok_iff (nonneg : ∀ d ∈ shape, 0 ≤ d.toInt) {n : Nat} :
    shape.denseByteLength t = .ok n ↔ (n : Int) = shape.exactCount * t.width ∧ n < addressSpace ∧
      shape.beforeZero.exactCount < addressSpace := by
  rw [denseByteLength_eq_iff]
  constructor
  · intro h
    cases h with
    | size _ fits lt exact => exact ⟨exact, lt, take_length_beforeZero shape ▸ fits _⟩
  · rintro ⟨exact, lt, hbefore⟩
    exact .size nonneg (fun k => (exactCount_take_le nonneg k).trans_lt hbefore) lt exact

lemma elementCount_eq_ok_iff (nonneg : ∀ d ∈ shape, 0 ≤ d.toInt) {n : Nat} :
    shape.elementCount = .ok n ↔
      (n : Int) = shape.exactCount ∧ shape.beforeZero.exactCount < addressSpace := by
  rw [elementCount_eq_iff]
  constructor
  · intro h
    cases h with
    | size _ fits lt exact =>
      rw [Nat.cast_one, Int.mul_one] at exact
      exact ⟨exact, take_length_beforeZero shape ▸ fits _⟩
  · rintro ⟨exact, hbefore⟩
    have hlt := (exactCount_le_beforeZero nonneg).trans_lt hbefore
    rw [← exact] at hlt
    exact .size nonneg (fun k => (exactCount_take_le nonneg k).trans_lt hbefore)
      (Int.ofNat_lt.1 hlt) (by rw [exact, Nat.cast_one, Int.mul_one])

/-! ## Orders of the dimensions -/

lemma nonneg_perm (nonneg : ∀ d ∈ shape, 0 ≤ d.toInt) (h : shape'.Perm shape) :
    ∀ d ∈ shape', 0 ≤ d.toInt := fun d hd => nonneg d (h.mem_iff.1 hd)

lemma exactCount_perm (h : shape'.Perm shape) : shape'.exactCount = shape.exactCount :=
  (h.map _).prod_eq

namespace Steady

lemma perm (hsteady : shape.Steady) (h : shape'.Perm shape) : shape'.Steady := by
  intro hzero
  have hothers : shape'.withoutZeros.Perm shape.withoutZeros := h.filter _
  rw [exactCount_perm hothers]
  exact hsteady (h.mem_iff.1 hzero)

/-- What is in front of a zero does not matter. -/
lemma beforeZero_lt (hsteady : shape.Steady) (nonneg : ∀ d ∈ shape, 0 ≤ d.toInt)
    (hlt : shape.exactCount < addressSpace) : shape.beforeZero.exactCount < addressSpace := by
  by_cases hzero : 0 ∈ shape
  · exact (beforeZero_le_withoutZeros nonneg).trans_lt (hsteady hzero)
  · rwa [beforeZero_of_notMem hzero]

lemma beforeZero_lt_of_size (hsteady : shape.Steady) (nonneg : ∀ d ∈ shape, 0 ≤ d.toInt)
    (hlt : shape.exactCount * t.width < addressSpace) :
    shape.beforeZero.exactCount < addressSpace := by
  have hwidth : (1 : Int) ≤ t.width := Int.ofNat_le.2 t.width_pos
  refine hsteady.beforeZero_lt nonneg (lt_of_le_of_lt ?_ hlt)
  calc shape.exactCount = shape.exactCount * 1 := (Int.mul_one _).symm
    _ ≤ shape.exactCount * t.width :=
      Int.mul_le_mul_of_nonneg_left hwidth (exactCount_nonneg nonneg)

lemma denseByteLength_eq_overflow_iff (hsteady : shape.Steady) (nonneg : ∀ d ∈ shape, 0 ≤ d.toInt) :
    shape.denseByteLength t = .error (.shapeOverflow shape) ↔
      addressSpace ≤ shape.exactCount * t.width := by
  rw [Shape.denseByteLength_eq_overflow_iff nonneg]
  refine or_iff_left_of_imp fun hbefore => not_lt.1 fun hlt => ?_
  exact (hsteady.beforeZero_lt_of_size nonneg hlt).not_ge hbefore

lemma denseByteLength_eq_ok_iff (hsteady : shape.Steady) (nonneg : ∀ d ∈ shape, 0 ≤ d.toInt)
    {n : Nat} : shape.denseByteLength t = .ok n ↔
      (n : Int) = shape.exactCount * t.width ∧ n < addressSpace := by
  rw [Shape.denseByteLength_eq_ok_iff nonneg]
  refine and_congr_right fun hn => and_iff_left_of_imp fun hlt => ?_
  exact hsteady.beforeZero_lt_of_size nonneg (hn ▸ Int.ofNat_lt.2 hlt)

lemma elementCount_eq_ok_iff (hsteady : shape.Steady) (nonneg : ∀ d ∈ shape, 0 ≤ d.toInt)
    {n : Nat} :
    shape.elementCount = .ok n ↔ (n : Int) = shape.exactCount ∧ n < addressSpace := by
  rw [Shape.elementCount_eq_ok_iff nonneg]
  refine and_congr_right fun hn => ⟨fun hbefore => ?_, fun hlt => ?_⟩
  · have hlt := (exactCount_le_beforeZero nonneg).trans_lt hbefore
    exact Int.ofNat_lt.1 (hn ▸ hlt)
  · exact hsteady.beforeZero_lt nonneg (hn ▸ Int.ofNat_lt.2 hlt)

end Steady

/-- With all zeros in front there is nothing to multiply, and with all zeros behind there is the
product of the others. -/
lemma exists_orders (hunsteady : ¬shape.Steady) :
    ∃ front back : Shape, front.Perm shape ∧ back.Perm shape ∧ front.beforeZero = [] ∧
      addressSpace ≤ back.beforeZero.exactCount := by
  obtain ⟨hzero, hle⟩ := Classical.not_imp.1 hunsteady
  have hperm := List.filter_append_perm (fun d : Int64 => d ≠ 0) shape
  obtain ⟨rest, hzeros⟩ : ∃ rest, shape.filter (fun d => !decide (d ≠ 0)) = 0 :: rest := by
    have hmem : 0 ∈ shape.filter fun d => !decide (d ≠ 0) := List.mem_filter.2 ⟨hzero, rfl⟩
    obtain ⟨first, rest, hcons⟩ := List.exists_cons_of_ne_nil (List.ne_nil_of_mem hmem)
    have hfirst := List.mem_filter.1 (hcons ▸ List.mem_cons_self (a := first))
    obtain rfl : first = 0 := by simpa using hfirst.2
    exact ⟨rest, hcons⟩
  rw [hzeros] at hperm
  have hothers : ∀ d ∈ shape.withoutZeros, decide (d ≠ 0) = true := fun d hd =>
    (List.mem_filter.1 hd).2
  have hback : beforeZero (shape.withoutZeros ++ 0 :: rest) = shape.withoutZeros := by
    rw [beforeZero, List.takeWhile_append_of_pos hothers]
    exact List.append_nil _
  refine ⟨_, _, List.perm_append_comm.trans hperm, hperm, rfl, ?_⟩
  exact hback.symm ▸ not_lt.1 hle

end Shape

/-! ## Literals -/

namespace Literal

/-- Values are read if each of them is. -/
lemma exists_readValues_iff {t : ElementType} {texts : List (List Char)} :
    (∃ data, readValues t texts = .ok data) ↔ ∀ text ∈ texts, ∃ s, Scalar.read t text = .ok s := by
  induction texts with
  | nil => exact iff_of_true ⟨[], rfl⟩ (List.forall_mem_nil _)
  | cons text texts ih =>
    rw [List.forall_mem_cons, ← ih, readValues]
    rcases Scalar.read t text with fault | s
    · simp
    · rcases readValues t texts with fault | data <;> simp [Except.map]

end Literal

namespace Tensor

open Literal (scan)

variable {input : String} {t : ElementType} {shape : Shape} {values : List (List Char)}

lemma parse_of_scan (hscan : scan input.toList = .ok ⟨shape, t, values⟩) :
    parse input = shape.elementCount >>= fun count =>
      if values.length ≠ count then
        .error (.literal input (Literal.Fault.count shape count values.length).message)
      else
        match Literal.readValues t values with
        | .error e => .error (.literal input e.message)
        | .ok data => .ok ⟨t, shape, data⟩ := by
  unfold parse
  exact hscan ▸ rfl

/-- A literal is accepted if its shape has a size, there are as many values and all are read. -/
lemma exists_parse_iff (hscan : scan input.toList = .ok ⟨shape, t, values⟩) :
    (∃ tensor, parse input = .ok tensor) ↔ shape.elementCount = .ok values.length ∧
      ∀ text ∈ values, ∃ s, Scalar.read t text = .ok s := by
  rw [parse_of_scan hscan, ← Literal.exists_readValues_iff]
  rcases shape.elementCount with e | count
  · simp [bind, Except.bind]
  · by_cases hcount : values.length = count
    · rcases Literal.readValues t values with e | data <;> simp [bind, Except.bind, hcount]
    · simp [bind, Except.bind, hcount, Ne.symm hcount]

end Tensor

/-! ## Any order -/

namespace Shape

open Literal (scan)

variable {t : ElementType} {shape shape' : Shape}

/-- In a steady shape the dimensions of a literal can be put in any order, with its values in any
order. -/
lemma Steady.exists_parse_iff (hsteady : shape.Steady) (nonneg : ∀ d ∈ shape, 0 ≤ d.toInt)
    (hshape : shape'.Perm shape) {input input' : String} {values values' : List (List Char)}
    (hscan : scan input.toList = .ok ⟨shape, t, values⟩)
    (hscan' : scan input'.toList = .ok ⟨shape', t, values'⟩) (hvalues : values'.Perm values) :
    (∃ tensor, Tensor.parse input' = .ok tensor) ↔ ∃ tensor, Tensor.parse input = .ok tensor := by
  have nonneg' := nonneg_perm nonneg hshape
  rw [Tensor.exists_parse_iff hscan, Tensor.exists_parse_iff hscan',
    hsteady.elementCount_eq_ok_iff nonneg, (hsteady.perm hshape).elementCount_eq_ok_iff nonneg',
    exactCount_perm hshape, hvalues.length_eq]
  simp only [hvalues.mem_iff]

/-- A shape of size zero with nothing in front of its first zero is accepted, and so are its
literals. -/
lemma accepts_of_beforeZero (nonneg : ∀ d ∈ shape, 0 ≤ d.toInt) (hcount : shape.exactCount = 0)
    (hnil : shape.beforeZero = []) : shape.denseByteLength t = .ok 0 ∧
      ∀ input, scan input.toList = .ok ⟨shape, t, []⟩ →
        Tensor.parse input = .ok ⟨t, shape, []⟩ := by
  have hlt : shape.beforeZero.exactCount < addressSpace := by
    rw [hnil]
    decide
  have hnone : shape.elementCount = .ok 0 := by
    rw [elementCount_eq_ok_iff nonneg, hcount]
    exact ⟨rfl, hlt⟩
  constructor
  · rw [denseByteLength_eq_ok_iff nonneg, hcount, Int.zero_mul]
    exact ⟨rfl, by decide, hlt⟩
  · intro input hscan
    rw [Tensor.parse_of_scan hscan, hnone]
    rfl

/-- A shape that overflows in front of its first zero is refused, and so are its literals. -/
lemma refuses_of_beforeZero (nonneg : ∀ d ∈ shape, 0 ≤ d.toInt)
    (hle : addressSpace ≤ shape.beforeZero.exactCount) :
    shape.denseByteLength t = .error (.shapeOverflow shape) ∧
      ∀ input values, scan input.toList = .ok ⟨shape, t, values⟩ →
        Tensor.parse input = .error (.shapeOverflow shape) := by
  refine ⟨(denseByteLength_eq_overflow_iff nonneg).2 (.inr hle), fun input values hscan => ?_⟩
  rw [Tensor.parse_of_scan hscan, elementCount_eq_iff.2 (.of_beforeZero nonneg hle)]
  rfl

/-- **Overflow and the order of the dimensions.**  A shape overflows if its size leaves the address
space, or the product in front of its first zero does.  In a steady shape only the size counts, so
all orders of the dimensions are treated alike, in literals as well, and no shape with a zero is
refused.  Of the orders of any other shape, some are accepted and some are refused, although the
size is zero. -/
theorem overflow_in_any_order (t : ElementType) (shape : Shape)
    (nonneg : ∀ d ∈ shape, 0 ≤ d.toInt) :
    (shape.denseByteLength t = .error (.shapeOverflow shape) ↔
      addressSpace ≤ shape.exactCount * t.width ∨ addressSpace ≤ shape.beforeZero.exactCount) ∧
    (shape.Steady → ∀ shape' : Shape, shape'.Perm shape →
      (shape'.denseByteLength t = .error (.shapeOverflow shape') ↔
        addressSpace ≤ shape.exactCount * t.width) ∧
      ((∃ n, shape'.denseByteLength t = .ok n) ↔ ∃ n, shape.denseByteLength t = .ok n) ∧
      (0 ∈ shape → shape'.denseByteLength t = .ok 0) ∧
      ∀ input input' values values', scan input.toList = .ok ⟨shape, t, values⟩ →
        scan input'.toList = .ok ⟨shape', t, values'⟩ → values'.Perm values →
        ((∃ tensor, Tensor.parse input' = .ok tensor) ↔
          ∃ tensor, Tensor.parse input = .ok tensor)) ∧
    (¬shape.Steady → shape.exactCount = 0 ∧ ∃ front back : Shape,
      front.Perm shape ∧ front.denseByteLength t = .ok 0 ∧
      (∀ input, scan input.toList = .ok ⟨front, t, []⟩ → Tensor.parse input = .ok ⟨t, front, []⟩) ∧
      back.Perm shape ∧ back.denseByteLength t = .error (.shapeOverflow back) ∧
      ∀ input values, scan input.toList = .ok ⟨back, t, values⟩ →
        Tensor.parse input = .error (.shapeOverflow back)) := by
  refine ⟨denseByteLength_eq_overflow_iff nonneg, fun hsteady shape' hshape => ?_,
    fun hunsteady => ?_⟩
  · have nonneg' := nonneg_perm nonneg hshape
    have hsteady' := hsteady.perm hshape
    have hcount := exactCount_perm hshape
    refine ⟨?_, ?_, fun hzero => ?_, fun _ _ _ _ hscan hscan' hvalues => ?_⟩
    · rw [hsteady'.denseByteLength_eq_overflow_iff nonneg', hcount]
    · simp only [hsteady.denseByteLength_eq_ok_iff nonneg,
        hsteady'.denseByteLength_eq_ok_iff nonneg', hcount]
    · rw [hsteady'.denseByteLength_eq_ok_iff nonneg', hcount, exactCount_eq_zero hzero,
        Int.zero_mul]
      exact ⟨rfl, by decide⟩
    · exact hsteady.exists_parse_iff nonneg hshape hscan hscan' hvalues
  · have hzero : shape.exactCount = 0 := exactCount_eq_zero (Classical.not_imp.1 hunsteady).1
    obtain ⟨front, back, hfront, hback, hnil, hle⟩ := exists_orders hunsteady
    obtain ⟨hempty, hread⟩ := accepts_of_beforeZero (t := t)
      (nonneg_perm nonneg hfront) ((exactCount_perm hfront).trans hzero) hnil
    obtain ⟨hover, hrefused⟩ := refuses_of_beforeZero (t := t) (nonneg_perm nonneg hback) hle
    exact ⟨hzero, front, back, hfront, hempty, hread, hback, hover, hrefused⟩

/-- A steady shape with a zero, and one that is not steady. -/
theorem overflow_in_any_order_sample :
    ((∀ d ∈ ([3, 0, 2] : Shape), 0 ≤ d.toInt) ∧ Steady [3, 0, 2] ∧
      denseByteLength .f64 [2, 3, 0] = .ok 0 ∧
      ((∃ tensor, Tensor.parse "2x3x0xf64=" = .ok tensor) ↔
        ∃ tensor, Tensor.parse "3x0x2xf64=" = .ok tensor)) ∧
    (∀ d ∈ ([4294967296, 0, 4294967296] : Shape), 0 ≤ d.toInt) ∧
    ¬Steady [4294967296, 0, 4294967296] ∧
    ∃ back : Shape, back.Perm [4294967296, 0, 4294967296] ∧
      back.denseByteLength .f16 = .error (.shapeOverflow back) := by
  have nonneg : ∀ d ∈ ([3, 0, 2] : Shape), 0 ≤ d.toInt := by simp
  have hsteady : Steady [3, 0, 2] := fun _ => by decide +kernel
  have hperm : List.Perm ([2, 3, 0] : Shape) [3, 0, 2] := by decide
  have nonneg' : ∀ d ∈ ([4294967296, 0, 4294967296] : Shape), 0 ≤ d.toInt := by simp
  have hunsteady : ¬Steady [4294967296, 0, 4294967296] := fun h =>
    absurd (h (by decide)) (by decide +kernel)
  obtain ⟨-, hsame, -⟩ := overflow_in_any_order .f64 [3, 0, 2] nonneg
  obtain ⟨-, -, hempty, hliterals⟩ := hsame hsteady [2, 3, 0] hperm
  obtain ⟨-, -, hdiffer⟩ := overflow_in_any_order .f16 [4294967296, 0, 4294967296] nonneg'
  obtain ⟨-, -, back, -, -, -, hback, hover, -⟩ := hdiffer hunsteady
  have hscan : scan "3x0x2xf64=".toList = .ok ⟨[3, 0, 2], .f64, []⟩ := by decide +kernel
  have hscan' : scan "2x3x0xf64=".toList = .ok ⟨[2, 3, 0], .f64, []⟩ := by decide +kernel
  exact ⟨⟨nonneg, hsteady, hempty (by decide), hliterals _ _ [] [] hscan hscan' .nil⟩, nonneg',
    hunsteady, back, hback, hover⟩

/-- An overflow without a size: in this order the large dimensions are multiplied first, although no
elements are asked for. -/
theorem overflow_of_nothing :
    (∀ d ∈ ([4294967296, 4294967296, 0] : Shape), 0 ≤ d.toInt) ∧
    exactCount [4294967296, 4294967296, 0] * ElementType.i32.width < addressSpace ∧
    denseByteLength .i32 [4294967296, 4294967296, 0] =
      .error (.shapeOverflow [4294967296, 4294967296, 0]) ∧
    List.Perm ([0, 4294967296, 4294967296] : Shape) [4294967296, 4294967296, 0] ∧
    denseByteLength .i32 [0, 4294967296, 4294967296] = .ok 0 ∧
    Tensor.parse "4294967296x4294967296x0xi32=" =
      .error (.shapeOverflow [4294967296, 4294967296, 0]) ∧
    Tensor.parse "0x4294967296x4294967296xi32=" =
      .ok ⟨.i32, [0, 4294967296, 4294967296], []⟩ := by
  refine ⟨by simp, by decide, by decide, by decide, by decide, ?_, ?_⟩ <;> decide +kernel

end Shape

end TensorBridge
