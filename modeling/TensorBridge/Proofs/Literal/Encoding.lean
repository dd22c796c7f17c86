import Mathlib
import TensorBridge.Scalar

/-!
# Scalars as bytes

* `Encodes`: what it means that bytes encode scalars, one byte at a time.
* `encodes_iff`: the bytes of scalars encode them, and no others do.
* `scalarsOfBytes_bytesOfScalars`: the bytes of scalars store just these.
* `exists_scalars_append`: any bytes store scalars, up to a rest that is shorter than one.
-/

namespace TensorBridge

/-! ## Little endian numbers -/

lemma ofLittleEndian_littleEndian (width n : Nat) :
    ofLittleEndian (littleEndian width n) = n % 256 ^ width := by
  induction width generalizing n with
  | zero => rw [littleEndian, ofLittleEndian, Nat.pow_zero, Nat.mod_one]
  | succ width ih =>
    rw [littleEndian, ofLittleEndian, ih, Nat.pow_succ', Nat.mod_mul, UInt8.toNat_ofNat']

lemma littleEndian_ofLittleEndian (bytes : List UInt8) :
    littleEndian bytes.length (ofLittleEndian bytes) = bytes := by
  induction bytes with
  | nil => rfl
  | cons b rest ih =>
    have hlt : b.toNat < 256 := b.toNat_lt
    have hdiv : (b.toNat + 256 * ofLittleEndian rest) / 256 = ofLittleEndian rest := by omega
    have hbyte : UInt8.ofNat (b.toNat + 256 * ofLittleEndian rest) = b := by
      rw [← UInt8.toNat_inj, UInt8.toNat_ofNat']
      omega
    rw [List.length_cons, ofLittleEndian, littleEndian, hdiv, ih, hbyte]

lemma ofLittleEndian_lt (bytes : List UInt8) : ofLittleEndian bytes < 256 ^ bytes.length := by
  rw [← littleEndian_ofLittleEndian bytes, ofLittleEndian_littleEndian, length_littleEndian]
  exact Nat.mod_lt _ (Nat.pow_pos (by decide))

/-- The byte at a position of a number. -/
lemma getElem?_littleEndian {width k : Nat} (n : Nat) (hk : k < width) :
    (littleEndian width n)[k]? = some (UInt8.ofNat (n / 256 ^ k)) := by
  induction width generalizing n k with
  | zero => omega
  | succ width ih =>
    rw [littleEndian]
    cases k with
    | zero => simp
    | succ k => rw [List.getElem?_cons_succ, ih _ (by omega), Nat.div_div_eq_div_mul, Nat.pow_succ']

/-! ## Scalars one by one -/

namespace Scalar

variable {t : ElementType}

lemma pow_width (t : ElementType) : 256 ^ t.width = 2 ^ (8 * t.width) := (Nat.pow_mul 2 8 _).symm

@[simp] lemma length_toBytes (s : Scalar t) : (toBytes t s).length = t.width :=
  length_littleEndian _ _

@[simp] lemma ofBytes_toBytes (s : Scalar t) : ofBytes t (toBytes t s) = s := by
  rw [ofBytes, toBytes, ofLittleEndian_littleEndian, pow_width, Nat.mod_eq_of_lt s.isLt,
    BitVec.ofNat_toNat, BitVec.setWidth_eq]

lemma toBytes_ofBytes {bytes : List UInt8} (h : bytes.length = t.width) :
    toBytes t (ofBytes t bytes) = bytes := by
  have hlt := ofLittleEndian_lt bytes
  rw [h, pow_width] at hlt
  rw [toBytes, ofBytes, BitVec.toNat_ofNat, Nat.mod_eq_of_lt hlt, ← h, littleEndian_ofLittleEndian]

end Scalar

variable {t : ElementType}

lemma bytesOfScalars_cons (s : Scalar t) (scalars : List (Scalar t)) :
    bytesOfScalars t (s :: scalars) = Scalar.toBytes t s ++ bytesOfScalars t scalars := rfl

lemma length_bytesOfScalars (scalars : List (Scalar t)) :
    (bytesOfScalars t scalars).length = scalars.length * t.width := by
  rw [bytesOfScalars, List.length_flatMap]
  simp

/-! ## What bytes encode -/

/-- The bytes encode the scalars: every scalar takes up as many as its type is wide, and byte `k` of
these are its bits from `8 * k` on. -/
structure Encodes (t : ElementType) (data : List UInt8) (scalars : List (Scalar t)) : Prop where
  /-- There are no other bytes. -/
  length_eq : data.length = scalars.length * t.width
  /-- The bytes of a scalar, the lowest first. -/
  byte_eq : ∀ (i : Nat) (s : Scalar t), scalars[i]? = some s → ∀ k < t.width,
    data[i * t.width + k]?.map UInt8.toNat = some (s.toNat / 256 ^ k % 256)

/-- The bytes of scalars encode them. -/
lemma encodes_bytesOfScalars (scalars : List (Scalar t)) :
    Encodes t (bytesOfScalars t scalars) scalars := by
  refine ⟨length_bytesOfScalars scalars, ?_⟩
  induction scalars with
  | nil => simp
  | cons first rest ih =>
    intro i s hs k hk
    rw [bytesOfScalars_cons]
    cases i with
    | zero =>
      obtain rfl : first = s := by simpa using hs
      rw [Nat.zero_mul, Nat.zero_add, List.getElem?_append_left (by simpa using hk), Scalar.toBytes,
        getElem?_littleEndian _ hk]
      simp
    | succ i =>
      have hindex :
          (i + 1) * t.width + k = (Scalar.toBytes t first).length + (i * t.width + k) := by
        rw [Scalar.length_toBytes]
        ring
      rw [hindex, List.getElem?_append_right (Nat.le_add_right _ _), Nat.add_sub_cancel_left]
      exact ih i s hs k hk

/-- Scalars are encoded in one way only. -/
lemma Encodes.unique {data data' : List UInt8} {scalars : List (Scalar t)}
    (h : Encodes t data scalars) (h' : Encodes t data' scalars) : data = data' := by
  refine List.ext_getElem? fun n => ?_
  rcases Nat.lt_or_ge n (scalars.length * t.width) with hlt | hge
  -- Every position within the data is that of a byte of some scalar.
  · have hi : n / t.width < scalars.length := Nat.div_lt_of_lt_mul (by rwa [Nat.mul_comm])
    have hk : n % t.width < t.width := Nat.mod_lt _ t.width_pos
    have hs := List.getElem?_eq_getElem hi
    have hbyte := h.byte_eq _ _ hs _ hk
    have hbyte' := h'.byte_eq _ _ hs _ hk
    rw [Nat.div_add_mod'] at hbyte hbyte'
    exact Option.map_injective (fun _ _ => UInt8.toNat_inj.1) (hbyte.trans hbyte'.symm)
  · rw [List.getElem?_eq_none (h.length_eq ▸ hge), List.getElem?_eq_none (h'.length_eq ▸ hge)]

/-- **The bytes of scalars** are those that encode them. -/
theorem encodes_iff {data : List UInt8} {scalars : List (Scalar t)} :
    Encodes t data scalars ↔ data = bytesOfScalars t scalars := by
  constructor
  · exact fun h => h.unique (encodes_bytesOfScalars scalars)
  · rintro rfl
    exact encodes_bytesOfScalars scalars

/-! ## Reading bytes -/

lemma toBytes_ne_nil (s : Scalar t) : Scalar.toBytes t s ≠ [] :=
  List.ne_nil_of_length_pos (by rw [Scalar.length_toBytes]; exact t.width_pos)

lemma scalarsOfBytes_cons (s : Scalar t) (bytes : List UInt8) :
    scalarsOfBytes t (Scalar.toBytes t s ++ bytes) = s :: scalarsOfBytes t bytes := by
  unfold scalarsOfBytes
  rw [pieces, dif_pos ⟨t.width_pos, List.append_ne_nil_of_left_ne_nil (toBytes_ne_nil s) _⟩,
    List.take_left' (Scalar.length_toBytes s), List.drop_left' (Scalar.length_toBytes s),
    List.map_cons, Scalar.ofBytes_toBytes]

lemma wholePieces_cons (s : Scalar t) (bytes : List UInt8) :
    wholePieces t.width (Scalar.toBytes t s ++ bytes) =
      Scalar.toBytes t s :: wholePieces t.width bytes := by
  have hle : t.width ≤ (Scalar.toBytes t s ++ bytes).length := by simp
  rw [wholePieces, dif_pos ⟨t.width_pos, hle⟩, List.take_left' (Scalar.length_toBytes s),
    List.drop_left' (Scalar.length_toBytes s)]

/-- The scalars behind some that are stored. -/
lemma scalarsOfBytes_append (scalars : List (Scalar t)) (rest : List UInt8) :
    scalarsOfBytes t (bytesOfScalars t scalars ++ rest) = scalars ++ scalarsOfBytes t rest := by
  induction scalars with
  | nil => rfl
  | cons s scalars ih =>
    rw [bytesOfScalars_cons, List.append_assoc, scalarsOfBytes_cons, ih, List.cons_append]

lemma wholePieces_append (scalars : List (Scalar t)) (rest : List UInt8) :
    wholePieces t.width (bytesOfScalars t scalars ++ rest) =
      scalars.map (Scalar.toBytes t) ++ wholePieces t.width rest := by
  induction scalars with
  | nil => rfl
  | cons s scalars ih =>
    rw [bytesOfScalars_cons, List.append_assoc, wholePieces_cons, ih, List.map_cons,
      List.cons_append]

lemma scalarsOfBytes_nil : scalarsOfBytes t [] = [] := by
  rw [scalarsOfBytes, pieces, dif_neg fun h => h.2 rfl, List.map_nil]

/-- Bytes shorter than a scalar are one scalar, with zeros for the missing ones. -/
lemma scalarsOfBytes_of_lt {rest : List UInt8} (hne : rest ≠ []) (hlt : rest.length < t.width) :
    scalarsOfBytes t rest = [Scalar.ofBytes t rest] := by
  rw [scalarsOfBytes, pieces, dif_pos ⟨t.width_pos, hne⟩, List.take_of_length_le hlt.le,
    List.drop_of_length_le hlt.le, List.map_cons, ← scalarsOfBytes, scalarsOfBytes_nil]

/-- Bytes shorter than a scalar hold no whole piece. -/
lemma wholePieces_of_lt {rest : List UInt8} (hlt : rest.length < t.width) :
    wholePieces t.width rest = [] := by
  rw [wholePieces, dif_neg fun h => h.2.not_gt hlt]

/-- **The scalars** that are stored. -/
theorem scalarsOfBytes_bytesOfScalars (scalars : List (Scalar t)) :
    scalarsOfBytes t (bytesOfScalars t scalars) = scalars := by
  have happend := scalarsOfBytes_append scalars []
  rwa [List.append_nil, scalarsOfBytes_nil, List.append_nil] at happend

/-- Scalars are stored in pieces of their width. -/
lemma wholePieces_bytesOfScalars (scalars : List (Scalar t)) :
    wholePieces t.width (bytesOfScalars t scalars) = scalars.map (Scalar.toBytes t) := by
  have happend := wholePieces_append scalars []
  rwa [List.append_nil, @wholePieces_of_lt t [] t.width_pos, List.append_nil] at happend

/-- Bytes of the right count store scalars. -/
lemma exists_scalars {n : Nat} {data : List UInt8} (h : data.length = n * t.width) :
    ∃ scalars : List (Scalar t), scalars.length = n ∧ data = bytesOfScalars t scalars := by
  induction n generalizing data with
  | zero =>
    rw [Nat.zero_mul, List.length_eq_zero_iff] at h
    exact ⟨[], rfl, h⟩
  | succ n ih =>
    rw [Nat.succ_mul] at h
    have hdrop : (data.drop t.width).length = n * t.width := by
      rw [List.length_drop]
      omega
    obtain ⟨scalars, hlength, hrest⟩ := ih hdrop
    refine ⟨Scalar.ofBytes t (data.take t.width) :: scalars, by rw [List.length_cons, hlength], ?_⟩
    rw [bytesOfScalars_cons, ← hrest, Scalar.toBytes_ofBytes (by rw [List.length_take]; omega),
      List.take_append_drop]

/-- Any bytes store scalars, up to a rest that is shorter than one. -/
lemma exists_scalars_append (t : ElementType) (data : List UInt8) :
    ∃ (scalars : List (Scalar t)) (rest : List UInt8),
      data = bytesOfScalars t scalars ++ rest ∧ rest.length < t.width := by
  have hwhole : (data.take (data.length / t.width * t.width)).length =
      data.length / t.width * t.width :=
    List.length_take_of_le (Nat.div_mul_le_self _ _)
  obtain ⟨scalars, -, hscalars⟩ := exists_scalars hwhole
  refine ⟨scalars, data.drop (data.length / t.width * t.width), ?_, ?_⟩
  · rw [← hscalars, List.take_append_drop]
  · rw [List.length_drop, ← Nat.mod_eq_sub_div_mul]
    exact Nat.mod_lt _ t.width_pos

end TensorBridge
