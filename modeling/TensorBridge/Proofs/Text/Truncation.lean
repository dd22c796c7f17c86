import Mathlib
import TensorBridge.Text.Utf8

/-!
# Texts that are cut

A text that is cut to a number of bytes keeps whole characters only.  The place of the cut can be
found in the bytes alone: from the byte that would be the first too many one goes back until no byte
in the middle of a character stands there.

* `Utf8.isBoundary_iff`: the places that are told by the bytes are those between two characters.
* `Utf8.cutAt?_eq`: going back ends at the place where `truncate` cuts.
* `truncate_longest`: what is kept is the longest beginning of the text that fits.
-/

namespace TensorBridge

/-! ## What is kept, by characters -/

lemma takeBytes_initial (max : Nat) (text : List Char) : takeBytes max text <+: text := by
  induction text generalizing max with
  | nil => exact List.nil_prefix
  | cons c rest ih =>
    rw [takeBytes]
    split
    · exact List.cons_prefix_cons.2 ⟨rfl, ih _⟩
    · exact List.nil_prefix

lemma byteCount_takeBytes_le (max : Nat) (text : List Char) :
    byteCount (takeBytes max text) ≤ max := by
  induction text generalizing max with
  | nil => exact Nat.zero_le max
  | cons c rest ih =>
    rw [takeBytes]
    split
    · have hrest := ih (max - c.utf8Size)
      rw [byteCount]
      omega
    · exact Nat.zero_le max

/-- Every beginning that fits is part of what is kept. -/
lemma initial_takeBytes {max : Nat} {front text : List Char} (hfront : front <+: text)
    (hfits : byteCount front ≤ max) : front <+: takeBytes max text := by
  induction text generalizing max front with
  | nil => exact hfront
  | cons c rest ih =>
    cases front with
    | nil => exact List.nil_prefix
    | cons first front =>
      obtain ⟨rfl, hrest⟩ := List.cons_prefix_cons.1 hfront
      rw [byteCount] at hfits
      rw [takeBytes, if_pos (by omega)]
      exact List.cons_prefix_cons.2 ⟨rfl, ih hrest (by omega)⟩

/-- A beginning has no more bytes. -/
lemma byteCount_le_of_initial {front text : List Char} (h : front <+: text) :
    byteCount front ≤ byteCount text := by
  induction text generalizing front with
  | nil => rw [List.prefix_nil.1 h]
  | cons c rest ih =>
    cases front with
    | nil => exact Nat.zero_le _
    | cons first front =>
      obtain ⟨rfl, hrest⟩ := List.cons_prefix_cons.1 h
      exact Nat.add_le_add_left (ih hrest) _

/-- A text that fits is kept. -/
lemma takeBytes_of_le {max : Nat} {text : List Char} (h : byteCount text ≤ max) :
    takeBytes max text = text :=
  (takeBytes_initial max text).eq_of_length_le
    (initial_takeBytes (List.prefix_refl text) h).length_le

/-- Of a text that does not fit as much is kept as there is room for, up to a part of a
character. -/
lemma lt_byteCount_takeBytes_add {max : Nat} {text : List Char} (h : max < byteCount text) :
    max < byteCount (takeBytes max text) + 4 := by
  induction text generalizing max with
  | nil => exact absurd h (Nat.not_lt_zero max)
  | cons c rest ih =>
    have hfour := c.utf8Size_le_four
    rw [byteCount] at h
    rw [takeBytes]
    split
    · have hrest := @ih (max - c.utf8Size) (by omega)
      rw [byteCount]
      omega
    · omega

/-- Cutting twice is cutting once, to the smaller number. -/
lemma takeBytes_takeBytes (first second : Nat) (text : List Char) :
    takeBytes second (takeBytes first text) = takeBytes (min first second) text := by
  induction text generalizing first second with
  | nil => rfl
  | cons c rest ih =>
    by_cases hfirst : c.utf8Size ≤ first
    · by_cases hsecond : c.utf8Size ≤ second
      · have hmin : min (first - c.utf8Size) (second - c.utf8Size) =
            min first second - c.utf8Size := by omega
        rw [takeBytes, if_pos hfirst, takeBytes, if_pos hsecond, takeBytes,
          if_pos (le_min hfirst hsecond), ih, hmin]
      · rw [takeBytes, if_pos hfirst, takeBytes, if_neg hsecond, takeBytes, if_neg (by omega)]
    · rw [takeBytes, if_neg hfirst, takeBytes, takeBytes, if_neg (by omega)]

lemma utf8ByteSize_ofList (text : List Char) :
    (String.ofList text).utf8ByteSize = byteCount text := by
  induction text with
  | nil => rfl
  | cons c rest ih =>
    have hcons : String.ofList (c :: rest) = String.singleton c ++ String.ofList rest := by
      rw [← String.toList_inj]
      simp
    rw [hcons, String.utf8ByteSize_append, String.utf8ByteSize_singleton, ih, byteCount]

lemma toList_truncate_initial (text : String) (max : Nat) :
    (truncate text max).toList <+: text.toList := by
  rw [truncate, String.toList_ofList]
  exact takeBytes_initial max text.toList

lemma utf8ByteSize_truncate_le (text : String) (max : Nat) :
    (truncate text max).utf8ByteSize ≤ max := by
  rw [truncate, utf8ByteSize_ofList]
  exact byteCount_takeBytes_le max text.toList

/-! ## Bytes -/

namespace Utf8

/-- Whether a byte continues a character. -/
def isContinuation (b : UInt8) : Bool := 0x80 ≤ b && b < 0xc0

/-- Whether a text can be cut in front of the byte at an index: at either end, or where a character
begins. -/
def isBoundary (bytes : List UInt8) (index : Nat) : Bool :=
  index == 0 ||
    match bytes[index]? with
    | some b => !isContinuation b
    | none => index == bytes.length

/-- Goes back from an index to the next place where the text can be cut; there is none if one would
have to go back from zero. -/
def backToBoundary? (bytes : List UInt8) : (index : Nat) → Option Nat
  | 0 => if isBoundary bytes 0 then some 0 else none
  | index + 1 =>
    if isBoundary bytes (index + 1) then some (index + 1) else backToBoundary? bytes index

/-- Where a text is cut to a number of bytes: at its end if it fits, and otherwise at the first
place that one comes to when one goes back. -/
def cutAt? (bytes : List UInt8) (max : Nat) : Option Nat :=
  if bytes.length ≤ max then some bytes.length else backToBoundary? bytes max

/-- The bytes of characters. -/
def bytesOf (text : List Char) : List UInt8 := text.flatMap String.utf8EncodeChar

/-- Going through bytes from an index on puts them behind those that have been collected. -/
lemma toList_loop {bytes : ByteArray} (count : Nat) {index : Nat}
    (hsize : bytes.size = index + count)
    (collected : List UInt8) : ByteArray.toList.loop bytes index collected =
      collected.reverse ++ bytes.data.toList.drop index := by
  induction count generalizing index collected with
  | zero =>
    have hend : bytes.data.toList.drop index = [] := List.drop_of_length_le (by simp [hsize])
    rw [ByteArray.toList.loop, if_neg (by omega), hend, List.append_nil]
  | succ count ih =>
    have hindex : index < bytes.data.toList.length := by simp [hsize]
    have hget : bytes.get! index = bytes.data.toList[index] := by
      simp [ByteArray.get!, hsize]
    rw [ByteArray.toList.loop, if_pos (by omega), ih (by omega), List.reverse_cons, hget,
      List.append_assoc, List.singleton_append, List.getElem_cons_drop]

lemma encode_eq (text : String) : encode text = bytesOf text.toList := by
  obtain ⟨chars, rfl⟩ := text.exists_eq_ofList
  rw [encode, String.toUTF8_eq_toByteArray, String.toByteArray_ofList, ByteArray.toList,
    toList_loop _ (Nat.zero_add _).symm, List.utf8Encode, List.toList_data_toByteArray,
    String.toList_ofList]
  rfl

lemma bytesOf_cons (c : Char) (rest : List Char) :
    bytesOf (c :: rest) = String.utf8EncodeChar c ++ bytesOf rest := rfl

lemma bytesOf_append (front behind : List Char) :
    bytesOf (front ++ behind) = bytesOf front ++ bytesOf behind :=
  List.flatMap_append

lemma length_bytesOf (text : List Char) : (bytesOf text).length = byteCount text := by
  induction text with
  | nil => rfl
  | cons c rest ih =>
    rw [bytesOf_cons, List.length_append, String.length_utf8EncodeChar, ih, byteCount]

lemma length_encode (text : String) : (encode text).length = byteCount text.toList := by
  rw [encode_eq, length_bytesOf]

lemma isContinuation_ofNat {n : Nat} (h : n < 256) :
    isContinuation (UInt8.ofNat n) = decide (0x80 ≤ n ∧ n < 0xc0) := by
  have htoNat : (UInt8.ofNat n).toNat = n := UInt8.toNat_ofNat_of_lt h
  simp [isContinuation, UInt8.le_iff_toNat_le, UInt8.lt_iff_toNat_lt, htoNat]

/-- A character is a byte that continues none and bytes that continue one. -/
lemma exists_encodeChar (c : Char) : ∃ lead trail, String.utf8EncodeChar c = lead :: trail ∧
    isContinuation lead = false ∧ ∀ b ∈ trail, isContinuation b = true := by
  have htrail (v : Nat) : isContinuation (UInt8.ofNat (v % 0x40 + 0x80)) = true := by
    rw [isContinuation_ofNat (by omega), decide_eq_true_eq]
    omega
  have hnone : ∀ b ∈ ([] : List UInt8), isContinuation b = true := List.forall_mem_nil _
  have hlead {v : Nat} (hv : v < 0x80 ∨ 0xc0 ≤ v ∧ v < 0x100) :
      isContinuation (UInt8.ofNat v) = false := by
    rw [isContinuation_ofNat (by omega), decide_eq_false_iff_not]
    omega
  unfold String.utf8EncodeChar
  dsimp only
  split_ifs with hone htwo hthree
  · exact ⟨_, _, rfl, hlead (.inl (by omega)), hnone⟩
  · exact ⟨_, _, rfl, hlead (.inr (by omega)), List.forall_mem_cons.2 ⟨htrail _, hnone⟩⟩
  · exact ⟨_, _, rfl, hlead (.inr (by omega)), List.forall_mem_cons.2 ⟨htrail _,
      List.forall_mem_cons.2 ⟨htrail _, hnone⟩⟩⟩
  · exact ⟨_, _, rfl, hlead (.inr (by omega)), List.forall_mem_cons.2 ⟨htrail _,
      List.forall_mem_cons.2 ⟨htrail _, List.forall_mem_cons.2 ⟨htrail _, hnone⟩⟩⟩⟩

/-! ## Places to cut -/

/-- There is no place to cut inside a character. -/
lemma isBoundary_inside {c : Char} {rest : List Char} {index : Nat} (hpos : 0 < index)
    (hlt : index < c.utf8Size) : isBoundary (bytesOf (c :: rest)) index = false := by
  obtain ⟨lead, trail, hbytes, -, htrail⟩ := exists_encodeChar c
  have hlength := String.length_utf8EncodeChar c
  rw [hbytes, List.length_cons] at hlength
  obtain ⟨k, rfl⟩ := Nat.exists_eq_succ_of_ne_zero hpos.ne'
  have hk : k < trail.length := by omega
  have hget : (bytesOf (c :: rest))[k + 1]? = some trail[k] := by
    rw [bytesOf_cons, hbytes, List.cons_append, List.getElem?_cons_succ,
      List.getElem?_append_left hk, List.getElem?_eq_getElem hk]
  simp [isBoundary, hget, htrail _ (List.getElem_mem hk)]

/-- Behind a character the places to cut are those of the rest. -/
lemma isBoundary_behind {c : Char} {rest : List Char} (index : Nat) :
    isBoundary (bytesOf (c :: rest)) (c.utf8Size + index) = isBoundary (bytesOf rest) index := by
  have hget : (bytesOf (c :: rest))[c.utf8Size + index]? = (bytesOf rest)[index]? := by
    rw [bytesOf_cons, List.getElem?_append_right (by simp), String.length_utf8EncodeChar,
      Nat.add_sub_cancel_left]
  have hlength : (bytesOf (c :: rest)).length = c.utf8Size + (bytesOf rest).length := by
    rw [bytesOf_cons, List.length_append, String.length_utf8EncodeChar]
  have hsize := c.utf8Size_pos
  unfold isBoundary
  rw [hget, hlength]
  rcases Nat.eq_zero_or_pos index with rfl | hindex
  -- Where the rest begins there is a first byte, or the end.
  · cases rest with
    | nil => simp [bytesOf]
    | cons next rest =>
      obtain ⟨lead, trail, hbytes, hlead, -⟩ := exists_encodeChar next
      have hfirst : (bytesOf (next :: rest))[0]? = some lead := by
        rw [bytesOf_cons, hbytes]
        rfl
      simp [hfirst, hlead]
  · have hne : (c.utf8Size + index == 0) = (index == 0) := by simp; omega
    have heq : (c.utf8Size + index == c.utf8Size + (bytesOf rest).length) =
        (index == (bytesOf rest).length) := by simp
    rw [hne, heq]

/-- **The places to cut** are those between characters. -/
theorem isBoundary_iff {text : List Char} {index : Nat} :
    isBoundary (bytesOf text) index = true ↔ ∃ front, front <+: text ∧ byteCount front = index := by
  induction text generalizing index with
  | nil =>
    have hend : isBoundary (bytesOf []) index = true ↔ index = 0 := by simp [isBoundary, bytesOf]
    rw [hend]
    constructor
    · rintro rfl
      exact ⟨[], List.nil_prefix, rfl⟩
    · rintro ⟨front, hfront, rfl⟩
      rw [List.prefix_nil.1 hfront, byteCount]
  | cons c rest ih =>
    constructor
    · intro h
      rcases Nat.eq_zero_or_pos index with rfl | hpos
      · exact ⟨[], List.nil_prefix, rfl⟩
      have hsize : c.utf8Size ≤ index := by
        by_contra! hlt
        rw [isBoundary_inside hpos hlt] at h
        cases h
      obtain ⟨k, rfl⟩ := Nat.exists_eq_add_of_le hsize
      rw [isBoundary_behind] at h
      obtain ⟨front, hfront, rfl⟩ := ih.1 h
      exact ⟨c :: front, List.cons_prefix_cons.2 ⟨rfl, hfront⟩, rfl⟩
    · rintro ⟨front, hfront, rfl⟩
      cases front with
      | nil => rfl
      | cons first front =>
        obtain ⟨rfl, hrest⟩ := List.cons_prefix_cons.1 hfront
        rw [byteCount, isBoundary_behind]
        exact ih.2 ⟨front, hrest, rfl⟩

/-- Going back ends at the last place to cut. -/
lemma backToBoundary?_eq {bytes : List UInt8} {cut index : Nat} (hle : cut ≤ index)
    (hcut : isBoundary bytes cut = true)
    (hlast : ∀ k, isBoundary bytes k = true → k ≤ index → k ≤ cut) :
    backToBoundary? bytes index = some cut := by
  induction index with
  | zero =>
    obtain rfl : cut = 0 := Nat.le_zero.1 hle
    rw [backToBoundary?, if_pos hcut]
  | succ index ih =>
    rw [backToBoundary?]
    rcases Nat.eq_or_lt_of_le hle with rfl | hlt
    · rw [if_pos hcut]
    · have hnot : ¬isBoundary bytes (index + 1) = true := fun h => by
        have hle' := hlast _ h le_rfl
        omega
      rw [if_neg hnot]
      exact ih (Nat.lt_succ_iff.1 hlt) fun k hk hk' => hlast k hk (Nat.le_succ_of_le hk')

/-- **Going back** ends where the text is cut. -/
theorem cutAt?_eq (text : List Char) (max : Nat) :
    cutAt? (bytesOf text) max = some (byteCount (takeBytes max text)) := by
  rw [cutAt?, length_bytesOf]
  split_ifs with hfits
  · rw [takeBytes_of_le hfits]
  · refine backToBoundary?_eq (byteCount_takeBytes_le max text)
      (isBoundary_iff.2 ⟨_, takeBytes_initial max text, rfl⟩) fun k hk hle => ?_
    obtain ⟨front, hfront, rfl⟩ := isBoundary_iff.1 hk
    exact byteCount_le_of_initial (initial_takeBytes hfront hle)

end Utf8

/-! ## Cutting -/

open Utf8 (encode encode_eq length_encode bytesOf bytesOf_append length_bytesOf isBoundary
  isBoundary_iff cutAt? cutAt?_eq)

/-- The bytes of the beginning that is kept come before those of the rest. -/
lemma take_encode (text : String) (max : Nat) :
    (encode text).take (byteCount (takeBytes max text.toList)) =
      bytesOf (takeBytes max text.toList) := by
  obtain ⟨behind, hbehind⟩ := takeBytes_initial max text.toList
  have hbytes : encode text = bytesOf (takeBytes max text.toList) ++ bytesOf behind := by
    rw [encode_eq, ← hbehind, bytesOf_append, hbehind]
  rw [hbytes, List.take_left' (length_bytesOf _)]

lemma encode_truncate (text : String) (max : Nat) :
    encode (truncate text max) = bytesOf (takeBytes max text.toList) := by
  rw [encode_eq, truncate, String.toList_ofList]

lemma length_encode_truncate (text : String) (max : Nat) :
    (encode (truncate text max)).length = byteCount (takeBytes max text.toList) := by
  rw [encode_truncate, length_bytesOf]

lemma truncate_eq_self_iff {text : String} {max : Nat} :
    truncate text max = text ↔ (encode text).length ≤ max := by
  constructor
  · intro h
    rw [← h, length_encode_truncate]
    exact byteCount_takeBytes_le max _
  · intro h
    rw [length_encode] at h
    rw [truncate, takeBytes_of_le h, String.ofList_toList]

/-- **Cutting keeps the longest beginning that fits.**  Going back from the number of bytes always
comes to a place where the text can be cut; what is kept are the bytes in front of it, and there is
no such place behind it that fits.  So whole characters are kept, and all beginnings that fit are
part of what is kept; it is the text itself just if that fits, and otherwise at most three bytes are
given away.  Cutting twice is cutting once, to the smaller number. -/
theorem truncate_longest (text : String) (max : Nat) :
    (∃ cut, cutAt? (encode text) max = some cut ∧ isBoundary (encode text) cut = true ∧ cut ≤ max ∧
      (∀ index ≤ max, isBoundary (encode text) index = true → index ≤ cut) ∧
      encode (truncate text max) = (encode text).take cut ∧
      (encode (truncate text max)).length = cut) ∧
    (truncate text max).toList <+: text.toList ∧
    (∀ front, front <+: text.toList → byteCount front ≤ max →
      front <+: (truncate text max).toList) ∧
    (truncate text max = text ↔ (encode text).length ≤ max) ∧
    (max < (encode text).length → max ≤ (encode (truncate text max)).length + 3) ∧
    ∀ other, truncate (truncate text max) other = truncate text (min max other) := by
  refine ⟨⟨_, ?_, ?_, byteCount_takeBytes_le max text.toList, ?_, ?_,
    length_encode_truncate text max⟩,
    toList_truncate_initial text max, ?_, truncate_eq_self_iff, ?_, ?_⟩
  · rw [encode_eq, cutAt?_eq]
  · rw [encode_eq]
    exact isBoundary_iff.2 ⟨_, takeBytes_initial max text.toList, rfl⟩
  · intro index hle hindex
    rw [encode_eq] at hindex
    obtain ⟨front, hfront, rfl⟩ := isBoundary_iff.1 hindex
    exact byteCount_le_of_initial (initial_takeBytes hfront hle)
  · rw [encode_truncate, take_encode]
  · intro front hfront hfits
    rw [truncate, String.toList_ofList]
    exact initial_takeBytes hfront hfits
  · intro hlt
    rw [length_encode] at hlt
    have hroom := lt_byteCount_takeBytes_add hlt
    rw [length_encode_truncate]
    omega
  · intro other
    rw [truncate, truncate, String.toList_ofList, takeBytes_takeBytes, truncate]

/-- A cut inside the second of two characters of two bytes. -/
theorem truncate_longest_inside :
    4 < (encode "aéé").length ∧ truncate "aéé" 4 = "aé" ∧
      4 ≤ (encode (truncate "aéé" 4)).length + 3 ∧
      ['a'] <+: (truncate "aéé" 4).toList := by
  have hlt : 4 < (encode "aéé").length := by
    rw [length_encode]
    decide
  obtain ⟨-, -, hlongest, -, hroom, -⟩ := truncate_longest "aéé" 4
  exact ⟨hlt, by decide, hroom hlt, hlongest ['a'] ⟨['é', 'é'], by decide⟩ (by decide)⟩

end TensorBridge
