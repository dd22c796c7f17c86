import Mathlib
import TensorBridge.Proofs.Program.Runs
import TensorBridge.Proofs.Session.Arguments

/-!
# Reading outputs, all or nothing

What comes of reading a list of results depends on what the runtime replies to the questions about
its entries.  `Marshal.Shown` holds the replies about one view, and `Marshal.Reading` says how far
the questions about an entry go and what comes of them: there are six ways to fail, in a fixed
order, and a tensor otherwise.  `Marshal.Gathering` says the same of a whole list.

* `Marshal.makes_readOutput_iff` and `Marshal.makes_readOutputs_iff`: these are the calls that the
  reading makes, and no others.
* `Marshal.outputs_all_or_nothing`: the tensors are returned if all the entries are sound, and
  otherwise the failure of the first one that is not, with no question about any later one.
-/

namespace TensorBridge

open Program (Item)

namespace Marshal

variable {list : Handle .list} {index : Nat} {cs : List (Item Backend)}

/-! ## One output -/

/-- What a runtime replies to the questions about a view. -/
structure Shown where
  /-- The view. -/
  view : Handle .view
  /-- The native code of the element type. -/
  code : UInt32
  /-- The dimensions. -/
  dims : List UInt64
  /-- The number of bytes. -/
  byteLength : UInt64
  /-- What comes of reading that many bytes. -/
  bytes : Except BridgeError (Bytes byteLength.toNat)

/-- The questions about an output and their replies, in the order in which they are asked. -/
def Shown.calls (s : Shown) (list : Handle .list) (index : Nat) : List (Item Backend) :=
  [.called (.viewAt list index) (some s.view), .called (.viewCode s.view) s.code,
    .called (.viewDims s.view) s.dims, .called (.viewByteLength s.view) s.byteLength,
    .called (.readView s.view s.byteLength.toNat) s.bytes]

/-- The view shows a tensor that a host can hold: its dimensions are the same numbers with a sign,
its data the bytes that were read. -/
structure Shown.Yields (s : Shown) (t : Tensor) : Prop where
  code_eq : t.elementType.toNative = s.code
  rank_le : dimensionBytes s.dims.length ≤ allocationLimit
  dims_le : ∀ d ∈ s.dims, d.toNat ≤ dimensionLimit
  shape_eq : t.shape.map Int64.toInt = s.dims.map fun d => (d.toNat : Int)
  length_le : s.byteLength.toNat ≤ allocationLimit
  bytes_eq : ∃ bytes, s.bytes = .ok bytes ∧ t.data = bytes.val

/-- The calls that read an output, and the result.  An entry of a list that is no view has nothing
to show; otherwise the questions go on up to the first reply that cannot be used. -/
inductive Reading (list : Handle .list) (index : Nat) :
    Option Shown → List (Item Backend) → Except BridgeError Tensor → Prop where
  /-- The entry is no view. -/
  | noView : Reading list index none [.called (.viewAt list index) none]
      (.error (.missingOutput index))
  /-- The code stands for none of the six element types. -/
  | noType {s : Shown} (hcode : ∀ t : ElementType, t.toNative ≠ s.code) :
      Reading list index (some s) ((s.calls list index).take 2)
        (.error (.unsupportedElementType (Int64.ofNat s.code.toNat)))
  /-- The host cannot hold the dimensions. -/
  | rank {s : Shown} {t : ElementType} (hcode : t.toNative = s.code)
      (hrank : allocationLimit < dimensionBytes s.dims.length) :
      Reading list index (some s) ((s.calls list index).take 3)
        (.error (.resourceExhausted s!"shape of output {index}"))
  /-- A dimension is too large; the failure names the first one. -/
  | dimension {s : Shown} {t : ElementType} {before after : List UInt64} {d : UInt64}
      (hcode : t.toNative = s.code) (hrank : dimensionBytes s.dims.length ≤ allocationLimit)
      (hdims : s.dims = before ++ d :: after)
      (hbefore : ∀ b ∈ before, b.toNat ≤ dimensionLimit) (hd : dimensionLimit < d.toNat) :
      Reading list index (some s) ((s.calls list index).take 3)
        (.error (.resourceExhausted s!"output {index} dimension {d.toNat} exceeds i64"))
  /-- The host cannot hold the bytes. -/
  | length {s : Shown} {t : ElementType} (hcode : t.toNative = s.code)
      (hrank : dimensionBytes s.dims.length ≤ allocationLimit)
      (hdims : ∀ d ∈ s.dims, d.toNat ≤ dimensionLimit)
      (hlength : allocationLimit < s.byteLength.toNat) :
      Reading list index (some s) ((s.calls list index).take 4)
        (.error (.resourceExhausted s!"{s.byteLength.toNat} bytes for output {index}"))
  /-- The bytes cannot be read. -/
  | unread {s : Shown} {t : ElementType} {e : BridgeError} (hcode : t.toNative = s.code)
      (hrank : dimensionBytes s.dims.length ≤ allocationLimit)
      (hdims : ∀ d ∈ s.dims, d.toNat ≤ dimensionLimit)
      (hlength : s.byteLength.toNat ≤ allocationLimit) (hbytes : s.bytes = .error e) :
      Reading list index (some s) (s.calls list index) (.error e)
  /-- The output is a tensor. -/
  | read {s : Shown} {t : Tensor} (yields : s.Yields t) :
      Reading list index (some s) (s.calls list index) (.ok t)

/-- A check between two questions. -/
lemma makes_check_iff {α β : Type} {x : Except BridgeError α} {f : α → Action Backend β}
    {r : Except BridgeError β} :
    (readOutput.liftExcept x >>= f).run.Makes cs r ↔
      (∃ e, x = .error e ∧ cs = [] ∧ r = .error e) ∨ ∃ a, x = .ok a ∧ (f a).run.Makes cs r := by
  rcases x with e | a
  · have herror : (readOutput.liftExcept (.error e) >>= f).run.Makes cs r ↔
        cs = [] ∧ r = .error e := Program.makes_done_iff
    rw [herror]
    simp
  · have hok : (readOutput.liftExcept (.ok a) >>= f).run.Makes cs r ↔ (f a).run.Makes cs r :=
      Iff.rfl
    rw [hok]
    simp

section Steps

variable {α β : Type} {f : α → Action Backend β} {x : Except BridgeError α}
  {r : Except BridgeError β}

lemma makes_ask {op : BackendOp} {f : op.Reply → Action Backend β} {reply : op.Reply}
    (h : (f reply).run.Makes cs r) :
    (Action.always (.perform (I := Backend) op) >>= f).run.Makes (.called op reply :: cs) r :=
  Action.makes_ask_iff.2 ⟨reply, cs, rfl, h⟩

lemma makes_pass {a : α} (hx : x = .ok a) (h : (f a).run.Makes cs r) :
    (readOutput.liftExcept x >>= f).run.Makes cs r :=
  makes_check_iff.2 (.inr ⟨a, hx, h⟩)

lemma makes_fault {e : BridgeError} (hx : x = .error e) :
    (readOutput.liftExcept x >>= f).run.Makes [] (.error e) :=
  makes_check_iff.2 (.inl ⟨e, hx, rfl, rfl⟩)

end Steps

/-- **One output** is read up to its first fault. -/
theorem makes_readOutput_iff {r : Except BridgeError Tensor} :
    (readOutput list index).run.Makes cs r ↔ ∃ output, Reading list index output cs r := by
  unfold readOutput
  constructor
  · intro h
    obtain ⟨_ | view, later, rfl, hviewed⟩ := Action.makes_ask_iff.1 h
    · obtain ⟨rfl, rfl⟩ := Action.makes_throw_iff.1 hviewed
      exact ⟨none, .noView⟩
    obtain ⟨code, later, rfl, hcoded⟩ := Action.makes_ask_iff.1 hviewed
    rcases makes_check_iff.1 hcoded with ⟨e, he, rfl, rfl⟩ | ⟨t, ht, htyped⟩
    · obtain ⟨hcode, rfl⟩ := decodeElementType_eq_error_iff.1 he
      exact ⟨some ⟨view, code, [], 0, .ok ⟨[], rfl⟩⟩, .noType hcode⟩
    have hcode := decodeElementType_eq_ok_iff.1 ht
    obtain ⟨dims, later, rfl, hdims⟩ := Action.makes_ask_iff.1 htyped
    rcases makes_check_iff.1 hdims with ⟨e, he, rfl, rfl⟩ | ⟨_, hreserve, hheld⟩
    · obtain ⟨hrank, rfl⟩ := reserve_eq_error_iff.1 he
      exact ⟨some ⟨view, code, dims, 0, .ok ⟨[], rfl⟩⟩, .rank hcode hrank⟩
    have hrank := reserve_eq_ok_iff.1 hreserve
    rcases makes_check_iff.1 hheld with ⟨e, he, rfl, rfl⟩ | ⟨shape, hhost, hshaped⟩
    · obtain ⟨before, d, after, hsplit, hbefore, hd, rfl⟩ := hostDims_eq_error_iff.1 he
      exact ⟨some ⟨view, code, dims, 0, .ok ⟨[], rfl⟩⟩, .dimension hcode hrank hsplit hbefore hd⟩
    obtain ⟨hle, hshape⟩ := hostDims_eq_ok_iff.1 hhost
    obtain ⟨byteLength, later, rfl, hlong⟩ := Action.makes_ask_iff.1 hshaped
    rcases makes_check_iff.1 hlong with ⟨e, he, rfl, rfl⟩ | ⟨_, hreserve, hroom⟩
    · obtain ⟨hlength, rfl⟩ := reserve_eq_error_iff.1 he
      exact ⟨some ⟨view, code, dims, byteLength, .error (.missingOutput index)⟩,
        .length hcode hrank hle hlength⟩
    have hlength := reserve_eq_ok_iff.1 hreserve
    rcases Action.makes_bind_iff.1 hroom with ⟨e, rfl, hread⟩ | ⟨_, last, bytes, rfl, hread, hdone⟩
    · obtain rfl := Program.makes_perform_iff.1 hread
      exact ⟨some ⟨view, code, dims, byteLength, .error e⟩, .unread hcode hrank hle hlength rfl⟩
    · obtain rfl := Program.makes_perform_iff.1 hread
      obtain ⟨rfl, rfl⟩ := Action.makes_pure_iff.1 hdone
      exact ⟨some ⟨view, code, dims, byteLength, .ok bytes⟩,
        .read ⟨hcode, hrank, hle, hshape, hlength, bytes, rfl, rfl⟩⟩
  · rintro ⟨output, h⟩
    cases h with
    | noView => exact makes_ask (Action.makes_throw_iff.2 ⟨rfl, rfl⟩)
    | noType hcode =>
      exact makes_ask (makes_ask (makes_fault (decodeElementType_eq_error_iff.2 ⟨hcode, rfl⟩)))
    | rank hcode hrank =>
      refine makes_ask (makes_ask (makes_pass (decodeElementType_eq_ok_iff.2 hcode) ?_))
      exact makes_ask (makes_fault (reserve_eq_error_iff.2 ⟨hrank, rfl⟩))
    | dimension hcode hrank hdims hbefore hd =>
      refine makes_ask (makes_ask (makes_pass (decodeElementType_eq_ok_iff.2 hcode) ?_))
      refine makes_ask (makes_pass (reserve_eq_ok_iff.2 hrank) (makes_fault ?_))
      exact hostDims_eq_error_iff.2 ⟨_, _, _, hdims, hbefore, hd, rfl⟩
    | @length s t hcode hrank hdims hlength =>
      obtain ⟨shape, hhost⟩ := exists_hostDims index hdims
      refine makes_ask (makes_ask (makes_pass (decodeElementType_eq_ok_iff.2 hcode) ?_))
      refine makes_ask (makes_pass (reserve_eq_ok_iff.2 hrank) (makes_pass hhost ?_))
      exact makes_ask (makes_fault (reserve_eq_error_iff.2 ⟨hlength, rfl⟩))
    | @unread s t e hcode hrank hdims hlength hbytes =>
      obtain ⟨shape, hhost⟩ := exists_hostDims index hdims
      refine makes_ask (makes_ask (makes_pass (decodeElementType_eq_ok_iff.2 hcode) ?_))
      refine makes_ask (makes_pass (reserve_eq_ok_iff.2 hrank) (makes_pass hhost ?_))
      refine makes_ask (makes_pass (reserve_eq_ok_iff.2 hlength) ?_)
      refine Action.makes_bind_iff.2 (.inl ⟨e, rfl, ?_⟩)
      rw [hbytes]
      exact Program.makes_perform_iff.2 rfl
    | @read s t yields =>
      obtain ⟨bytes, hbytes, hdata⟩ := yields.bytes_eq
      have hhost : hostDims index s.dims = .ok t.shape :=
        hostDims_eq_ok_iff.2 ⟨yields.dims_le, yields.shape_eq⟩
      refine makes_ask (makes_ask (makes_pass (decodeElementType_eq_ok_iff.2 yields.code_eq) ?_))
      refine makes_ask (makes_pass (reserve_eq_ok_iff.2 yields.rank_le) (makes_pass hhost ?_))
      refine makes_ask (makes_pass (reserve_eq_ok_iff.2 yields.length_le) ?_)
      refine Action.makes_bind_iff.2 (.inr ⟨[_], [], bytes, rfl, ?_, ?_⟩)
      · rw [hbytes]
        exact Program.makes_perform_iff.2 rfl
      · rw [← hdata]
        exact Action.makes_pure_iff.2 ⟨rfl, rfl⟩

/-! ## All outputs -/

/-- The calls that read views at the positions from `index` on. -/
def callsOf (list : Handle .list) (index : Nat) (shown : List Shown) : List (Item Backend) :=
  (shown.zipIdx index).flatMap fun s => s.1.calls list s.2

/-- The calls that read the outputs from position `index` on, and the result. -/
inductive ReadingFrom (list : Handle .list) (index : Nat) (outputs : List (Option Shown)) :
    List (Item Backend) → Except BridgeError (List Tensor) → Prop where
  /-- All of them are tensors. -/
  | all {shown : List Shown} {ts : List Tensor} (houtputs : outputs = shown.map some)
      (yields : List.Forall₂ Shown.Yields shown ts) :
      ReadingFrom list index outputs (callsOf list index shown) (.ok ts)
  /-- The first ones are tensors, and then there is a fault. -/
  | stopped {shown : List Shown} {ts : List Tensor} {output : Option Shown}
      {after : List (Option Shown)} {asked : List (Item Backend)} {e : BridgeError}
      (houtputs : outputs = shown.map some ++ output :: after)
      (yields : List.Forall₂ Shown.Yields shown ts)
      (fault : Reading list (index + shown.length) output asked (.error e)) :
      ReadingFrom list index outputs (callsOf list index shown ++ asked) (.error e)

/-- The calls that read the outputs of a list, and the result. -/
inductive Gathering (list : Handle .list) (outputs : List (Option Shown)) :
    List (Item Backend) → Except BridgeError (List Tensor) → Prop where
  /-- The host cannot hold so many tensors. -/
  | tooMany (hcount : allocationLimit < descriptorBytes outputs.length) :
      Gathering list outputs [.called (.listLength list) outputs.length]
        (.error (.resourceExhausted s!"{outputs.length} output descriptors"))
  /-- The outputs are read. -/
  | reading {cs : List (Item Backend)} {r : Except BridgeError (List Tensor)}
      (hcount : descriptorBytes outputs.length ≤ allocationLimit)
      (from_first : ReadingFrom list 0 outputs cs r) :
      Gathering list outputs (.called (.listLength list) outputs.length :: cs) r

lemma callsOf_cons (s : Shown) (shown : List Shown) :
    callsOf list index (s :: shown) = s.calls list index ++ callsOf list (index + 1) shown := by
  rw [callsOf, List.zipIdx_cons, List.flatMap_cons, callsOf]

lemma readingFrom_nil_iff {r : Except BridgeError (List Tensor)} :
    ReadingFrom list index [] cs r ↔ cs = [] ∧ r = .ok [] := by
  constructor
  · intro h
    cases h with
    | all houtputs yields =>
      obtain rfl := List.map_eq_nil_iff.1 houtputs.symm
      cases yields
      exact ⟨rfl, rfl⟩
    | stopped houtputs => simp at houtputs
  · rintro ⟨rfl, rfl⟩
    exact @ReadingFrom.all list index [] [] [] rfl .nil

lemma reading_ok_iff {output : Option Shown} {t : Tensor} :
    Reading list index output cs (.ok t) ↔
      ∃ s, output = some s ∧ cs = s.calls list index ∧ s.Yields t := by
  constructor
  · intro h
    cases h with
    | @read s _ yields => exact ⟨s, rfl, rfl, yields⟩
  · rintro ⟨s, rfl, rfl, yields⟩
    exact .read yields

lemma readingFrom_cons_iff {output : Option Shown} {outputs : List (Option Shown)}
    {r : Except BridgeError (List Tensor)} :
    ReadingFrom list index (output :: outputs) cs r ↔
      (∃ e, Reading list index output cs (.error e) ∧ r = .error e) ∨
        ∃ first later t r', cs = first ++ later ∧ Reading list index output first (.ok t) ∧
          ReadingFrom list (index + 1) outputs later r' ∧ r = r'.map (t :: ·) := by
  constructor
  · intro h
    cases h with
    | @all shown ts houtputs yields =>
      cases yields with
      | nil => cases houtputs
      | @cons s t shown ts hhead hrest =>
        obtain ⟨rfl, hlater⟩ := List.cons_eq_cons.1 houtputs
        rw [callsOf_cons]
        exact .inr ⟨_, _, t, _, rfl, .read hhead, .all hlater hrest, rfl⟩
    | @stopped shown ts output' after asked e houtputs yields fault =>
      cases yields with
      | nil =>
        obtain ⟨rfl, -⟩ := List.cons_eq_cons.1 houtputs
        exact .inl ⟨e, fault, rfl⟩
      | @cons s t shown ts hhead hrest =>
        obtain ⟨rfl, hlater⟩ := List.cons_eq_cons.1 houtputs
        rw [List.length_cons, ← Nat.add_assoc, Nat.add_right_comm] at fault
        rw [callsOf_cons, List.append_assoc]
        exact .inr ⟨_, _, t, _, rfl, .read hhead, .stopped hlater hrest fault, rfl⟩
  · rintro (⟨e, fault, rfl⟩ | ⟨_, later, t, r', rfl, hread, hrest, rfl⟩)
    · exact @ReadingFrom.stopped list index _ [] [] output outputs cs e rfl .nil fault
    · obtain ⟨s, rfl, rfl, hhead⟩ := reading_ok_iff.1 hread
      cases hrest with
      | all houtputs yields =>
        rw [← callsOf_cons]
        exact .all (congrArg (some s :: ·) houtputs) (.cons hhead yields)
      | stopped houtputs yields fault =>
        rw [← List.append_assoc, ← callsOf_cons]
        refine .stopped (congrArg (some s :: ·) houtputs) (.cons hhead yields) ?_
        rwa [List.length_cons, ← Nat.add_assoc, Nat.add_right_comm]

/-- Outputs are read one after the other up to the first fault. -/
lemma makes_readFrom_iff {count : Nat} {r : Except BridgeError (List Tensor)} :
    (readFrom list index count).run.Makes cs r ↔
      ∃ outputs, outputs.length = count ∧ ReadingFrom list index outputs cs r := by
  induction count generalizing index cs r with
  | zero =>
    have hdone : (readFrom list index 0).run.Makes cs r ↔ ReadingFrom list index [] cs r :=
      Action.makes_pure_iff.trans readingFrom_nil_iff.symm
    rw [hdone]
    constructor
    · intro h
      exact ⟨[], rfl, h⟩
    · rintro ⟨outputs, hlength, h⟩
      rwa [List.length_eq_zero_iff.1 hlength] at h
  | succ count ih =>
    rw [readFrom, Action.makes_bind_iff]
    constructor
    · rintro (⟨e, rfl, hfirst⟩ | ⟨first, later, t, rfl, hfirst, hlater⟩)
      · obtain ⟨output, fault⟩ := makes_readOutput_iff.1 hfirst
        -- What the later entries show is never asked.
        refine ⟨output :: List.replicate count none, by simp, ?_⟩
        exact readingFrom_cons_iff.2 (.inl ⟨e, fault, rfl⟩)
      · obtain ⟨output, hread⟩ := makes_readOutput_iff.1 hfirst
        rcases Action.makes_bind_iff.1 hlater with
          ⟨e, rfl, hrest⟩ | ⟨rest, _, ts, rfl, hrest, hdone⟩
        · obtain ⟨outputs, hlength, hrest⟩ := ih.1 hrest
          refine ⟨output :: outputs, by simp [hlength], readingFrom_cons_iff.2 (.inr ?_)⟩
          exact ⟨first, later, t, .error e, rfl, hread, hrest, rfl⟩
        · obtain ⟨rfl, rfl⟩ := Action.makes_pure_iff.1 hdone
          obtain ⟨outputs, hlength, hrest⟩ := ih.1 hrest
          refine ⟨output :: outputs, by simp [hlength], readingFrom_cons_iff.2 (.inr ?_)⟩
          exact ⟨first, rest, t, .ok ts, by simp, hread, hrest, rfl⟩
    · rintro ⟨outputs, hlength, h⟩
      obtain ⟨output, outputs, rfl⟩ := List.exists_cons_of_length_eq_add_one hlength
      rcases readingFrom_cons_iff.1 h with
        ⟨e, fault, rfl⟩ | ⟨first, later, t, r', rfl, hread, hrest, rfl⟩
      · exact .inl ⟨e, rfl, makes_readOutput_iff.2 ⟨output, fault⟩⟩
      · refine .inr ⟨first, later, t, rfl, makes_readOutput_iff.2 ⟨output, hread⟩, ?_⟩
        have hrest := ih.2 ⟨outputs, Nat.succ.inj hlength, hrest⟩
        rw [Action.makes_bind_iff]
        cases r' with
        | error e => exact .inl ⟨e, rfl, hrest⟩
        | ok ts => exact .inr ⟨later, [], ts, by simp, hrest, Action.makes_pure_iff.2 ⟨rfl, rfl⟩⟩

/-- **The outputs of a list** are read up to the first fault. -/
theorem makes_readOutputs_iff {r : Except BridgeError (List Tensor)} :
    (readOutputs list).run.Makes cs r ↔ ∃ outputs, Gathering list outputs cs r := by
  unfold readOutputs
  constructor
  · intro h
    obtain ⟨count, later, rfl, hcounted⟩ := Action.makes_ask_iff.1 h
    by_cases hcount : allocationLimit < descriptorBytes count
    · rw [if_pos hcount] at hcounted
      obtain ⟨rfl, rfl⟩ := Action.makes_throw_iff.1 hcounted
      have hlength : (List.replicate count (none : Option Shown)).length = count :=
        List.length_replicate
      refine ⟨List.replicate count none, ?_⟩
      have htooMany : Gathering list (List.replicate count none) _ _ :=
        .tooMany (hlength.symm ▸ hcount)
      rwa [hlength] at htooMany
    · rw [if_neg hcount] at hcounted
      obtain ⟨outputs, rfl, hread⟩ := makes_readFrom_iff.1 hcounted
      exact ⟨outputs, .reading (not_lt.1 hcount) hread⟩
  · rintro ⟨outputs, h⟩
    cases h with
    | tooMany hcount =>
      refine makes_ask ?_
      rw [if_pos hcount]
      exact Action.makes_throw_iff.2 ⟨rfl, rfl⟩
    | reading hcount h =>
      refine makes_ask ?_
      rw [if_neg (not_lt.2 hcount)]
      exact makes_readFrom_iff.2 ⟨outputs, rfl, h⟩

/-! ## All or nothing -/

/-- A view that can be returned: the code is that of an element type, no dimension and no length is
too large, and the bytes can be read. -/
structure Shown.Sound (s : Shown) : Prop where
  has_type : ∃ t : ElementType, t.toNative = s.code
  dims_le : ∀ d ∈ s.dims, d.toNat ≤ dimensionLimit
  length_le : s.byteLength.toNat ≤ allocationLimit
  has_bytes : ∃ bytes, s.bytes = .ok bytes

/-- All entries of a list are views that can be returned. -/
def Sound (outputs : List (Option Shown)) : Prop :=
  ∀ output ∈ outputs, ∃ s, output = some s ∧ s.Sound

/-- The replies with the dimensions have room in the host, so it can hold as many dimensions. -/
def Held (outputs : List (Option Shown)) : Prop :=
  ∀ s, some s ∈ outputs → dimensionBytes s.dims.length ≤ allocationLimit

lemma Shown.Yields.sound {s : Shown} {t : Tensor} (h : s.Yields t) : s.Sound where
  has_type := ⟨t.elementType, h.code_eq⟩
  dims_le := h.dims_le
  length_le := h.length_le
  has_bytes := h.bytes_eq.imp fun _ => And.left

lemma Shown.Sound.exists_yields {s : Shown} (h : s.Sound)
    (hrank : dimensionBytes s.dims.length ≤ allocationLimit) : ∃ t, s.Yields t := by
  obtain ⟨t, hcode⟩ := h.has_type
  obtain ⟨bytes, hbytes⟩ := h.has_bytes
  obtain ⟨shape, hhost⟩ := exists_hostDims 0 h.dims_le
  have hshape := (hostDims_eq_ok_iff.1 hhost).2
  exact ⟨⟨t, shape, bytes.val⟩, hcode, hrank, h.dims_le, hshape, h.length_le, bytes, hbytes, rfl⟩

/-- A view that is not returned is not sound. -/
lemma not_sound_of_reading {s : Shown} {e : BridgeError}
    (hrank : dimensionBytes s.dims.length ≤ allocationLimit)
    (h : Reading list index (some s) cs (.error e)) : ¬s.Sound := by
  intro hsound
  cases h with
  | noType hcode =>
    obtain ⟨t, ht⟩ := hsound.has_type
    exact hcode t ht
  | rank _ hlt => exact absurd hrank (not_le.2 hlt)
  | dimension _ _ hdims _ hd =>
    have hmem : _ ∈ s.dims := hdims ▸ List.mem_append_right _ List.mem_cons_self
    exact absurd (hsound.dims_le _ hmem) (not_le.2 hd)
  | length _ _ _ hlt => exact absurd hsound.length_le (not_le.2 hlt)
  | unread _ _ _ _ hbytes =>
    obtain ⟨bytes, hok⟩ := hsound.has_bytes
    cases hbytes.symm.trans hok

/-- Whatever an entry has to show, something comes of reading it. -/
lemma exists_reading (list : Handle .list) (index : Nat) (output : Option Shown) :
    ∃ cs r, Reading list index output cs r := by
  rcases output with _ | s
  · exact ⟨_, _, .noView⟩
  by_cases hcode : ∃ t : ElementType, t.toNative = s.code
  swap
  · exact ⟨_, _, .noType (not_exists.1 hcode)⟩
  obtain ⟨t, hcode⟩ := hcode
  by_cases hrank : dimensionBytes s.dims.length ≤ allocationLimit
  swap
  · exact ⟨_, _, .rank hcode (not_le.1 hrank)⟩
  rcases hhost : hostDims index s.dims with e | shape
  · obtain ⟨before, d, after, hdims, hbefore, hd, -⟩ := hostDims_eq_error_iff.1 hhost
    exact ⟨_, _, .dimension hcode hrank hdims hbefore hd⟩
  have hdims := (hostDims_eq_ok_iff.1 hhost).1
  by_cases hlength : s.byteLength.toNat ≤ allocationLimit
  swap
  · exact ⟨_, _, .length hcode hrank hdims (not_le.1 hlength)⟩
  rcases hbytes : s.bytes with e | bytes
  · exact ⟨_, _, .unread hcode hrank hdims hlength hbytes⟩
  · have hsound : s.Sound := ⟨⟨t, hcode⟩, hdims, hlength, bytes, hbytes⟩
    obtain ⟨t, yields⟩ := hsound.exists_yields hrank
    exact ⟨_, _, .read yields⟩

lemma exists_readingFrom (list : Handle .list) (index : Nat) (outputs : List (Option Shown)) :
    ∃ cs r, ReadingFrom list index outputs cs r := by
  induction outputs generalizing index with
  | nil => exact ⟨[], .ok [], readingFrom_nil_iff.2 ⟨rfl, rfl⟩⟩
  | cons output outputs ih =>
    obtain ⟨first, e | t, hfirst⟩ := exists_reading list index output
    · exact ⟨first, .error e, readingFrom_cons_iff.2 (.inl ⟨e, hfirst, rfl⟩)⟩
    · obtain ⟨later, r, hlater⟩ := ih (index + 1)
      exact ⟨_, _, readingFrom_cons_iff.2 (.inr ⟨first, later, t, r, rfl, hfirst, hlater, rfl⟩)⟩

lemma exists_gathering (list : Handle .list) (outputs : List (Option Shown)) :
    ∃ cs r, Gathering list outputs cs r := by
  by_cases hcount : descriptorBytes outputs.length ≤ allocationLimit
  · obtain ⟨cs, r, h⟩ := exists_readingFrom list 0 outputs
    exact ⟨_, _, .reading hcount h⟩
  · exact ⟨_, _, .tooMany (not_le.1 hcount)⟩

/-- The entries are returned if all of them are sound. -/
lemma readingFrom_isOk_iff {outputs : List (Option Shown)} {r : Except BridgeError (List Tensor)}
    (held : Held outputs) (h : ReadingFrom list index outputs cs r) :
    (∃ ts, r = .ok ts) ↔ Sound outputs := by
  cases h with
  | @all shown ts houtputs yields =>
    have hsound := ((List.forall₂_and_left _ _).1 (yields.imp fun _ _ h => ⟨h.sound, h⟩)).1
    refine iff_of_true ⟨ts, rfl⟩ fun output hmem => ?_
    rw [houtputs] at hmem
    obtain ⟨s, hs, rfl⟩ := List.mem_map.1 hmem
    exact ⟨s, rfl, hsound s hs⟩
  | @stopped shown ts output after asked e houtputs yields fault =>
    refine iff_of_false (fun ⟨_, h⟩ => by cases h) fun hsound => ?_
    have hmem : output ∈ outputs := houtputs ▸ List.mem_append_right _ List.mem_cons_self
    obtain ⟨s, rfl, hs⟩ := hsound output hmem
    exact not_sound_of_reading (held s hmem) fault hs

/-- **Outputs are returned all or not at all.**  The calls that read a list are those that its
entries call for, up to the first fault.  Whatever the entries have to show, something comes of
reading them, and it is all the tensors just if all the entries are sound and the host can hold so
many tensors. -/
theorem outputs_all_or_nothing (list : Handle .list) :
    (∀ cs r, (readOutputs list).run.Makes cs r ↔ ∃ outputs, Gathering list outputs cs r) ∧
      ∀ outputs, Held outputs →
        (∃ cs r, Gathering list outputs cs r) ∧
          ∀ cs r, Gathering list outputs cs r →
            ((∃ ts, r = .ok ts) ↔
              descriptorBytes outputs.length ≤ allocationLimit ∧ Sound outputs) := by
  refine ⟨fun cs r => makes_readOutputs_iff, fun outputs held => ?_⟩
  refine ⟨exists_gathering list outputs, fun cs r h => ?_⟩
  cases h with
  | tooMany hcount =>
    exact iff_of_false (fun ⟨_, h⟩ => by cases h) fun h => absurd h.1 (not_le.2 hcount)
  | reading hcount h =>
    rw [readingFrom_isOk_iff held h, and_iff_right hcount]

/-- A view of one number. -/
def sampleNumber : Shown := ⟨⟨5⟩, ElementType.i32.toNative, [], 4, .ok ⟨[1, 0, 0, 0], by decide⟩⟩

/-- A view with a dimension that has no counterpart with a sign. -/
def sampleLarge : Shown :=
  ⟨⟨6⟩, ElementType.f64.toNative, [2, 9223372036854775808], 16,
    .ok ⟨List.replicate 16 0, by decide⟩⟩

/-- The second output has too large a dimension, so the first one is not returned either, and the
third entry, which is no view, is never asked for. -/
theorem outputs_all_or_nothing_sample :
    Held [some sampleNumber, some sampleLarge, none] ∧
      (readOutputs ⟨2⟩).run.Makes
        (.called (.listLength ⟨2⟩) (3 : Nat) ::
          (sampleNumber.calls ⟨2⟩ 0 ++ (sampleLarge.calls ⟨2⟩ 1).take 3))
        (.error (.resourceExhausted "output 1 dimension 9223372036854775808 exceeds i64")) ∧
      ¬Sound [some sampleNumber, some sampleLarge, none] := by
  have held : Held [some sampleNumber, some sampleLarge, none] := by
    simp [Held, sampleNumber, sampleLarge, dimensionBytes, allocationLimit]
  have yields : sampleNumber.Yields ⟨.i32, [], [1, 0, 0, 0]⟩ :=
    ⟨rfl, by decide +kernel, List.forall_mem_nil _, rfl, by decide +kernel, _, rfl, rfl⟩
  have fault : Reading ⟨2⟩ 1 (some sampleLarge) ((sampleLarge.calls ⟨2⟩ 1).take 3)
      (.error (.resourceExhausted "output 1 dimension 9223372036854775808 exceeds i64")) :=
    @Reading.dimension _ _ sampleLarge .f64 [2] [] 9223372036854775808 rfl (by decide +kernel) rfl
      (List.forall_mem_singleton.2 (by decide +kernel)) (by decide +kernel)
  have gathering : Gathering ⟨2⟩ [some sampleNumber, some sampleLarge, none] _ _ :=
    .reading (by decide) (@ReadingFrom.stopped _ _ _ [sampleNumber] _ _ _ _ _ rfl
      (.cons yields .nil) fault)
  obtain ⟨hmakes, hall⟩ := outputs_all_or_nothing ⟨2⟩
  refine ⟨held, (hmakes _ _).2 ⟨_, gathering⟩, fun hsound => ?_⟩
  obtain ⟨_, hok⟩ := ((hall _ held).2 _ _ gathering).2 ⟨by decide, hsound⟩
  cases hok

end Marshal

end TensorBridge
