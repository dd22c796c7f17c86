import Mathlib
import TensorBridge.Proofs.Memory.Sessions
import TensorBridge.Proofs.Session.Arguments

/-!
# Invocations on the runtime in memory

What comes of an invocation on the runtime in memory.  `Setting.outcome` tells it by the setting and
the arguments alone, with nothing in it of addresses, lists, views or references.
`Memory.invoke_keeps` proves that it is the outcome, that no rule is broken on the way, and that
what is held afterwards is what was held before.
-/

namespace TensorBridge

namespace Memory

open Backend Holds

namespace Setting

/-- What a function returns.  It goes by the last part of the name of the entry point. -/
def result (s : Setting) (entry : String) (inputs : List Tensor) :
    Except BridgeError (List Tensor) :=
  match lastPart entry with
  | "identity" =>
    if inputs ≠ [] ∧ .onRead ∈ s.faults then .error (injected "read_buffer_view") else .ok inputs
  | "discard" => .ok []
  | "int8" => .error (.unsupportedElementType 0x10000008)
  | "opaque" => .error (.missingOutput 0)
  | _ => .error (unknownFunction entry)

/-- What comes of inputs that are in order. -/
def exchange (s : Setting) (entry : String) (inputs : List Tensor) :
    Except BridgeError (List Tensor) :=
  if inputs ≠ [] ∧ .onUpload ∈ s.faults then .error (injected "allocate_buffer_copy")
  else if inputs ≠ [] ∧ .onPush ∈ s.faults then .error (injected "push_buffer_view")
  else if .onCall ∈ s.faults then .error (injected "call")
  else s.result entry inputs

/-- What an invocation returns. -/
def outcome (s : Setting) (entry : String) (inputs : List Tensor) :
    Except BridgeError (List Tensor) :=
  if entry.isEmpty then .error (.invalidArgument "entry" "entry point name is empty")
  else
    match Marshal.firstFault inputs with
    | some fault => .error (Marshal.refusal fault)
    | none => s.exchange entry inputs

end Setting

/-- Inputs that a host can hold.  No allocation exceeds the limit, so all inputs that reach the
bridge are such; a list as such may be longer. -/
def Hosted (inputs : List Tensor) : Prop :=
  Marshal.descriptorBytes inputs.length ≤ allocationLimit ∧
    ∀ t ∈ inputs, Marshal.dimensionBytes t.shape.length ≤ allocationLimit ∧
      t.data.length ≤ allocationLimit

variable {s : Setting} {live : List Nat} {lists : List (Nat × List MemorySlot)}
  {made : List (Nat × Content)} {bag : Multiset Nat} {m : Memory} {o i : Nat}

/-- What the view of an input shows. -/
def contentOf (t : Tensor) : Content :=
  ⟨t.elementType.toNative, Marshal.nativeDims t.shape, t.data⟩

/-- While an invocation uses its two lists, the references are those in their slots. -/
def Exchanging (s : Setting) (live : List Nat) (o i : Nat) (m : Memory) : Prop :=
  ∃ outs ins made,
    Holds s live [(o, outs), (i, ins)] made (↑(viewAddresses outs) + ↑(viewAddresses ins)) m

@[simp] lemma viewAddresses_nil : viewAddresses [] = [] := rfl

@[simp] lemma viewAddresses_opaqueValue : viewAddresses [.opaqueValue] = [] := rfl

lemma viewAddresses_map_view (addresses : List Nat) :
    viewAddresses (addresses.map .view) = addresses := by
  induction addresses with
  | nil => rfl
  | cons a rest ih => simp [viewAddresses]

lemma coe_snoc (addresses : List Nat) (w : Nat) :
    (↑(addresses ++ [w]) : Multiset Nat) = w ::ₘ ↑addresses := by
  rw [← Multiset.coe_add, add_comm]
  rfl

lemma exchanging_of_outputs {outs : List MemorySlot} {pushed : List Nat}
    (h : Holds s live [(o, outs), (i, pushed.map .view)] made
      (↑(viewAddresses outs) + ↑pushed) m) :
    Exchanging s live o i m :=
  ⟨outs, pushed.map .view, made, by rwa [viewAddresses_map_view]⟩

lemma exchanging_of_pushed {pushed : List Nat}
    (h : Holds s live [(o, []), (i, pushed.map .view)] made ↑pushed m) :
    Exchanging s live o i m := by
  have hnone : Holds s live [(o, []), (i, pushed.map .view)] made
      (↑(viewAddresses []) + ↑pushed) m := by simpa using h
  exact exchanging_of_outputs hnone

/-! ## Inputs -/

/-- The views with these addresses show these tensors. -/
def Shows (made : List (Nat × Content)) (addresses : List Nat) (inputs : List Tensor) : Prop :=
  List.Forall₂ (fun w t => made.lookup w = some (contentOf t)) addresses inputs

/-- A new view leaves what the others show. -/
lemma lookup_cons_of_new {content content' : Content} {v w : Nat} (hnew : w ∉ made.map Prod.fst)
    (hv : made.lookup v = some content) : ((w, content') :: made).lookup v = some content := by
  have hne : v ≠ w := by
    rintro rfl
    obtain ⟨first, second, rfl, -⟩ := List.lookup_eq_some_iff.1 hv
    simp at hnew
  rw [List.lookup_cons, beq_eq_false_iff_ne.2 hne, hv]

lemma Shows.snoc {addresses : List Nat} {inputs : List Tensor} {w : Nat} {t : Tensor}
    (h : Shows made addresses inputs) (hnew : w ∉ made.map Prod.fst) :
    Shows ((w, contentOf t) :: made) (addresses ++ [w]) (inputs ++ [t]) := by
  refine List.rel_append (h.imp fun v u hv => lookup_cons_of_new hnew hv) ?_
  simp

/-- Pushing the inputs. -/
lemma pushInputs_meets {session : Handle .session} {inputs : List Tensor} {pushed : List Nat}
    {before : List Tensor} (hne : o ≠ i)
    (h : Holds s live [(o, []), (i, pushed.map .view)] made ↑pushed m)
    (hshows : Shows made pushed before) :
    (Marshal.pushInputs session ⟨i⟩ inputs).Meets watch m
      (fun _ m' => (inputs ≠ [] → .onUpload ∉ s.faults ∧ .onPush ∉ s.faults) ∧
        ∃ pushed' made', Shows made' pushed' (before ++ inputs) ∧
          Holds s live [(o, []), (i, pushed'.map .view)] made' ↑pushed' m')
      (fun e m' => inputs ≠ [] ∧ (.onUpload ∈ s.faults ∧ e = injected "allocate_buffer_copy" ∨
          .onUpload ∉ s.faults ∧ .onPush ∈ s.faults ∧ e = injected "push_buffer_view") ∧
        Exchanging s live o i m') := by
  induction inputs generalizing m made pushed before with
  | nil =>
    refine ⟨by simp, pushed, made, ?_, h⟩
    simpa using hshows
  | cons t rest ih =>
    simp only [Marshal.pushInputs, Marshal.pushInput, Action.meets_bind]
    refine uploadView_meets h (contentOf t) (fun hup w m₁ hnew h₁ => ?_)
      fun hup m₁ h₁ => ?_
    · refine pushView_meets h₁ (by simp) (fun hpush m₂ h₂ => ?_) fun hpush m₂ h₂ => ?_
      · have hlists : updateAt i (· ++ [MemorySlot.view w]) [(o, []), (i, pushed.map .view)] =
            [(o, []), (i, (pushed ++ [w]).map .view)] := by simp [updateAt, hne]
        rw [hlists, ← coe_snoc] at h₂
        refine (ih h₂ (hshows.snoc hnew)).mono ?_ ?_
        · rintro _ m₃ ⟨-, pushed', made', hshows', h₃⟩
          exact ⟨fun _ => ⟨hup, hpush⟩, pushed', made', by simpa using hshows', h₃⟩
        · rintro e m₃ ⟨-, hfault, h₃⟩
          exact ⟨by simp, hfault, h₃⟩
      · exact ⟨by simp, .inr ⟨hup, hpush, rfl⟩, exchanging_of_pushed h₂⟩
    · exact ⟨by simp, .inl ⟨hup, rfl⟩, exchanging_of_pushed h₁⟩

/-! ## Outputs -/

/-- A tensor that a host can hold and that is well formed. -/
structure Readable (t : Tensor) : Prop where
  nonneg : ∀ d ∈ t.shape, 0 ≤ d.toInt
  rank_le : Marshal.dimensionBytes t.shape.length ≤ allocationLimit
  length_le : t.data.length ≤ allocationLimit

/-- Reading a view that shows a tensor. -/
lemma readOutput_meets {list : Handle .list} {index w : Nat} {slots : List MemorySlot} {t : Tensor}
    (h : Holds s live lists made bag m) (hlist : lists.lookup list.address = some slots)
    (hslot : slots[index]? = some (.view w)) (hmade : made.lookup w = some (contentOf t))
    (hw : w ∈ bag) (ht : Readable t) :
    (Marshal.readOutput list index).Meets watch m
      (fun r m' => r = t ∧ .onRead ∉ s.faults ∧ Holds s live lists made bag m')
      (fun e m' => e = injected "read_buffer_view" ∧ .onRead ∈ s.faults ∧
        Holds s live lists made bag m') := by
  have hlength : (UInt64.ofNat t.data.length).toNat = t.data.length := by
    refine UInt64.toNat_ofNat_of_lt' (lt_of_le_of_lt ht.length_le ?_)
    decide
  have hle : (UInt64.ofNat (contentOf t).data.length).toNat ≤ allocationLimit :=
    hlength.trans_le ht.length_le
  have hdims : (contentOf t).dims.length = t.shape.length := Marshal.length_nativeDims _
  simp only [Marshal.readOutput, Action.meets_bind]
  refine viewAt_meets h hlist (fun w' hw' => ?_) fun hnone => absurd hslot (hnone w)
  obtain rfl : w = w' := by simpa [hslot] using hw'
  simp only [Action.meets_bind, Action.meets_pure]
  refine viewCode_meets h hmade hw ?_
  refine Marshal.liftExcept_meets_of_ok (Marshal.decodeElementType_toNative _) ?_
  refine viewDims_meets h hmade hw ?_
  refine Marshal.liftExcept_meets_of_ok (Marshal.reserve_of_le (hdims ▸ ht.rank_le)) ?_
  refine Marshal.liftExcept_meets_of_ok (Marshal.hostDims_nativeDims ht.nonneg) ?_
  refine viewByteLength_meets h hmade hw ?_
  refine Marshal.liftExcept_meets_of_ok (Marshal.reserve_of_le hle) ?_
  refine readView_meets h hmade hw hlength.symm (fun hread bytes m' hbytes hm => ?_)
    fun hread m' hm => ⟨rfl, hread, hm⟩
  exact ⟨by rw [hbytes]; rfl, hread, hm⟩

/-- Reading the views of an invocation that returns its inputs, from one position on. -/
lemma readFrom_meets {list : Handle .list} {slots : List MemorySlot} {pushed : List Nat}
    {inputs : List Tensor} {index : Nat} (h : Holds s live lists made bag m)
    (hlist : lists.lookup list.address = some slots)
    (hslots : ∀ k w, pushed[k]? = some w → slots[index + k]? = some (.view w))
    (hshows : Shows made pushed inputs) (hbag : ∀ w ∈ pushed, w ∈ bag)
    (hread : ∀ t ∈ inputs, Readable t) :
    (Marshal.readFrom list index pushed.length).Meets watch m
      (fun r m' => r = inputs ∧ (inputs ≠ [] → .onRead ∉ s.faults) ∧
        Holds s live lists made bag m')
      (fun e m' => e = injected "read_buffer_view" ∧ inputs ≠ [] ∧ .onRead ∈ s.faults ∧
        Holds s live lists made bag m') := by
  induction hshows generalizing m index with
  | nil => exact ⟨rfl, by simp, h⟩
  | @cons w t pushed inputs hw hshows ih =>
    obtain ⟨ht, hrest⟩ := List.forall_mem_cons.1 hread
    obtain ⟨hwbag, hbag⟩ := List.forall_mem_cons.1 hbag
    simp only [List.length_cons, Marshal.readFrom, Action.meets_bind, Action.meets_pure]
    refine (readOutput_meets h hlist (hslots 0 w rfl) hw hwbag ht).mono ?_ ?_
    · rintro _ m₁ ⟨rfl, hok, h₁⟩
      refine (ih h₁ (fun k x hx => ?_) hbag hrest).mono ?_ ?_
      · have hnext := hslots (k + 1) x hx
        rwa [← Nat.add_assoc, Nat.add_right_comm] at hnext
      · rintro _ m₂ ⟨rfl, -, h₂⟩
        exact ⟨rfl, fun _ => hok, h₂⟩
      · rintro e m₂ ⟨he, -, hbad, h₂⟩
        exact ⟨he, by simp, hbad, h₂⟩
    · rintro e m₁ ⟨he, hbad, h₁⟩
      exact ⟨he, by simp, hbad, h₁⟩

/-- Reading a list of results that is not too long. -/
lemma readOutputs_meets {list : Handle .list} {slots : List MemorySlot}
    (h : Holds s live lists made bag m) (hlist : lists.lookup list.address = some slots)
    (hcount : Marshal.descriptorBytes slots.length ≤ allocationLimit)
    {ok : List Tensor → Memory → Prop} {bad : BridgeError → Memory → Prop}
    (hread : (Marshal.readFrom list 0 slots.length).Meets watch m ok bad) :
    (Marshal.readOutputs list).Meets watch m ok bad := by
  simp only [Marshal.readOutputs, Action.meets_bind]
  refine listLength_meets h hlist ?_
  rwa [if_neg (not_lt.2 hcount)]

/-- The one slot of a list of results holds a view of another type. -/
lemma readOutput_int8 {list : Handle .list} {w : Nat} (h : Holds s live lists made bag m)
    (hlist : lists.lookup list.address = some [.view w])
    (hmade : made.lookup w = some int8Content) (hw : w ∈ bag)
    {ok : Tensor → Memory → Prop} {bad : BridgeError → Memory → Prop}
    (hbad : bad (.unsupportedElementType 0x10000008) m) :
    (Marshal.readOutput list 0).Meets watch m ok bad := by
  simp only [Marshal.readOutput, Action.meets_bind]
  refine viewAt_meets h hlist (fun w' hw' => ?_) fun hnone => absurd rfl (hnone w)
  obtain rfl : w = w' := by simpa using hw'
  simp only [Action.meets_bind]
  refine viewCode_meets h hmade hw ?_
  exact hbad

/-- The one slot of a list of results holds no view. -/
lemma readOutput_opaque {list : Handle .list} (h : Holds s live lists made bag m)
    (hlist : lists.lookup list.address = some [.opaqueValue])
    {ok : Tensor → Memory → Prop} {bad : BridgeError → Memory → Prop}
    (hbad : bad (.missingOutput 0) m) :
    (Marshal.readOutput list 0).Meets watch m ok bad := by
  simp only [Marshal.readOutput, Action.meets_bind]
  refine viewAt_meets h hlist (fun w hw => ?_) fun _ => hbad
  simp at hw

/-! ## The exchange -/

/-- Inputs that pass the checks and that a host can hold can be read. -/
lemma readable_of_hosted {inputs : List Tensor} (hvalid : ∀ t ∈ inputs, t.validate = .ok ())
    (hosted : Hosted inputs) : ∀ t ∈ inputs, Readable t := fun t ht =>
  ⟨Tensor.nonneg_of_validate (hvalid t ht), (hosted.2 t ht).1, (hosted.2 t ht).2⟩

lemma updateAt_outputs (hne : o ≠ i) (f : List MemorySlot → List MemorySlot)
    (outs ins : List MemorySlot) :
    updateAt o f [(o, outs), (i, ins)] = [(o, f outs), (i, ins)] := by
  simp [updateAt, hne.symm]

lemma lookup_outputs (outs ins : List MemorySlot) :
    ([(o, outs), (i, ins)] : List (Nat × List MemorySlot)).lookup o = some outs := by
  simp

lemma lookup_inputs (hne : o ≠ i) (outs ins : List MemorySlot) :
    ([(o, outs), (i, ins)] : List (Nat × List MemorySlot)).lookup i = some ins := by
  have hbeq : (i == o) = false := beq_eq_false_iff_ne.2 hne.symm
  simp [List.lookup_cons, hbeq]

/-- Reading the results when they are the inputs. -/
lemma readIdentity_meets {inputs : List Tensor} {pushed : List Nat}
    (hread : ∀ t ∈ inputs, Readable t)
    (hcount : Marshal.descriptorBytes inputs.length ≤ allocationLimit)
    (h : Holds s live [(o, pushed.map .view), (i, pushed.map .view)] made
      (↑pushed + ↑pushed) m)
    (hshows : Shows made pushed inputs) :
    (Marshal.readOutputs ⟨o⟩).Meets watch m
      (fun r m' => r = inputs ∧ (inputs ≠ [] → .onRead ∉ s.faults) ∧ Exchanging s live o i m')
      (fun e m' => e = injected "read_buffer_view" ∧ inputs ≠ [] ∧ .onRead ∈ s.faults ∧
        Exchanging s live o i m') := by
  have hlength : (pushed.map MemorySlot.view).length = inputs.length := by
    rw [List.length_map]
    exact hshows.length_eq
  have hexchanging {m' : Memory} (h' : Holds s live [(o, pushed.map .view), (i, pushed.map .view)]
      made (↑pushed + ↑pushed) m') : Exchanging s live o i m' :=
    exchanging_of_outputs (by rwa [viewAddresses_map_view])
  refine readOutputs_meets h (lookup_outputs _ _) (hlength ▸ hcount) ?_
  rw [List.length_map]
  refine (readFrom_meets h (lookup_outputs _ _) (fun k w hk => ?_) hshows (by simp) hread).mono
    ?_ ?_
  · simp [hk]
  · rintro r m' ⟨hr, hok, hm⟩
    exact ⟨hr, hok, hexchanging hm⟩
  · rintro e m' ⟨he, hinputs, hbad, hm⟩
    exact ⟨he, hinputs, hbad, hexchanging hm⟩

/-- Calling an entry point with the inputs in a list, and reading the results. -/
lemma callAndRead_meets {session : Handle .session} {entry : String} {inputs : List Tensor}
    {pushed : List Nat} (hne : o ≠ i) (hread : ∀ t ∈ inputs, Readable t)
    (hcount : Marshal.descriptorBytes inputs.length ≤ allocationLimit)
    (h : Holds s live [(o, []), (i, pushed.map .view)] made ↑pushed m)
    (hshows : Shows made pushed inputs) :
    (do Backend.call session entry ⟨i⟩ ⟨o⟩
        Marshal.readOutputs ⟨o⟩ : Action Backend (List Tensor)).Meets watch m
      (fun r m' => (.onCall ∉ s.faults ∧ s.result entry inputs = .ok r) ∧
        Exchanging s live o i m')
      (fun e m' => (.onCall ∈ s.faults ∧ e = injected "call" ∨
        .onCall ∉ s.faults ∧ s.result entry inputs = .error e) ∧ Exchanging s live o i m') := by
  have hpushed := viewAddresses_map_view pushed
  rw [Action.meets_bind]
  refine call_meets h (lookup_inputs hne _ _) (by simp) (by simp [hpushed]) ?_ ?_ ?_ ?_ ?_ ?_
  · intro hfault m₁ h₁
    exact ⟨.inl ⟨hfault, rfl⟩, exchanging_of_pushed h₁⟩
  · intro hcall hname m₁ h₁
    rw [updateAt_outputs hne, hpushed, List.nil_append] at h₁
    refine (readIdentity_meets hread hcount h₁ hshows).mono ?_ ?_
    · rintro _ m₂ ⟨rfl, hok, h₂⟩
      refine ⟨⟨hcall, ?_⟩, h₂⟩
      simpa [Setting.result, hname] using hok
    · rintro _ m₂ ⟨rfl, hinputs, hbad, h₂⟩
      exact ⟨.inr ⟨hcall, by simp [Setting.result, hname, hinputs, hbad]⟩, h₂⟩
  · intro hcall hname m₁ h₁
    rw [updateAt_outputs hne] at h₁
    refine readOutputs_meets h₁ (lookup_outputs _ _) (by decide) ?_
    exact ⟨⟨hcall, by simp [Setting.result, hname]⟩, exchanging_of_pushed h₁⟩
  · intro hcall hname w m₁ _ h₁
    rw [updateAt_outputs hne, List.nil_append] at h₁
    have hone : Marshal.descriptorBytes [MemorySlot.view w].length ≤ allocationLimit := by
      rw [List.length_singleton]
      decide
    refine readOutputs_meets h₁ (lookup_outputs _ _) hone ?_
    simp only [List.length_singleton, Marshal.readFrom, Action.meets_bind]
    refine readOutput_int8 h₁ (lookup_outputs _ _) (by simp) (by simp) ?_
    exact ⟨.inr ⟨hcall, by simp [Setting.result, hname]⟩, exchanging_of_outputs h₁⟩
  · intro hcall hname m₁ h₁
    rw [updateAt_outputs hne] at h₁
    refine readOutputs_meets h₁ (lookup_outputs _ _) (by decide) ?_
    simp only [List.nil_append, List.length_singleton, Marshal.readFrom, Action.meets_bind]
    refine readOutput_opaque h₁ (lookup_outputs _ _) ?_
    have h₂ : Holds s live [(o, [.opaqueValue]), (i, pushed.map .view)] made
        (↑(viewAddresses [.opaqueValue]) + ↑pushed) m₁ := by simpa using h₁
    exact ⟨.inr ⟨hcall, by simp [Setting.result, hname]⟩, exchanging_of_outputs h₂⟩
  · intro hcall hname m₁ h₁
    refine ⟨.inr ⟨hcall, ?_⟩, exchanging_of_pushed h₁⟩
    unfold Setting.result
    split <;> simp_all [functions]

/-- **Inputs that are in order** are pushed, the entry point is called, and the results are read. -/
lemma exchange_meets {session : Handle .session} {entry : String} {inputs : List Tensor}
    (hne : o ≠ i) (hvalid : ∀ t ∈ inputs, t.validate = .ok ()) (hosted : Hosted inputs)
    (h : Holds s live [(o, []), (i, [])] [] 0 m) :
    (Session.exchange session entry inputs ⟨i⟩ ⟨o⟩).Meets watch m
      (fun r m' => s.exchange entry inputs = .ok r ∧ Exchanging s live o i m')
      (fun e m' => s.exchange entry inputs = .error e ∧ Exchanging s live o i m') := by
  unfold Session.exchange
  rw [Action.meets_bind]
  have hlists : Holds s live [(o, []), (i, ([] : List Nat).map .view)] [] ↑([] : List Nat) m := h
  have hshows : Shows [] [] [] := .nil
  refine (pushInputs_meets hne hlists hshows).mono ?_ ?_
  · rintro _ m₁ ⟨hpass, pushed, made, hshows, h₁⟩
    have hup : ¬(inputs ≠ [] ∧ .onUpload ∈ s.faults) := fun hbad => (hpass hbad.1).1 hbad.2
    have hpush : ¬(inputs ≠ [] ∧ .onPush ∈ s.faults) := fun hbad => (hpass hbad.1).2 hbad.2
    refine (callAndRead_meets hne (readable_of_hosted hvalid hosted) hosted.1 h₁ hshows).mono
      ?_ ?_
    · rintro r m₂ ⟨⟨hcall, hr⟩, h₂⟩
      rw [Setting.exchange, if_neg hup, if_neg hpush, if_neg hcall]
      exact ⟨hr, h₂⟩
    · rintro e m₂ ⟨⟨hcall, rfl⟩ | ⟨hcall, hr⟩, h₂⟩
      · rw [Setting.exchange, if_neg hup, if_neg hpush, if_pos hcall]
        exact ⟨rfl, h₂⟩
      · rw [Setting.exchange, if_neg hup, if_neg hpush, if_neg hcall]
        exact ⟨hr, h₂⟩
  · rintro e m₁ ⟨hinputs, ⟨hup, rfl⟩ | ⟨hup, hpush, rfl⟩, h₁⟩
    · rw [Setting.exchange, if_pos ⟨hinputs, hup⟩]
      exact ⟨rfl, h₁⟩
    · have hno : ¬(inputs ≠ [] ∧ .onUpload ∈ s.faults) := fun hbad => hup hbad.2
      rw [Setting.exchange, if_neg hno, if_pos ⟨hinputs, hpush⟩]
      exact ⟨rfl, h₁⟩

/-! ## Invocations -/

/-- The two lists are given back, and with them all references. -/
lemma callEntry_meets {session : Handle .session} {entry : String} {inputs : List Tensor}
    (hvalid : ∀ t ∈ inputs, t.validate = .ok ()) (hosted : Hosted inputs)
    (h : Holds s live [] [] 0 m) :
    (Session.callEntry session entry inputs).Meets watch m
      (fun r m' => s.exchange entry inputs = .ok r ∧ Holds s live [] [] 0 m')
      (fun e m' => s.exchange entry inputs = .error e ∧ Holds s live [] [] 0 m') := by
  simp only [Session.callEntry, Action.meets_bind, Action.meets_andThen]
  refine createList_meets h fun i m₁ _ h₁ => ?_
  refine createList_meets h₁ fun o m₂ hnew h₂ => ?_
  have hne : o ≠ i := fun heq => hnew _ List.mem_cons_self heq.symm
  -- Whatever is in the two lists, releasing them drops the last references.
  have hrelease {Q : Memory → Prop} {m₃ : Memory} (h₃ : Exchanging s (o :: i :: live) o i m₃)
      (hQ : ∀ m₄, Holds s live [] [] 0 m₄ → Q m₄) :
      (releaseList ⟨o⟩).Keeps watch m₃ fun _ m₄ =>
        (releaseList ⟨i⟩).Keeps watch m₄ fun _ m₅ => Q m₅ := by
    obtain ⟨outs, ins, made, h₃⟩ := h₃
    refine (releaseList_keeps h₃ (by simpa using hne.symm)).mono fun _ m₄ h₄ => ?_
    rw [← add_zero (↑(viewAddresses ins) : Multiset Nat)] at h₄
    exact (releaseList_keeps h₄ (by simp)).mono fun _ m₅ h₅ => hQ m₅ h₅.forget
  refine (exchange_meets hne hvalid hosted h₂).mono ?_ ?_
  · rintro r m₃ ⟨hr, h₃⟩
    exact hrelease h₃ fun m₄ h₄ => ⟨hr, h₄⟩
  · rintro e m₃ ⟨he, h₃⟩
    exact hrelease h₃ fun m₄ h₄ => ⟨he, h₄⟩

/-- **An invocation.** -/
theorem invoke_keeps {session : Session} {entry : String} {inputs : List Tensor}
    (hosted : Hosted inputs) (h : Holds s live [] [] 0 m) :
    (session.invoke entry inputs).Keeps watch m fun r m' =>
      r.1 = s.outcome entry inputs ∧
      r.2 = (match s.outcome entry inputs with
        | .ok _ => { session with invocations := session.invocations + 1 }
        | .error _ => session) ∧
      Holds s live [] [] 0 m' := by
  unfold Session.invoke Session.checkArguments
  by_cases hempty : entry.isEmpty
  · simp [Setting.outcome, hempty, h]
  rw [if_neg hempty, Marshal.validateInputs_eq]
  rcases hfault : Marshal.firstFault inputs with _ | fault
  · have hvalid := Marshal.validate_of_firstFault_eq_none hfault
    have houtcome : s.outcome entry inputs = s.exchange entry inputs := by
      simp [Setting.outcome, hempty, hfault]
    simp only [Program.keeps_bind]
    refine Program.Keeps.mono (callEntry_meets hvalid hosted h) fun r m₁ h₁ => ?_
    cases r with
    | ok results => simpa [houtcome, h₁.1] using h₁.2
    | error e => simpa [houtcome, h₁.1] using h₁.2
  · simp [Setting.outcome, hempty, hfault, h]

end Memory

end TensorBridge
