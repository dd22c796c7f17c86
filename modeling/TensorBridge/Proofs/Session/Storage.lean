import Mathlib
import TensorBridge.Proofs.Memory.Invocation
import TensorBridge.Proofs.Session.Confinement

/-!
# Tensors that are stored

A runtime stores tensors faithfully if an upload yields a view that shows just what was handed over,
a push appends to a list, and all questions about lists and views are answered from what is stored.
`Storage` names what a state of a runtime stores, and `Storage.Faithful` says that the runtime does
this, whatever its states are and whatever else it does.

* `Storage.Faithful.pushInputs_meets` and `Storage.Faithful.readOutputs_meets` tell what the two
  halves of an exchange do on such a runtime.
* `Marshal.there_and_back` is the result: inputs that pass the checks come back from such a runtime
  as they were, and their dimensions are handed over one by one.  The runtime in memory is such a
  runtime as long as it was not told to fail.
-/

namespace TensorBridge

open Memory (Content Hosted Readable contentOf)

/-- What the states of a runtime store. -/
structure Storage (σ : Type) where
  /-- The runtime can be used in the state. -/
  Usable : σ → Prop
  /-- The content of a view, if it is there. -/
  content? : σ → Handle .view → Option Content
  /-- The entries of a list, if it is there.  An entry need not be a view. -/
  entries? : σ → Handle .list → Option (List (Option (Handle .view)))

namespace Storage

variable {σ : Type}

/-- Nothing that is stored has changed. -/
structure Same (st : Storage σ) (s s' : σ) : Prop where
  usable : st.Usable s'
  content_eq : st.content? s' = st.content? s
  entries_eq : st.entries? s' = st.entries? s

/-- Views that were there still show what they showed. -/
def Preserves (st : Storage σ) (s s' : σ) : Prop :=
  ∀ view c, st.content? s view = some c → st.content? s' view = some c

/-- The operation gets an answer with `P`, and nothing that is stored changes. -/
def Tells (st : Storage σ) (handle : (op : BackendOp) → σ → op.Reply × σ) (s : σ) (op : BackendOp)
    (P : op.Reply → Prop) : Prop :=
  P (handle op s).1 ∧ st.Same s (handle op s).2

/-- The runtime stores what it is given and reports what is stored. -/
structure Faithful (st : Storage σ) (handle : (op : BackendOp) → σ → op.Reply × σ) : Prop where
  /-- An upload yields a view of what was handed over. -/
  upload : ∀ s session c, st.Usable s →
    ∃ view s', handle (.uploadView session c.dims c.code c.data) s = (.ok view, s') ∧
      st.Usable s' ∧ st.content? s' view = some c ∧ st.Preserves s s' ∧
        st.entries? s' = st.entries? s
  /-- A push appends a view to a list. -/
  push : ∀ s list view c entries, st.Usable s → st.content? s view = some c →
    st.entries? s list = some entries →
    ∃ s', handle (.pushView list view) s = (.ok (), s') ∧
      st.Usable s' ∧ st.Preserves s s' ∧ st.entries? s' list = some (entries ++ [some view])
  length : ∀ s list entries, st.Usable s → st.entries? s list = some entries →
    st.Tells handle s (.listLength list) (· = entries.length)
  viewAt : ∀ s list index entries, st.Usable s → st.entries? s list = some entries →
    st.Tells handle s (.viewAt list index) (· = entries[index]?.join)
  dims : ∀ s view c, st.Usable s → st.content? s view = some c →
    st.Tells handle s (.viewDims view) (· = c.dims)
  code : ∀ s view c, st.Usable s → st.content? s view = some c →
    st.Tells handle s (.viewCode view) (· = c.code)
  byteLength : ∀ s view c, st.Usable s → st.content? s view = some c →
    st.Tells handle s (.viewByteLength view) (· = UInt64.ofNat c.data.length)
  /-- A view is read at its length. -/
  read : ∀ s view c length, st.Usable s → st.content? s view = some c → c.data.length = length →
    st.Tells handle s (.readView view length) (∃ bytes, · = .ok bytes ∧ bytes.val = c.data)

namespace Same

variable {st : Storage σ} {s s' s'' : σ}

lemma refl (h : st.Usable s) : st.Same s s := ⟨h, rfl, rfl⟩

lemma trans (h : st.Same s s') (h' : st.Same s' s'') : st.Same s s'' :=
  ⟨h'.usable, h'.content_eq.trans h.content_eq, h'.entries_eq.trans h.entries_eq⟩

end Same

/-- The views show the tensors, one each. -/
def Shows (st : Storage σ) (s : σ) (views : List (Handle .view)) (tensors : List Tensor) : Prop :=
  List.Forall₂ (fun view t => st.content? s view = some (contentOf t)) views tensors

lemma Shows.mono {st : Storage σ} {s s' : σ} {views : List (Handle .view)} {tensors : List Tensor}
    (h : st.Shows s views tensors) (hpres : st.Preserves s s') : st.Shows s' views tensors :=
  h.imp fun view t => hpres view (contentOf t)

namespace Faithful

variable {st : Storage σ} {handle : (op : BackendOp) → σ → op.Reply × σ} {s : σ}
  {session : Handle .session} {list : Handle .list} {bad : BridgeError → σ → Prop}

/-- A question that is answered from what is stored. -/
lemma keeps_of_tells {op : BackendOp} {P : op.Reply → Prop} (h : st.Tells handle s op P)
    {Q : op.Reply → σ → Prop} (hQ : ∀ r s', P r → st.Same s s' → Q r s') :
    (Program.perform (I := Backend) op).Keeps (.ofHandler handle) s Q :=
  Program.keeps_perform_ofHandler.2 (hQ _ _ h.1 h.2)

/-! ## Inputs -/

lemma pushInput_meets (faithful : st.Faithful handle) {t : Tensor}
    {entries : List (Option (Handle .view))} (usable : st.Usable s)
    (hlist : st.entries? s list = some entries) {ok : Unit → σ → Prop}
    (hok : ∀ view s', st.Usable s' → st.Preserves s s' →
      st.content? s' view = some (contentOf t) →
      st.entries? s' list = some (entries ++ [some view]) → ok () s') :
    (Marshal.pushInput session list t).Meets (.ofHandler handle) s ok bad := by
  obtain ⟨view, s₁, hupload, usable₁, hview, hpres₁, hentries⟩ :=
    faithful.upload s session (contentOf t) usable
  have hlist₁ : st.entries? s₁ list = some entries := by rw [hentries, hlist]
  obtain ⟨s₂, hpush, usable₂, hpres₂, hlist₂⟩ :=
    faithful.push s₁ list view (contentOf t) entries usable₁ hview hlist₁
  have hupload : handle (.uploadView session (Marshal.nativeDims t.shape) t.elementType.toNative
      t.data) s = (.ok view, s₁) := hupload
  simp only [Marshal.pushInput, Action.meets_bind]
  refine Program.keeps_perform_ofHandler.2 ?_
  rw [hupload]
  refine Program.keeps_perform_ofHandler.2 ?_
  rw [hpush]
  exact hok view s₂ usable₂ (fun v c hv => hpres₂ v c (hpres₁ v c hv)) (hpres₂ view _ hview) hlist₂

/-- **Pushing the inputs** leaves them in the list, behind those that were there. -/
theorem pushInputs_meets (faithful : st.Faithful handle) {inputs before : List Tensor}
    {views : List (Handle .view)} (usable : st.Usable s)
    (hlist : st.entries? s list = some (views.map some)) (hshows : st.Shows s views before) :
    (Marshal.pushInputs session list inputs).Meets (.ofHandler handle) s
      (fun _ s' => st.Usable s' ∧ ∃ views', st.entries? s' list = some (views'.map some) ∧
        st.Shows s' views' (before ++ inputs)) bad := by
  induction inputs generalizing s before views with
  | nil =>
    rw [List.append_nil]
    exact ⟨usable, views, hlist, hshows⟩
  | cons t rest ih =>
    simp only [Marshal.pushInputs, Action.meets_bind]
    refine faithful.pushInput_meets usable hlist fun view s' usable' hpres hview hlist' => ?_
    have hshows' : st.Shows s' (views ++ [view]) (before ++ [t]) :=
      List.rel_append (hshows.mono hpres) (.cons hview .nil)
    have hentries : st.entries? s' list = some ((views ++ [view]).map some) := by
      rw [hlist', List.map_append]
      rfl
    have hnext := ih usable' hentries hshows'
    rwa [List.append_assoc, List.singleton_append] at hnext

/-! ## Outputs -/

lemma readOutput_meets (faithful : st.Faithful handle) {t : Tensor} {index : Nat}
    {entries : List (Option (Handle .view))} {view : Handle .view} (usable : st.Usable s)
    (hlist : st.entries? s list = some entries) (hentry : entries[index]? = some (some view))
    (hview : st.content? s view = some (contentOf t)) (ht : Readable t) :
    (Marshal.readOutput list index).Meets (.ofHandler handle) s
      (fun r s' => r = t ∧ st.Same s s') bad := by
  have hlength : (UInt64.ofNat t.data.length).toNat = t.data.length := by
    refine UInt64.toNat_ofNat_of_lt' (lt_of_le_of_lt ht.length_le ?_)
    decide
  have hrank : (contentOf t).dims.length = t.shape.length := Marshal.length_nativeDims _
  simp only [Marshal.readOutput, Action.meets_bind]
  refine Action.meets_always.2
    (keeps_of_tells (faithful.viewAt s list index entries usable hlist) ?_)
  rintro _ s₁ rfl same₁
  rw [hentry]
  simp only [Option.join_some, Action.meets_bind, Action.meets_pure]
  -- Every question leaves the view as it is, so the next one is answered from the same content.
  have hview₁ : st.content? s₁ view = some (contentOf t) := by rw [same₁.content_eq, hview]
  refine Action.meets_always.2 (keeps_of_tells (faithful.code s₁ view _ same₁.usable hview₁) ?_)
  rintro _ s₂ rfl same₂
  refine Marshal.liftExcept_meets_of_ok (Marshal.decodeElementType_toNative _) ?_
  have hview₂ : st.content? s₂ view = some (contentOf t) := by rw [same₂.content_eq, hview₁]
  refine Action.meets_always.2 (keeps_of_tells (faithful.dims s₂ view _ same₂.usable hview₂) ?_)
  rintro _ s₃ rfl same₃
  refine Marshal.liftExcept_meets_of_ok (Marshal.reserve_of_le (hrank ▸ ht.rank_le)) ?_
  refine Marshal.liftExcept_meets_of_ok (Marshal.hostDims_nativeDims ht.nonneg) ?_
  have hview₃ : st.content? s₃ view = some (contentOf t) := by rw [same₃.content_eq, hview₂]
  refine Action.meets_always.2
    (keeps_of_tells (faithful.byteLength s₃ view _ same₃.usable hview₃) ?_)
  rintro _ s₄ rfl same₄
  refine Marshal.liftExcept_meets_of_ok
    (Marshal.reserve_of_le (hlength.trans_le ht.length_le)) ?_
  have hview₄ : st.content? s₄ view = some (contentOf t) := by rw [same₄.content_eq, hview₃]
  refine Action.meets_ofProgram.2
    (keeps_of_tells (faithful.read s₄ view _ _ same₄.usable hview₄ hlength.symm) ?_)
  rintro _ s₅ ⟨bytes, rfl, hbytes⟩ same₅
  refine ⟨?_, same₁.trans (same₂.trans (same₃.trans (same₄.trans same₅)))⟩
  show (⟨t.elementType, t.shape, bytes.val⟩ : Tensor) = t
  rw [hbytes]
  rfl

lemma readFrom_meets (faithful : st.Faithful handle) {tensors : List Tensor} {index : Nat}
    {entries : List (Option (Handle .view))} {views : List (Handle .view)} (usable : st.Usable s)
    (hlist : st.entries? s list = some entries) (hentries : entries.drop index = views.map some)
    (hshows : st.Shows s views tensors) (hread : ∀ t ∈ tensors, Readable t) :
    (Marshal.readFrom list index views.length).Meets (.ofHandler handle) s
      (fun r s' => r = tensors ∧ st.Same s s') bad := by
  induction tensors generalizing s index views with
  | nil =>
    cases hshows
    exact ⟨rfl, .refl usable⟩
  | cons t tensors ih =>
    obtain ⟨view, views, hview, hshows, rfl⟩ := List.forall₂_cons_right_iff.1 hshows
    obtain ⟨ht, hrest⟩ := List.forall_mem_cons.1 hread
    have hentry : entries[index]? = some (some view) := by
      rw [← List.head?_drop, hentries]
      rfl
    have hdrop : entries.drop (index + 1) = views.map some := by
      rw [← List.tail_drop, hentries]
      rfl
    simp only [List.length_cons, Marshal.readFrom, Action.meets_bind, Action.meets_pure]
    refine (faithful.readOutput_meets usable hlist hentry hview ht).mono ?_ fun _ _ hbad => hbad
    rintro _ s₁ ⟨rfl, same₁⟩
    have hlist₁ : st.entries? s₁ list = some entries := by rw [same₁.entries_eq, hlist]
    have hshows₁ : st.Shows s₁ views tensors := by rwa [Shows, same₁.content_eq]
    refine (ih same₁.usable hlist₁ hdrop hshows₁ hrest).mono ?_ fun _ _ hbad => hbad
    rintro _ s₂ ⟨rfl, same₂⟩
    exact ⟨rfl, same₁.trans same₂⟩

/-- **Reading a list** of views returns what they show. -/
theorem readOutputs_meets (faithful : st.Faithful handle) {tensors : List Tensor}
    {views : List (Handle .view)} (usable : st.Usable s)
    (hlist : st.entries? s list = some (views.map some)) (hshows : st.Shows s views tensors)
    (hosted : Hosted tensors) (hread : ∀ t ∈ tensors, Readable t) :
    (Marshal.readOutputs list).Meets (.ofHandler handle) s
      (fun r s' => r = tensors ∧ st.Same s s') bad := by
  have hlength : (views.map some).length = tensors.length := by
    rw [List.length_map]
    exact hshows.length_eq
  simp only [Marshal.readOutputs, Action.meets_bind]
  refine Action.meets_always.2 (keeps_of_tells (faithful.length s list _ usable hlist) ?_)
  rintro _ s₁ rfl same₁
  rw [hlength, if_neg (not_lt.2 hosted.1), ← hshows.length_eq]
  have hlist₁ : st.entries? s₁ list = some (views.map some) := by rw [same₁.entries_eq, hlist]
  have hshows₁ : st.Shows s₁ views tensors := by rwa [Shows, same₁.content_eq]
  refine (faithful.readFrom_meets same₁.usable hlist₁ rfl hshows₁ hread).mono ?_
    fun _ _ hbad => hbad
  rintro r s₂ ⟨hr, same₂⟩
  exact ⟨hr, same₁.trans same₂⟩

end Faithful

end Storage

/-! ## What is handed over -/

/-- The uploads among the calls of a trace, in order. -/
def Program.Item.uploads (trace : List (Item Backend)) : List BackendOp :=
  trace.filterMap fun
    | .called (.uploadView session dims code data) _ => some (.uploadView session dims code data)
    | _ => none

namespace Marshal

open BackendOp (Asks)
open Program (Item)

/-- The upload of a tensor. -/
def upload (session : Handle .session) (t : Tensor) : BackendOp :=
  .uploadView session (nativeDims t.shape) t.elementType.toNative t.data

/-- The operation hands a tensor over: its type, its bytes, and its dimensions one by one. -/
def HandsOver (session : Handle .session) (t : Tensor) (op : BackendOp) : Prop :=
  ∃ dims, op = .uploadView session dims t.elementType.toNative t.data ∧
    dims.map (fun d => (d.toNat : Int)) = t.shape.map Int64.toInt

lemma map_toNat_nativeDims {shape : Shape} (h : ∀ d ∈ shape, 0 ≤ d.toInt) :
    (nativeDims shape).map (fun d => (d.toNat : Int)) = shape.map Int64.toInt := by
  rw [nativeDims, Dims.toList_ofShape, List.map_map]
  exact List.map_congr_left fun d hd => toNat_toUInt64 (h d hd)

lemma handsOver_upload {session : Handle .session} {t : Tensor} (h : t.validate = .ok ()) :
    HandsOver session t (upload session t) :=
  ⟨nativeDims t.shape, rfl, map_toNat_nativeDims (Tensor.nonneg_of_validate h)⟩

variable {session : Handle .session} {list : Handle .list} {trace : List (Item Backend)}

lemma uploads_append (first second : List (Item Backend)) :
    Item.uploads (first ++ second) = Item.uploads first ++ Item.uploads second :=
  List.filterMap_append

lemma uploads_pushInput {t : Tensor} (run : (pushInput session list t).run.Runs trace (.ok ())) :
    Item.uploads trace = [upload session t] := by
  rcases Action.runs_bind_iff.1 run with ⟨e, he, -⟩ | ⟨first, second, view, rfl, hup, hpush⟩
  · cases he
  · obtain rfl := Program.runs_perform_iff.1 hup
    obtain rfl := Program.runs_perform_iff.1 hpush
    rfl

/-- Inputs that have all been pushed have been uploaded in order. -/
lemma uploads_pushInputs {inputs : List Tensor}
    (run : (pushInputs session list inputs).run.Runs trace (.ok ())) :
    Item.uploads trace = inputs.map (upload session) := by
  induction inputs generalizing trace with
  | nil =>
    obtain ⟨rfl, -⟩ := Action.runs_pure_iff.1 run
    rfl
  | cons t rest ih =>
    rcases Action.runs_bind_iff.1 run with ⟨e, he, -⟩ | ⟨first, second, _, rfl, hfirst, hrest⟩
    · cases he
    · rw [uploads_append, uploads_pushInput hfirst, ih hrest]
      rfl

lemma uploads_eq_nil (h : ∀ op reply, .called op reply ∈ trace → Asks op) :
    Item.uploads trace = [] := by
  refine List.filterMap_eq_nil_iff.2 fun item hitem => ?_
  rcases item with ⟨op, reply⟩ | n
  · have hop := h op reply hitem
    cases op <;> first | rfl | cases hop
  · rfl

/-- Pushes inputs into a list and reads the list. -/
def thereAndBack (session : Handle .session) (list : Handle .list) (inputs : List Tensor) :
    Action Backend (List Tensor) := do
  pushInputs session list inputs
  readOutputs list

/-- Inputs that have come back have been uploaded in order. -/
lemma uploads_thereAndBack {inputs tensors : List Tensor}
    (run : (thereAndBack session list inputs).run.Runs trace (.ok tensors)) :
    Item.uploads trace = inputs.map (upload session) := by
  rcases Action.runs_bind_iff.1 run with ⟨e, he, -⟩ | ⟨first, second, _, rfl, hpush, hread⟩
  · cases he
  · have hnone : Item.uploads second = [] :=
      uploads_eq_nil fun op reply hmem => (readOutputs_within list).confined.of_runs hread hmem
    rw [uploads_append, uploads_pushInputs hpush, hnone, List.append_nil]

/-- Inputs that pass the checks come back as they were. -/
lemma thereAndBack_meets {σ : Type} {st : Storage σ}
    {handle : (op : BackendOp) → σ → op.Reply × σ} (faithful : st.Faithful handle) {s : σ}
    (usable : st.Usable s) (hempty : st.entries? s list = some []) {inputs : List Tensor}
    (hvalid : ∀ t ∈ inputs, t.validate = .ok ()) (hosted : Hosted inputs)
    {bad : BridgeError → σ → Prop} :
    (thereAndBack session list inputs).Meets (.ofHandler handle) s (fun r _ => r = inputs) bad := by
  unfold thereAndBack
  rw [Action.meets_bind]
  refine (faithful.pushInputs_meets usable hempty .nil).mono ?_ fun _ _ hbad => hbad
  rintro _ s₁ ⟨usable₁, views, hlist, hshows⟩
  refine (faithful.readOutputs_meets usable₁ hlist hshows hosted
    (Memory.readable_of_hosted hvalid hosted)).mono ?_ fun _ _ hbad => hbad
  intro r s₂ hr
  exact hr.1

lemma value_thereAndBack (session : Handle .session) {σ : Type} {st : Storage σ}
    {handle : (op : BackendOp) → σ → op.Reply × σ} (faithful : st.Faithful handle) {s : σ}
    (usable : st.Usable s) (hempty : st.entries? s list = some []) {inputs : List Tensor}
    (hvalid : ∀ t ∈ inputs, t.validate = .ok ()) (hosted : Hosted inputs) :
    ((thereAndBack session list inputs).run.run handle s).value = .ok inputs := by
  have hmeets : (thereAndBack session list inputs).Meets (.ofHandler handle) s
      (fun r _ => r = inputs) fun _ _ => False :=
    thereAndBack_meets faithful usable hempty hvalid hosted
  have hvalue := Program.Keeps.of_run hmeets
  rcases hrun : ((thereAndBack session list inputs).run.run handle s).value with e | tensors
  · rw [hrun] at hvalue
    exact hvalue.elim
  · rw [hrun] at hvalue
    exact hrun.trans (congrArg Except.ok hvalue)

end Marshal

/-! ## The runtime in memory -/

namespace Memory

/-- The view that a slot refers to, if it refers to one. -/
def MemorySlot.handle? : MemorySlot → Option (Handle .view)
  | .view address => some ⟨address⟩
  | .opaqueValue => none

/-- What the runtime in memory stores.  It can be used as long as nothing that is needed was made to
fail.  What stands at addresses that are still to be handed out does not count. -/
def storage : Storage Memory where
  Usable m := .onUpload ∉ m.faults ∧ .onPush ∉ m.faults ∧ .onRead ∉ m.faults
  content? m view :=
    if view.address ≤ m.lastAddress then
      (m.views.lookup view.address).map fun v => ⟨v.code, v.dims, v.data⟩
    else none
  entries? m list := (m.lists.lookup list.address).map (·.map MemorySlot.handle?)

variable {m : Memory}

lemma lookup_updateAt_self {α : Type} {address : Nat} {f : α → α} {table : List (Nat × α)} {a : α}
    (h : table.lookup address = some a) :
    (updateAt address f table).lookup address = some (f a) := by
  induction table with
  | nil => cases h
  | cons entry rest ih =>
    obtain ⟨other, b⟩ := entry
    by_cases heq : address = other
    · subst heq
      obtain rfl : b = a := by simpa using h
      simp [updateAt]
    · have hbeq : (address == other) = false := by simpa using heq
      rw [List.lookup_cons, hbeq] at h
      have hne : ¬other = address := fun hother => heq hother.symm
      simpa [updateAt, List.lookup_cons, hbeq, hne] using ih h

lemma contains_eq_false {fault : MemoryFault} (h : fault ∉ m.faults) :
    m.faults.contains fault = false := by
  rw [← Bool.not_eq_true, List.contains_iff_mem]
  exact h

lemma exists_view_of_content? {view : Handle .view} {c : Content}
    (h : storage.content? m view = some c) :
    ∃ references, m.viewAt view.address = (⟨c.code, c.dims, c.data, references⟩, m) := by
  simp only [storage] at h
  split_ifs at h
  obtain ⟨v, hlookup, rfl⟩ := Option.map_eq_some_iff.1 h
  exact ⟨v.references, by rw [viewAt, hlookup]⟩

lemma exists_slots_of_entries? {list : Handle .list} {entries : List (Option (Handle .view))}
    (h : storage.entries? m list = some entries) :
    ∃ slots, m.lists.lookup list.address = some slots ∧ m.listAt list.address = (slots, m) ∧
      entries = slots.map MemorySlot.handle? := by
  obtain ⟨slots, hlookup, rfl⟩ := Option.map_eq_some_iff.1 h
  exact ⟨slots, hlookup, by rw [listAt, hlookup], rfl⟩

lemma handle_uploadView {session : Handle .session} {c : Content} (h : .onUpload ∉ m.faults) :
    handle (.uploadView session c.dims c.code c.data) m = (.ok ⟨m.lastAddress + 1⟩,
      ({ m.record .allocateView with
        lastUpload := some c.dims }.addView c.code c.dims c.data).2) := by
  have hcontains : (m.record .allocateView).faults.contains .onUpload = false :=
    contains_eq_false (m := m) h
  simp only [handle, hcontains]
  rfl

lemma handle_pushView {list : Handle .list} {view : Handle .view} (h : .onPush ∉ m.faults) :
    handle (.pushView list view) m =
      (.ok (), (m.record .push).extendList list.address [.view view.address]) := by
  have hcontains : (m.record .push).faults.contains .onPush = false :=
    contains_eq_false (m := m) h
  simp only [handle, hcontains]
  rfl

/-- A question that is answered without a record. -/
lemma tells_of_handle_eq {op : BackendOp} {r : op.Reply} {P : op.Reply → Prop}
    (usable : storage.Usable m) (h : handle op m = (r, m)) (hP : P r) :
    storage.Tells handle m op P := by
  constructor
  · rw [h]
    exact hP
  · rw [h]
    exact .refl usable

/-- **The runtime in memory stores what it is given.** -/
theorem storage_faithful : storage.Faithful handle where
  upload m session c usable := by
    refine ⟨_, _, handle_uploadView usable.1, usable, ?_, fun view c' hview => ?_, rfl⟩
    · simp [storage, Memory.addView, Memory.record]
    · simp only [storage] at hview
      split_ifs at hview with hle
      have hbeq : (view.address == m.lastAddress + 1) = false := by
        rw [beq_eq_false_iff_ne]
        omega
      have hle' : view.address ≤ m.lastAddress + 1 := by omega
      simp only [storage, Memory.addView, Memory.record, if_pos hle', List.lookup_cons, hbeq]
      exact hview
  push m list view c entries usable _ hlist := by
    obtain ⟨slots, hlookup, -, rfl⟩ := exists_slots_of_entries? hlist
    have hsome : ((m.record .push).lists.lookup list.address).isSome := by
      show (m.lists.lookup list.address).isSome
      rw [hlookup]
      rfl
    refine ⟨_, handle_pushView usable.2.1, ?_, ?_, ?_⟩
    · rw [extendList, if_pos hsome]
      exact usable
    · rw [extendList, if_pos hsome]
      exact fun _ _ hview => hview
    · rw [extendList, if_pos hsome]
      simp only [storage, Memory.record, lookup_updateAt_self hlookup, Option.map_some,
        List.map_append]
      rfl
  length m list entries usable hlist := by
    obtain ⟨slots, -, hat, rfl⟩ := exists_slots_of_entries? hlist
    refine tells_of_handle_eq usable (r := slots.length) ?_ (List.length_map _).symm
    simp only [handle, hat]
  viewAt m list index entries usable hlist := by
    obtain ⟨slots, -, hat, rfl⟩ := exists_slots_of_entries? hlist
    refine tells_of_handle_eq usable (r := (slots[index]?.bind MemorySlot.handle?)) ?_ ?_
    · simp only [handle, hat]
      rcases slots[index]? with _ | _ | _ <;> rfl
    · rw [List.getElem?_map]
      cases slots[index]? <;> rfl
  dims m view c usable hview := by
    obtain ⟨references, hat⟩ := exists_view_of_content? hview
    exact tells_of_handle_eq usable (by simp only [handle, hat]) rfl
  code m view c usable hview := by
    obtain ⟨references, hat⟩ := exists_view_of_content? hview
    exact tells_of_handle_eq usable (by simp only [handle, hat]) rfl
  byteLength m view c usable hview := by
    obtain ⟨references, hat⟩ := exists_view_of_content? hview
    exact tells_of_handle_eq usable (by simp only [handle, hat]) rfl
  read m view c length usable hview hlength := by
    obtain ⟨references, hat⟩ := exists_view_of_content? (m := m.record .read) hview
    subst hlength
    have hcontains : (m.record .read).faults.contains .onRead = false :=
      contains_eq_false (m := m) usable.2.2
    have hread : handle (.readView view c.data.length) m =
        (.ok (fitBytes c.data.length c.data), m.record .read) := by
      simp only [handle, hcontains, hat, if_true]
      rfl
    constructor
    · rw [hread]
      exact ⟨_, rfl, fitBytes_length c.data⟩
    · rw [hread]
      exact ⟨usable, rfl, rfl⟩

end Memory

/-! ## There and back -/

namespace Marshal

open Program (Item)

/-- **There and back.**  On a runtime that stores what it is given, as the one in memory does,
inputs that pass the checks come back from an empty list as they were, whatever their ranks and
types are.  On the way each of them is handed over once, in order, with its dimensions one by
one. -/
theorem there_and_back :
    Memory.storage.Faithful Memory.handle ∧
      ∀ {σ : Type} {st : Storage σ} {handle : (op : BackendOp) → σ → op.Reply × σ} {s : σ}
        {session : Handle .session} {list : Handle .list} {inputs : List Tensor},
        st.Faithful handle → st.Usable s → st.entries? s list = some [] →
        validateInputs inputs = .ok () → Hosted inputs →
        ((thereAndBack session list inputs).run.run handle s).value = .ok inputs ∧
          List.Forall₂ (HandsOver session) inputs
            (Item.uploads ((thereAndBack session list inputs).run.transcript handle s)) := by
  refine ⟨Memory.storage_faithful, ?_⟩
  intro σ st handle s session list inputs faithful usable hempty hchecked hosted
  have hvalid : ∀ t ∈ inputs, t.validate = .ok () := valid_of_validateInputs hchecked
  have hvalue := value_thereAndBack session faithful usable hempty hvalid hosted
  refine ⟨hvalue, ?_⟩
  have run := Program.runs_transcript handle (thereAndBack session list inputs).run s
  rw [hvalue] at run
  rw [uploads_thereAndBack run, List.forall₂_map_right_iff, List.forall₂_same]
  exact fun t ht => handsOver_upload (hvalid t ht)

/-- Inputs of every type, among them a scalar, an empty one, and some of seven, eight and nine
dimensions. -/
def sampleInputs : List Tensor :=
  [⟨.f32, [], [0, 0, 128, 63]⟩, ⟨.i32, [0, 3], []⟩, ⟨.bf16, List.replicate 7 1, [128, 63]⟩,
    ⟨.f64, [1, 1, 1, 1, 1, 1, 1, 2], List.replicate 16 1⟩, ⟨.f16, List.replicate 9 1, [0, 60]⟩,
    ⟨.i64, [1], List.replicate 8 2⟩]

/-- A runtime in memory with one empty list. -/
def sampleMemory : Memory := (Memory.handle (.createList 4) {}).2

theorem there_and_back_sample :
    ((thereAndBack ⟨0⟩ ⟨1⟩ sampleInputs).run.run Memory.handle sampleMemory).value =
        .ok sampleInputs ∧
      List.Forall₂ (HandsOver ⟨0⟩) sampleInputs (Item.uploads
        ((thereAndBack ⟨0⟩ ⟨1⟩ sampleInputs).run.transcript Memory.handle sampleMemory)) := by
  have usable : Memory.storage.Usable sampleMemory := by
    show _ ∉ [] ∧ _ ∉ [] ∧ _ ∉ []
    simp
  have hempty : Memory.storage.entries? sampleMemory ⟨1⟩ = some [] := rfl
  have hchecked : validateInputs sampleInputs = .ok () := rfl
  have hosted : Hosted sampleInputs := by
    unfold Hosted
    decide
  exact there_and_back.2 there_and_back.1 usable hempty hchecked hosted

end Marshal

end TensorBridge
