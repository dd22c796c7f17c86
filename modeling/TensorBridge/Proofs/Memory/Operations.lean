import Mathlib
import TensorBridge.Proofs.Memory.Holdings

/-!
# The operations of the runtime in memory

One fact for every operation of the runtime in memory: what it replies, and what is held then.  The
hypotheses are what a caller has to see to, above all that addresses are live, that lists are there
and that a view to which there is a reference is looked at.  An operation that calls can be made to
fail at has one outcome for each setting.
-/

namespace TensorBridge

namespace Memory

open Backend Holds

/-- The watch over the runtime in memory. -/
abbrev watch : Watch Backend Memory := .ofHandler handle

variable {s : Setting} {live : List Nat} {lists : List (Nat × List MemorySlot)}
  {made : List (Nat × Content)} {bag : Multiset Nat} {m : Memory} {a v : Nat}
  {bad : BridgeError → Memory → Prop}

/-! ## Instances, devices and sessions -/

/-- A call that hands out an address unless calls of its kind fail. -/
lemma createUnless_cases (h : Holds s live lists made bag m) (e : MemoryEvent)
    (fault : MemoryFault) (call : String) :
    (fault ∈ s.faults ∧ ∃ m', m.createUnless e (some fault) call = (.error (injected call), m') ∧
        Holds s live lists made bag m') ∨
      (fault ∉ s.faults ∧ ∃ b m', m.createUnless e (some fault) call = (.ok b, m') ∧
        Holds s (b :: live) lists made bag m') := by
  have hrec := h.record e
  simp only [createUnless, Option.any_some]
  split_ifs with hfault
  · exact .inl ⟨hrec.contains_faults.1 hfault, _, rfl, hrec⟩
  · exact .inr ⟨fun hmem => hfault (hrec.contains_faults.2 hmem), _, _, rfl, hrec.allocate⟩

lemma createInstance_meets (h : Holds s live lists made bag m)
    {ok : Handle .runtimeInstance → Memory → Prop}
    (hok : .onInstance ∉ s.faults → ∀ b m', Holds s (b :: live) lists made bag m' → ok ⟨b⟩ m')
    (hbad : .onInstance ∈ s.faults → ∀ m', Holds s live lists made bag m' →
      bad (injected "create_instance") m') :
    createInstance.Meets watch m ok bad := by
  refine Program.keeps_perform_ofHandler.2 ?_
  simp only [handle, handled]
  rcases createUnless_cases h .createInstance .onInstance "create_instance" with
    ⟨hfault, m', heq, hm⟩ | ⟨hfault, b, m', heq, hm⟩
  · rw [heq]
    exact hbad hfault m' hm
  · rw [heq]
    exact hok hfault b m' hm

lemma createSession_meets (h : Holds s live lists made bag m) {inst : Handle .runtimeInstance}
    {device : Handle .device} {ok : Handle .session → Memory → Prop}
    (hok : .onSession ∉ s.faults → ∀ b m', Holds s (b :: live) lists made bag m' → ok ⟨b⟩ m')
    (hbad : .onSession ∈ s.faults → ∀ m', Holds s live lists made bag m' →
      bad (injected "create_session") m') :
    (createSession inst device).Meets watch m ok bad := by
  refine Program.keeps_perform_ofHandler.2 ?_
  simp only [handle, handled]
  rcases createUnless_cases h .createSession .onSession "create_session" with
    ⟨hfault, m', heq, hm⟩ | ⟨hfault, b, m', heq, hm⟩
  · rw [heq]
    exact hbad hfault m' hm
  · rw [heq]
    exact hok hfault b m' hm

/-- The failure of a device that a failing driver was asked for. -/
def noDevice (driver : String) : BridgeError :=
  .status "create_device" .unavailable s!"driver '{driver}' unavailable"

lemma createDevice_keeps (h : Holds s live lists made bag m) {inst : Handle .runtimeInstance}
    {driver : String} {Q : Except BridgeError (Handle .device) → Memory → Prop}
    (hok : driver ∉ s.failing → ∀ b m', Holds s (b :: live) lists made bag m' → Q (.ok ⟨b⟩) m')
    (hbad : driver ∈ s.failing → ∀ m', Holds s live lists made bag m' →
      Q (.error (noDevice driver)) m') :
    (createDevice inst driver).Keeps watch m Q := by
  refine Program.keeps_perform_ofHandler.2 ?_
  have hrec := h.record (.createDevice driver)
  simp only [handle]
  split_ifs with hfailing
  · exact hbad (hrec.contains_failing.1 hfailing) _ hrec
  · exact hok (fun hmem => hfailing (hrec.contains_failing.2 hmem)) _ _ hrec.allocate

lemma appendModule_meets (h : Holds s live lists made bag m) {session : Handle .session}
    {image : List UInt8} {ok : Unit → Memory → Prop}
    (hok : .onModule ∉ s.faults → ∀ m', Holds s live lists made bag m' → ok () m')
    (hbad : .onModule ∈ s.faults → ∀ m', Holds s live lists made bag m' →
      bad (injected "append_module") m') :
    (appendModule session image).Meets watch m ok bad := by
  refine Program.keeps_perform_ofHandler.2 ?_
  have hrec := h.record (.appendModule image.length)
  simp only [handle]
  split_ifs with hfault
  · exact hbad (hrec.contains_faults.1 hfault) _ hrec
  · exact hok (fun hmem => hfault (hrec.contains_faults.2 hmem)) _ hrec

lemma releaseInstance_keeps {inst : Handle .runtimeInstance}
    (h : Holds s (inst.address :: live) lists made bag m) :
    (releaseInstance inst).Keeps watch m fun _ m' => Holds s live lists made bag m' :=
  Program.keeps_perform_ofHandler.2 (h.release _)

lemma releaseDevice_keeps {device : Handle .device}
    (h : Holds s (device.address :: live) lists made bag m) :
    (releaseDevice device).Keeps watch m fun _ m' => Holds s live lists made bag m' :=
  Program.keeps_perform_ofHandler.2 (h.release _)

lemma releaseSession_keeps {session : Handle .session}
    (h : Holds s (session.address :: live) lists made bag m) :
    (releaseSession session).Keeps watch m fun _ m' => Holds s live lists made bag m' :=
  Program.keeps_perform_ofHandler.2 (h.release _)

/-! ## Lists -/

lemma createList_meets (h : Holds s live lists made bag m) {capacity : Nat}
    {ok : Handle .list → Memory → Prop}
    (hok : ∀ b m', (∀ l ∈ lists, l.1 ≠ b) → Holds s (b :: live) ((b, []) :: lists) made bag m' →
      ok ⟨b⟩ m') :
    (createList capacity).Meets watch m ok bad := by
  refine Program.keeps_perform_ofHandler.2 ?_
  have hrec := h.record (.createList capacity)
  refine hok _ _ hrec.fresh.2.1 ?_
  have halloc := hrec.allocate
  exact { halloc with
    lists_eq := congrArg _ halloc.lists_eq
    lists_le := List.forall_mem_cons.2 ⟨le_rfl, halloc.lists_le⟩ }

/-- A list that is given back takes the references in its slots along. -/
lemma releaseList_keeps {list : Handle .list} {slots : List MemorySlot}
    (h : Holds s (list.address :: live) ((list.address, slots) :: lists) made
      (↑(viewAddresses slots) + bag) m)
    (hne : ∀ l ∈ lists, l.1 ≠ list.address) :
    (releaseList list).Keeps watch m fun _ m' => Holds s live lists made bag m' := by
  refine Program.keeps_perform_ofHandler.2 ?_
  have hrel := h.release .releaseList
  have hslots : ((m.release .releaseList list.address).lists.lookup list.address).getD [] =
      slots := by
    simp [hrel.lists_eq]
  have herase : eraseAt list.address ((list.address, slots) :: lists) = lists := by
    simpa [eraseAt] using hne
  simp only [handle, hslots]
  refine Holds.dropSlots ?_
  exact { hrel with
    lists_eq := by rw [hrel.lists_eq, herase]
    lists_le := fun l hl => hrel.lists_le l (List.mem_cons_of_mem _ hl) }

/-- A list that is there shows its slots. -/
lemma listAt_eq (h : Holds s live lists made bag m) {slots : List MemorySlot}
    (hlist : lists.lookup a = some slots) : m.listAt a = (slots, m) := by
  simp [listAt, h.lists_eq, hlist]

lemma listLength_meets (h : Holds s live lists made bag m) {list : Handle .list}
    {slots : List MemorySlot} (hlist : lists.lookup list.address = some slots)
    {ok : Nat → Memory → Prop} (hok : ok slots.length m) :
    (listLength list).Meets watch m ok bad := by
  refine Action.meets_always.2 (Program.keeps_perform_ofHandler.2 ?_)
  simpa only [handle, listAt_eq h hlist] using hok

lemma viewAt_meets (h : Holds s live lists made bag m) {list : Handle .list} {index : Nat}
    {slots : List MemorySlot} (hlist : lists.lookup list.address = some slots)
    {ok : Option (Handle .view) → Memory → Prop}
    (hsome : ∀ w, slots[index]? = some (.view w) → ok (some ⟨w⟩) m)
    (hnone : (∀ w, slots[index]? ≠ some (.view w)) → ok none m) :
    (Backend.viewAt list index).Meets watch m ok bad := by
  refine Action.meets_always.2 (Program.keeps_perform_ofHandler.2 ?_)
  simp only [handle, listAt_eq h hlist]
  split
  · rename_i w hw
    exact hsome w hw
  · rename_i hw
    exact hnone hw

/-- Slots are put behind those of a list that is there. -/
lemma Holds.extendList (h : Holds s live lists made bag m) (hlist : (lists.lookup a).isSome)
    (slots : List MemorySlot) :
    Holds s live (updateAt a (· ++ slots) lists) made bag (m.extendList a slots) := by
  have hthere : (m.lists.lookup a).isSome := by rwa [h.lists_eq]
  rw [Memory.extendList, if_pos hthere]
  refine { h with lists_eq := congrArg _ h.lists_eq, lists_le := fun l hl => ?_ }
  obtain ⟨l', hl', rfl⟩ := List.mem_map.1 hl
  have hle := h.lists_le l' hl'
  by_cases ha : l'.1 = a <;> simpa [ha] using hle

/-! ## Views -/

lemma uploadView_meets (h : Holds s live lists made bag m) {session : Handle .session}
    (content : Content) {ok : Handle .view → Memory → Prop}
    (hok : .onUpload ∉ s.faults → ∀ w m', w ∉ made.map Prod.fst →
      Holds s live lists ((w, content) :: made) (w ::ₘ bag) m' → ok ⟨w⟩ m')
    (hbad : .onUpload ∈ s.faults → ∀ m', Holds s live lists made bag m' →
      bad (injected "allocate_buffer_copy") m') :
    (uploadView session content.dims content.code content.data).Meets watch m ok bad := by
  refine Program.keeps_perform_ofHandler.2 ?_
  have hrec := h.record .allocateView
  simp only [handle]
  split_ifs with hfault
  · exact hbad (hrec.contains_faults.1 hfault) _ hrec
  · have hnoted : Holds s live lists made bag
        { m.record .allocateView with lastUpload := some content.dims } := { hrec with }
    exact hok (fun hmem => hfault (hrec.contains_faults.2 hmem)) _ _ hnoted.fresh.2.2
      (hnoted.addView content)

/-- A view is moved into a list; if that fails, the reference goes. -/
lemma pushView_meets {list : Handle .list} {view : Handle .view}
    (h : Holds s live lists made (view.address ::ₘ bag) m)
    (hlist : (lists.lookup list.address).isSome) {ok : Unit → Memory → Prop}
    (hok : .onPush ∉ s.faults → ∀ m', Holds s live
      (updateAt list.address (· ++ [.view view.address]) lists) made (view.address ::ₘ bag) m' →
      ok () m')
    (hbad : .onPush ∈ s.faults → ∀ m', Holds s live lists made bag m' →
      bad (injected "push_buffer_view") m') :
    (pushView list view).Meets watch m ok bad := by
  refine Program.keeps_perform_ofHandler.2 ?_
  have hrec := h.record .push
  simp only [handle]
  split_ifs with hfault
  · exact hbad (hrec.contains_faults.1 hfault) _ hrec.dropReference
  · exact hok (fun hmem => hfault (hrec.contains_faults.2 hmem)) _ (hrec.extendList hlist _)

section Reading

variable {content : Content}

/-- A view to which there is a reference shows its content. -/
lemma viewAt_eq (h : Holds s live lists made bag m) (hmade : made.lookup v = some content)
    (hv : v ∈ bag) :
    m.viewAt v = (⟨content.code, content.dims, content.data, bag.count v⟩, m) := by
  simp [Memory.viewAt, h.views_eq, lookup_viewTable hmade hv]

lemma viewCode_meets (h : Holds s live lists made bag m) {view : Handle .view}
    (hmade : made.lookup view.address = some content) (hv : view.address ∈ bag)
    {ok : UInt32 → Memory → Prop} (hok : ok content.code m) :
    (viewCode view).Meets watch m ok bad := by
  refine Action.meets_always.2 (Program.keeps_perform_ofHandler.2 ?_)
  simpa only [handle, viewAt_eq h hmade hv] using hok

lemma viewDims_meets (h : Holds s live lists made bag m) {view : Handle .view}
    (hmade : made.lookup view.address = some content) (hv : view.address ∈ bag)
    {ok : List UInt64 → Memory → Prop} (hok : ok content.dims m) :
    (viewDims view).Meets watch m ok bad := by
  refine Action.meets_always.2 (Program.keeps_perform_ofHandler.2 ?_)
  simpa only [handle, viewAt_eq h hmade hv] using hok

lemma viewByteLength_meets (h : Holds s live lists made bag m) {view : Handle .view}
    (hmade : made.lookup view.address = some content) (hv : view.address ∈ bag)
    {ok : UInt64 → Memory → Prop} (hok : ok (UInt64.ofNat content.data.length) m) :
    (viewByteLength view).Meets watch m ok bad := by
  refine Action.meets_always.2 (Program.keeps_perform_ofHandler.2 ?_)
  simpa only [handle, viewAt_eq h hmade hv] using hok

lemma fitBytes_length (bytes : List UInt8) : (fitBytes bytes.length bytes).val = bytes := by
  simp [fitBytes]

/-- A view is read at its length. -/
lemma readView_meets (h : Holds s live lists made bag m) {view : Handle .view} {length : Nat}
    (hmade : made.lookup view.address = some content) (hv : view.address ∈ bag)
    (hlength : content.data.length = length) {ok : Bytes length → Memory → Prop}
    (hok : .onRead ∉ s.faults → ∀ bytes m', bytes.val = content.data →
      Holds s live lists made bag m' → ok bytes m')
    (hbad : .onRead ∈ s.faults → ∀ m', Holds s live lists made bag m' →
      bad (injected "read_buffer_view") m') :
    (readView view length).Meets watch m ok bad := by
  subst hlength
  refine Program.keeps_perform_ofHandler.2 ?_
  have hrec := h.record .read
  simp only [handle, viewAt_eq hrec hmade hv, if_true]
  split_ifs with hfault
  · exact hbad (hrec.contains_faults.1 hfault) _ hrec
  · exact hok (fun hmem => hfault (hrec.contains_faults.2 hmem)) _ _ (fitBytes_length _) hrec

end Reading

/-! ## Entry points -/

/-- The last of the parts into which the dots divide a name. -/
def lastPart (entry : String) : String :=
  String.ofList ((entry.toList.splitOn '.').getLastD [])

/-- A name without a dot has one part. -/
lemma lastPart_of_not_mem {entry : String} (h : '.' ∉ entry.toList) : lastPart entry = entry := by
  rw [lastPart, List.splitOn_eq_singleton h]
  exact String.ofList_toList

/-- What stands behind a dot and has none itself is the last part. -/
lemma lastPart_append_dot {entry : String} {front back : List Char} (hback : '.' ∉ back)
    (h : entry.toList = front ++ '.' :: back) : lastPart entry = String.ofList back := by
  rw [lastPart, h, List.splitOn_append_cons_self, List.splitOn_eq_singleton hback,
    List.getLastD_concat]

/-- The runtime cuts a name off from the right, and finds its last part. -/
lemma functionName_eq_lastPart (entry : String) : functionName entry = lastPart entry := by
  have htake {cs : List Char} (h : '.' ∉ cs) : ∀ c ∈ cs, decide (c ≠ '.') = true :=
    fun c hc => decide_eq_true (ne_of_mem_of_not_mem hc h)
  by_cases hdot : '.' ∈ entry.toList
  · obtain ⟨back, front, hsplit, hback⟩ := List.eq_append_cons_of_mem (List.mem_reverse.2 hdot)
    have hentry : entry.toList = front.reverse ++ '.' :: back.reverse := by
      rw [← List.reverse_reverse entry.toList, hsplit]
      simp
    rw [lastPart_append_dot (by simpa using hback) hentry, functionName, hsplit,
      List.takeWhile_append_of_pos (htake hback)]
    simp
  · have hall := List.takeWhile_eq_self_iff.2 (htake (mt List.mem_reverse.1 hdot))
    rw [lastPart_of_not_mem hdot, functionName, hall, List.reverse_reverse, String.ofList_toList]

/-- The failure of a call of a function that is none. -/
def unknownFunction (entry : String) : BridgeError :=
  .status "call" .notFound s!"function '{entry}' not found"

/-- The content of the view that `int8` returns. -/
def int8Content : Content := ⟨int8Code, [1], [7]⟩

/-- The names that entry points go by. -/
def functions : List String := ["identity", "discard", "int8", "opaque"]

/-- An entry point puts what it returns behind the slots of the list of results. -/
lemma call_meets (h : Holds s live lists made bag m) {session : Handle .session} {entry : String}
    {inputs outputs : Handle .list} {slots : List MemorySlot}
    (hinputs : lists.lookup inputs.address = some slots)
    (houtputs : (lists.lookup outputs.address).isSome)
    (hslots : ∀ w ∈ viewAddresses slots, w ∈ bag) {ok : Unit → Memory → Prop}
    (hfault : .onCall ∈ s.faults → ∀ m', Holds s live lists made bag m' →
      bad (injected "call") m')
    (hidentity : .onCall ∉ s.faults → lastPart entry = "identity" → ∀ m', Holds s live
      (updateAt outputs.address (· ++ (viewAddresses slots).map .view) lists) made
      (↑(viewAddresses slots) + bag) m' → ok () m')
    (hdiscard : .onCall ∉ s.faults → lastPart entry = "discard" → ∀ m', Holds s live
      (updateAt outputs.address (· ++ []) lists) made bag m' → ok () m')
    (hint8 : .onCall ∉ s.faults → lastPart entry = "int8" → ∀ w m', w ∉ made.map Prod.fst →
      Holds s live (updateAt outputs.address (· ++ [.view w]) lists) ((w, int8Content) :: made)
        (w ::ₘ bag) m' → ok () m')
    (hvalue : .onCall ∉ s.faults → lastPart entry = "opaque" → ∀ m', Holds s live
      (updateAt outputs.address (· ++ [.opaqueValue]) lists) made bag m' → ok () m')
    (hunknown : .onCall ∉ s.faults → lastPart entry ∉ functions → ∀ m',
      Holds s live lists made bag m' → bad (unknownFunction entry) m') :
    (call session entry inputs outputs).Meets watch m ok bad := by
  refine Program.keeps_perform_ofHandler.2 ?_
  have hrec := h.record (.call entry)
  simp only [handle]
  split_ifs with hcontains
  · exact hfault (hrec.contains_faults.1 hcontains) _ hrec
  have hcall : .onCall ∉ s.faults := fun hmem => hcontains (hrec.contains_faults.2 hmem)
  simp only [evaluate, listAt_eq hrec hinputs, functionName_eq_lastPart]
  by_cases hid : lastPart entry = "identity"
  · rw [if_pos hid]
    exact hidentity hcall hid _ ((hrec.foldl_addReference hslots).extendList houtputs _)
  rw [if_neg hid]
  by_cases hdis : lastPart entry = "discard"
  · rw [if_pos hdis]
    exact hdiscard hcall hdis _ (hrec.extendList houtputs _)
  rw [if_neg hdis]
  by_cases hint : lastPart entry = "int8"
  · rw [if_pos hint]
    exact hint8 hcall hint _ _ hrec.fresh.2.2 ((hrec.addView int8Content).extendList houtputs _)
  rw [if_neg hint]
  by_cases hop : lastPart entry = "opaque"
  · rw [if_pos hop]
    exact hvalue hcall hop _ (hrec.extendList houtputs _)
  rw [if_neg hop]
  exact hunknown hcall (by simp [functions, hid, hdis, hint, hop]) _ hrec

end Memory

end TensorBridge
