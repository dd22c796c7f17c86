import Mathlib
import TensorBridge.Proofs.Memory.Accounts

/-!
# Callers that keep to the rules

`Memory.rules` are the rules for the callers of a runtime: what they hand over is in their custody,
what they look at is on loan to them, and the lengths that they ask for are right.  `Memory.Backed`
says that the runtime in memory holds what the books of its callers are about.

There is one fact for every operation, and from them comes `Memory.Backed.perform`: an operation
that the rules allow breaks none of the runtime, and afterwards the runtime holds again what the
books are about.
-/

namespace TensorBridge

namespace BackendOp

/-- The views in flight after an answered call: a view is in flight from its upload to its push. -/
def flight : (op : BackendOp) → op.Reply → Finset Nat → Finset Nat
  | uploadView .., .ok view, views => insert view.address views
  | pushView _ view, _, views => views.erase view.address
  | _, _, views => views

end BackendOp

namespace Memory

open Backend
open Session (Stamp)

/-- The rules for the callers of a runtime. -/
abbrev rules (stamp : Stamp) : Watch Backend (Custody × Lengths) :=
  (Custody.watch stamp).both Lengths.watch

/-- The runtime holds what the books of its callers are about. -/
def Backed (s : Setting) (books : Custody × Lengths) (flight : Finset Nat) (m : Memory) : Prop :=
  ∃ live lists made bag,
    Accounts books.1 books.2 flight live lists made bag ∧ Holds s live lists made bag m

/-- After the operation, the runtime holds what the books are about then. -/
def Follows (s : Setting) (stamp : Stamp) (books : Custody × Lengths) (flight : Finset Nat)
    (m : Memory) (op : BackendOp) : Prop :=
  (Program.perform (I := Backend) op).Keeps watch m fun r m' =>
    Backed s ((rules stamp).after books op r) (op.flight r flight) m'

section Operations

variable {s : Setting} {stamp : Stamp} {c : Custody} {known : Lengths} {flight : Finset Nat}
  {live : List Nat} {lists : List (Nat × List MemorySlot)} {made : List (Nat × Content)}
  {bag : Multiset Nat} {m : Memory}

/-- What an action does is told for success and for failure. -/
lemma keeps_of_meets {α : Type} {p : Program Backend (Except BridgeError α)}
    {Q : Except BridgeError α → Memory → Prop}
    (h : (Action.ofProgram p).Meets watch m (fun a => Q (.ok a)) (fun e => Q (.error e))) :
    p.Keeps watch m Q := by
  refine (Action.meets_ofProgram.1 h).mono fun r m' hr => ?_
  cases r with
  | ok a => exact hr
  | error e => exact hr

/-! ## Instances, devices and sessions -/

lemma follows_createInstance (h : Accounts c known flight live lists made bag)
    (hm : Holds s live lists made bag m) :
    Follows s stamp (c, known) flight m .createInstance := by
  refine keeps_of_meets (createInstance_meets hm (fun _ b m' hm' => ?_) fun _ m' hm' => ?_)
  · exact ⟨_, _, _, _, h.hold (by simp) (by simp), hm'⟩
  · exact ⟨_, _, _, _, h, hm'⟩

lemma follows_createDevice (h : Accounts c known flight live lists made bag)
    (hm : Holds s live lists made bag m) (inst : Handle .runtimeInstance) (driver : String) :
    Follows s stamp (c, known) flight m (.createDevice inst driver) := by
  refine createDevice_keeps hm (fun _ b m' hm' => ?_) fun _ m' hm' => ?_
  · exact ⟨_, _, _, _, h.hold (by simp) (by simp), hm'⟩
  · exact ⟨_, _, _, _, h, hm'⟩

lemma follows_createSession (h : Accounts c known flight live lists made bag)
    (hm : Holds s live lists made bag m) (inst : Handle .runtimeInstance)
    (device : Handle .device) :
    Follows s stamp (c, known) flight m (.createSession inst device) := by
  refine keeps_of_meets (createSession_meets hm (fun _ b m' hm' => ?_) fun _ m' hm' => ?_)
  · exact ⟨_, _, _, _, h.hold (by simp) (by simp), hm'⟩
  · exact ⟨_, _, _, _, h, hm'⟩

lemma follows_appendModule (h : Accounts c known flight live lists made bag)
    (hm : Holds s live lists made bag m) (session : Handle .session) (image : List UInt8) :
    Follows s stamp (c, known) flight m (.appendModule session image) := by
  refine keeps_of_meets (appendModule_meets hm (fun _ m' hm' => ?_) fun _ m' hm' => ?_)
  · exact ⟨_, _, _, _, h, hm'⟩
  · exact ⟨_, _, _, _, h, hm'⟩

/-- An instance, a device or a session is given back. -/
lemma backed_release (h : Accounts c known flight live lists made bag)
    (hm : Holds s live lists made bag m) {x : AnyHandle}
    (hheld : (stamp.holder x.kind, x) ∈ c.held) (hview : x.kind ≠ .view) (hlist : x.kind ≠ .list)
    (e : MemoryEvent) :
    Backed s (c.remove stamp x, known) flight (m.release e x.address) := by
  obtain ⟨live', hperm, h'⟩ := h.letGo hheld hview hlist
  exact ⟨_, _, _, _, h', (hm.perm hperm).release e⟩

/-! ## Lists -/

lemma follows_createList (h : Accounts c known flight live lists made bag)
    (hm : Holds s live lists made bag m) (capacity : Nat) :
    Follows s stamp (c, known) flight m (.createList capacity) :=
  keeps_of_meets (createList_meets hm fun _ _ hnew hm' => ⟨_, _, _, _, h.openList hnew, hm'⟩)

/-- The references in the slots of a list go with it. -/
lemma follows_releaseList (h : Accounts c known flight live lists made bag)
    (hm : Holds s live lists made bag m) {list : Handle .list}
    (hheld : (stamp.holder .list, list.any) ∈ c.held) :
    Follows s stamp (c, known) flight m (.releaseList list) := by
  obtain ⟨live', slots, bag', hperm, hlookup, rfl, h'⟩ := h.closeList hheld
  have hrel := (hm.perm hperm).release .releaseList
  refine Program.keeps_perform_ofHandler.2 ⟨_, _, _, _, h', ?_⟩
  simp only [handle, hrel.lists_eq, hlookup, Option.getD_some]
  refine Holds.dropSlots { hrel with lists_eq := rfl, lists_le := fun l hl => ?_ }
  exact hrel.lists_le l (List.mem_of_mem_filter hl)

lemma follows_listLength (h : Accounts c known flight live lists made bag)
    (hm : Holds s live lists made bag m) {list : Handle .list}
    (hheld : (stamp.holder .list, list.any) ∈ c.held) :
    Follows s stamp (c, known) flight m (.listLength list) := by
  obtain ⟨slots, hlookup⟩ := exists_lookup (h.exists_list hheld)
  refine Program.keeps_perform_ofHandler.2 ⟨_, _, _, _, h, ?_⟩
  simpa only [handle, listAt_eq hm hlookup] using hm

/-- A view that is found in a list is on loan from it. -/
lemma follows_viewAt (h : Accounts c known flight live lists made bag)
    (hm : Holds s live lists made bag m) {list : Handle .list}
    (hheld : (stamp.holder .list, list.any) ∈ c.held) (index : Nat) :
    Follows s stamp (c, known) flight m (.viewAt list index) := by
  obtain ⟨slots, hlookup⟩ := exists_lookup (h.exists_list hheld)
  have hmem : (list.address, slots) ∈ lists := mem_of_lookup hlookup
  refine Program.keeps_perform_ofHandler.2 ?_
  simp only [handle, listAt_eq hm hlookup]
  split
  · rename_i w hslot
    exact ⟨_, _, _, _, h.lend hmem (List.mem_of_getElem? hslot), hm⟩
  · exact ⟨_, _, _, _, h, hm⟩

/-! ## Views -/

lemma follows_uploadView (h : Accounts c known flight live lists made bag)
    (hm : Holds s live lists made bag m) (session : Handle .session) (dims : List UInt64)
    (code : UInt32) {data : List UInt8} (hshort : data.length < addressSpace) :
    Follows s stamp (c, known) flight m (.uploadView session dims code data) := by
  refine keeps_of_meets (uploadView_meets hm ⟨code, dims, data⟩ (fun _ w m' hnew hm' => ?_)
    fun _ m' hm' => ?_)
  · have hbag : w ∉ bag := fun hmem => hnew (hm.referred w hmem)
    exact ⟨_, _, _, _, (h.make hnew hshort).holdView hbag, hm'⟩
  · exact ⟨_, _, _, _, h, hm'⟩

/-- A push uses the view up: its reference goes to the list, or away. -/
lemma follows_pushView (h : Accounts c known flight live lists made bag)
    (hm : Holds s live lists made bag m) {list : Handle .list} {view : Handle .view}
    (hlist : (stamp.holder .list, list.any) ∈ c.held)
    (hview : (stamp.holder .view, view.any) ∈ c.held) :
    Follows s stamp (c, known) flight m (.pushView list view) := by
  have hkey := h.exists_list hlist
  obtain ⟨slots, hlookup⟩ := exists_lookup hkey
  obtain ⟨bag', rfl, h'⟩ := h.letViewGo hview
  refine keeps_of_meets (pushView_meets hm (by simp [hlookup]) (fun _ m' hm' => ?_)
    fun _ m' hm' => ?_)
  · exact ⟨_, _, _, _, h'.extend hkey [.view view.address], hm'⟩
  · exact ⟨_, _, _, _, h', hm'⟩

/-- A view on loan shows its content. -/
lemma exists_content (h : Accounts c known flight live lists made bag)
    (hm : Holds s live lists made bag m) {view : Handle .view}
    (hlent : ∃ list, (stamp.operation, list, view) ∈ c.lent) :
    view.address ∈ bag ∧ ∃ content, made.lookup view.address = some content := by
  obtain ⟨list, hlent⟩ := hlent
  obtain ⟨slots, hlist, hslot⟩ := h.lent _ hlent
  have hbag := h.mem_bag_of_slot hlist hslot
  exact ⟨hbag, exists_lookup (hm.referred _ hbag)⟩

/-- To look at a view on loan changes nothing. -/
lemma backed_viewAt (h : Accounts c known flight live lists made bag)
    (hm : Holds s live lists made bag m) {view : Handle .view}
    (hlent : ∃ list, (stamp.operation, list, view) ∈ c.lent) :
    Backed s (c, known) flight (m.viewAt view.address).2 := by
  obtain ⟨hbag, content, hmade⟩ := exists_content h hm hlent
  rw [viewAt_eq hm hmade hbag]
  exact ⟨_, _, _, _, h, hm⟩

lemma follows_viewByteLength (h : Accounts c known flight live lists made bag)
    (hm : Holds s live lists made bag m) {view : Handle .view}
    (hlent : ∃ list, (stamp.operation, list, view) ∈ c.lent) :
    Follows s stamp (c, known) flight m (.viewByteLength view) := by
  obtain ⟨hbag, content, hmade⟩ := exists_content h hm hlent
  refine Program.keeps_perform_ofHandler.2 ?_
  simp only [handle, viewAt_eq hm hmade hbag]
  exact ⟨_, _, _, _, h.report hmade, hm⟩

/-- A view is read at the length that was reported, which is the length of its content. -/
lemma follows_readView (h : Accounts c known flight live lists made bag)
    (hm : Holds s live lists made bag m) {view : Handle .view} {length : Nat}
    (hlent : ∃ list, (stamp.operation, list, view) ∈ c.lent)
    (hlength : ∃ reported, (view, reported) ∈ known ∧ length = reported.toNat) :
    Follows s stamp (c, known) flight m (.readView view length) := by
  obtain ⟨hbag, -⟩ := exists_content h hm hlent
  obtain ⟨reported, hknown, rfl⟩ := hlength
  obtain ⟨content, hmade, hsame⟩ := h.length_eq hknown
  refine keeps_of_meets (readView_meets hm hmade hbag hsame (fun _ bytes m' _ hm' => ?_)
    fun _ m' hm' => ?_)
  · exact ⟨_, _, _, _, h, hm'⟩
  · exact ⟨_, _, _, _, h, hm'⟩

/-! ## Entry points -/

/-- What an entry point returns goes behind the slots of the list of results, with a reference to
every view in it. -/
lemma follows_call (h : Accounts c known flight live lists made bag)
    (hm : Holds s live lists made bag m) (session : Handle .session) (entry : String)
    {inputs outputs : Handle .list} (hinputs : (stamp.holder .list, inputs.any) ∈ c.held)
    (houtputs : (stamp.holder .list, outputs.any) ∈ c.held) :
    Follows s stamp (c, known) flight m (.call session entry inputs outputs) := by
  have hkey := h.exists_list houtputs
  obtain ⟨results, hresults⟩ := exists_lookup hkey
  obtain ⟨slots, hslots⟩ := exists_lookup (h.exists_list hinputs)
  have hmem : (inputs.address, slots) ∈ lists := mem_of_lookup hslots
  have hbag : ∀ w ∈ viewAddresses slots, w ∈ bag := fun w hw => by
    obtain ⟨slot, hslot, heq⟩ := List.mem_filterMap.1 hw
    cases slot with
    | view v =>
      cases heq
      exact h.mem_bag_of_slot hmem hslot
    | opaqueValue => cases heq
  refine keeps_of_meets (call_meets hm hslots (by simp [hresults]) hbag ?_ ?_ ?_ ?_ ?_ ?_)
  · exact fun _ m' hm' => ⟨_, _, _, _, h, hm'⟩
  · intro _ _ m' hm'
    have h' := h.extend hkey ((viewAddresses slots).map .view)
    rw [viewAddresses_map_view] at h'
    exact ⟨_, _, _, _, h', hm'⟩
  · intro _ _ m' hm'
    have h' := h.extend hkey []
    rw [viewAddresses_nil, Multiset.coe_nil, zero_add] at h'
    exact ⟨_, _, _, _, h', hm'⟩
  · intro _ _ w m' hnew hm'
    exact ⟨_, _, _, _, (h.make hnew (by decide)).extend hkey [.view w], hm'⟩
  · intro _ _ m' hm'
    have h' := h.extend hkey [.opaqueValue]
    rw [viewAddresses_opaqueValue, Multiset.coe_nil, zero_add] at h'
    exact ⟨_, _, _, _, h', hm'⟩
  · exact fun _ _ m' hm' => ⟨_, _, _, _, h, hm'⟩

end Operations

/-! ## Every operation -/

namespace Backed

variable {s : Setting} {stamp : Stamp} {books : Custody × Lengths} {flight : Finset Nat}
  {m : Memory}

/-- **An operation that the rules allow** leaves the runtime with what the books are about. -/
theorem perform (h : Backed s books flight m) {op : BackendOp}
    (hallows : (rules stamp).Allows books op) : Follows s stamp books flight m op := by
  obtain ⟨c, known⟩ := books
  obtain ⟨live, lists, made, bag, h, hm⟩ := h
  obtain ⟨⟨hpassed, hlooks⟩, hmeasured⟩ := hallows
  cases op with
  | createInstance => exact follows_createInstance h hm
  | releaseInstance inst =>
    have hheld := hpassed inst.any List.mem_cons_self
    exact Program.keeps_perform_ofHandler.2
      (backed_release h hm hheld (by simp) (by simp) .releaseInstance)
  | createDevice inst driver => exact follows_createDevice h hm inst driver
  | releaseDevice device =>
    have hheld := hpassed device.any List.mem_cons_self
    exact Program.keeps_perform_ofHandler.2
      (backed_release h hm hheld (by simp) (by simp) .releaseDevice)
  | createSession inst device => exact follows_createSession h hm inst device
  | releaseSession session =>
    have hheld := hpassed session.any List.mem_cons_self
    exact Program.keeps_perform_ofHandler.2
      (backed_release h hm hheld (by simp) (by simp) .releaseSession)
  | appendModule session image => exact follows_appendModule h hm session image
  | createList capacity => exact follows_createList h hm capacity
  | releaseList list => exact follows_releaseList h hm (hpassed _ List.mem_cons_self)
  | listLength list => exact follows_listLength h hm (hpassed _ List.mem_cons_self)
  | uploadView session dims code data => exact follows_uploadView h hm session dims code hmeasured
  | pushView list view =>
    exact follows_pushView h hm (hpassed _ List.mem_cons_self)
      (hpassed view.any (by simp [BackendOp.passed]))
  | call session entry inputs outputs =>
    exact follows_call h hm session entry (hpassed inputs.any (by simp [BackendOp.passed]))
      (hpassed outputs.any (by simp [BackendOp.passed]))
  | viewAt list index => exact follows_viewAt h hm (hpassed _ List.mem_cons_self) index
  | viewDims view => exact Program.keeps_perform_ofHandler.2 (backed_viewAt h hm (hlooks view rfl))
  | viewCode view => exact Program.keeps_perform_ofHandler.2 (backed_viewAt h hm (hlooks view rfl))
  | viewByteLength view => exact follows_viewByteLength h hm (hlooks view rfl)
  | readView view length => exact follows_readView h hm (hlooks view rfl) hmeasured

end Backed

end Memory

end TensorBridge
