import Mathlib
import TensorBridge.Memory.Basic
import TensorBridge.Proofs.Program.Watch

/-!
# What the runtime in memory holds

The books of the runtime in memory, told by what counts: the faults that are set, the addresses that
are live, the lists with their slots, what the views show, and how many references there are to each
of them.  `Memory.Holds` says so of a state, and also that no rule has been broken.

There is one fact for every operation of the runtime.  It tells what the operation replies and what
is held then, and has as its hypotheses what a caller has to see to.
-/

namespace TensorBridge

namespace Memory

/-- What makes calls fail. -/
structure Setting where
  /-- The kinds of calls that fail. -/
  faults : Finset MemoryFault := ∅
  /-- The drivers that have no device. -/
  failing : Finset String := ∅

/-- What a view shows. -/
structure Content where
  /-- The native code of the element type. -/
  code : UInt32
  /-- The dimensions. -/
  dims : List UInt64
  /-- The bytes. -/
  data : List UInt8
deriving DecidableEq, Repr

/-! ## Views and their references -/

/-- The views that have been made, with as many references as their addresses are in a bag.  Those
whose addresses are not in the bag are gone. -/
def viewTable (made : List (Nat × Content)) (bag : Multiset Nat) : List (Nat × MemoryView) :=
  (made.filter fun v => v.1 ∈ bag).map fun v =>
    (v.1, ⟨v.2.code, v.2.dims, v.2.data, bag.count v.1⟩)

section Views

variable {made : List (Nat × Content)} {bag : Multiset Nat} {v : Nat} {content : Content}

@[simp] lemma viewTable_zero : viewTable made 0 = [] := by simp [viewTable]

lemma exists_lookup {α : Type} {table : List (Nat × α)} (hv : v ∈ table.map Prod.fst) :
    ∃ a, table.lookup v = some a := by
  rcases hlookup : table.lookup v with _ | a
  · obtain ⟨w, hw, rfl⟩ := List.mem_map.1 hv
    simpa using List.lookup_eq_none_iff.1 hlookup w hw
  · exact ⟨a, rfl⟩

lemma lookup_viewTable (hmade : made.lookup v = some content) (hv : v ∈ bag) :
    (viewTable made bag).lookup v =
      some ⟨content.code, content.dims, content.data, bag.count v⟩ := by
  induction made with
  | nil => simp at hmade
  | cons first rest ih =>
    obtain ⟨w, other⟩ := first
    by_cases hw : v = w
    · subst hw
      obtain rfl : other = content := by simpa using hmade
      simp [viewTable, hv]
    · have hbeq : (v == w) = false := by simpa using hw
      rw [List.lookup_cons, hbeq] at hmade
      have hrest := ih hmade
      by_cases hmem : w ∈ bag
      · simpa [viewTable, hmem, List.lookup_cons, hbeq] using hrest
      · simpa [viewTable, hmem] using hrest

/-- A new view with one reference. -/
lemma viewTable_cons (hnew : v ∉ made.map Prod.fst) :
    viewTable ((v, content) :: made) (v ::ₘ bag) =
      (v, ⟨content.code, content.dims, content.data, bag.count v + 1⟩) :: viewTable made bag := by
  have hne : ∀ w ∈ made, w.1 ≠ v := fun w hw heq => hnew (List.mem_map.2 ⟨w, hw, heq⟩)
  have hfilter : (made.filter fun w => w.1 ∈ v ::ₘ bag) = made.filter fun w => w.1 ∈ bag :=
    List.filter_congr fun w hw => by simp [hne w hw]
  simp only [viewTable, List.filter_cons, Multiset.mem_cons_self, decide_true, if_true,
    List.map_cons, Multiset.count_cons_self, hfilter]
  congr 1
  refine List.map_congr_left fun w hw => ?_
  rw [Multiset.count_cons_of_ne (hne w (List.mem_of_mem_filter hw))]

/-- One more reference to a view. -/
lemma updateAt_viewTable_add (hv : v ∈ bag) :
    updateAt v (fun view => { view with references := view.references + 1 }) (viewTable made bag) =
      viewTable made (v ::ₘ bag) := by
  have hfilter : (made.filter fun w => w.1 ∈ v ::ₘ bag) = made.filter fun w => w.1 ∈ bag :=
    List.filter_congr fun w _ => by
      by_cases hw : w.1 = v <;> simp [hw, hv]
  simp only [updateAt, viewTable, List.map_map, hfilter]
  refine List.map_congr_left fun w _ => ?_
  by_cases hw : w.1 = v
  · simp [hw]
  · simp [hw, Multiset.count_cons_of_ne hw]

/-- One reference less to a view that has more than one. -/
lemma updateAt_viewTable_drop (hv : 1 < bag.count v) :
    updateAt v (fun view => { view with references := view.references - 1 }) (viewTable made bag) =
      viewTable made (bag.erase v) := by
  have hmem : v ∈ bag.erase v := by
    rw [← Multiset.count_pos, Multiset.count_erase_self]
    omega
  have hfilter : (made.filter fun w => w.1 ∈ bag.erase v) = made.filter fun w => w.1 ∈ bag :=
    List.filter_congr fun w _ => by
      by_cases hw : w.1 = v
      · simp [hw, hmem, Multiset.mem_of_mem_erase hmem]
      · simp [Multiset.mem_erase_of_ne hw]
  simp only [updateAt, viewTable, List.map_map, hfilter]
  refine List.map_congr_left fun w _ => ?_
  by_cases hw : w.1 = v
  · simp [hw]
  · simp [hw, Multiset.count_erase_of_ne hw]

/-- The last reference to a view takes it along. -/
lemma eraseAt_viewTable (hv : bag.count v = 1) :
    eraseAt v (viewTable made bag) = viewTable made (bag.erase v) := by
  have hnone : v ∉ bag.erase v := by
    rw [← Multiset.count_eq_zero, Multiset.count_erase_self, hv]
  simp only [eraseAt, viewTable, List.filter_map, List.filter_filter, Function.comp_def]
  have hfilter : (made.filter fun w => decide (w.1 ≠ v) && decide (w.1 ∈ bag)) =
      made.filter fun w => w.1 ∈ bag.erase v :=
    List.filter_congr fun w _ => by
      by_cases hw : w.1 = v
      · simp [hw, hnone]
      · simp [hw, Multiset.mem_erase_of_ne hw]
  rw [hfilter]
  refine List.map_congr_left fun w hw => ?_
  have hne : w.1 ≠ v := by
    rintro rfl
    exact hnone (by simpa using List.of_mem_filter hw)
  rw [Multiset.count_erase_of_ne hne]

end Views

/-! ## States -/

/-- What a state of the runtime holds. -/
structure Holds (s : Setting) (live : List Nat) (lists : List (Nat × List MemorySlot))
    (made : List (Nat × Content)) (bag : Multiset Nat) (m : Memory) : Prop where
  /-- The kinds of calls that fail. -/
  faults_eq : m.faults.toFinset = s.faults
  /-- The drivers without a device. -/
  failing_eq : m.failingDrivers.toFinset = s.failing
  /-- The live addresses. -/
  live_perm : m.live.Perm live
  /-- The lists. -/
  lists_eq : m.lists = lists
  /-- The views. -/
  views_eq : m.views = viewTable made bag
  /-- No rule has been broken. -/
  intact : m.defect? = none
  /-- Every live address has been handed out. -/
  live_le : ∀ a ∈ live, a ≤ m.lastAddress
  /-- The address of every list has been handed out. -/
  lists_le : ∀ l ∈ lists, l.1 ≤ m.lastAddress
  /-- The address of every view has been handed out. -/
  made_le : ∀ v ∈ made, v.1 ≤ m.lastAddress
  /-- Every reference is one to a view that has been made. -/
  referred : ∀ v ∈ bag, v ∈ made.map Prod.fst

namespace Holds

variable {s : Setting} {live : List Nat} {lists : List (Nat × List MemorySlot)}
  {made : List (Nat × Content)} {bag : Multiset Nat} {m : Memory} {a v : Nat}

lemma contains_faults (h : Holds s live lists made bag m) {fault : MemoryFault} :
    m.faults.contains fault = true ↔ fault ∈ s.faults := by
  rw [List.contains_iff_mem, ← List.mem_toFinset, h.faults_eq]

lemma contains_failing (h : Holds s live lists made bag m) {driver : String} :
    m.failingDrivers.contains driver = true ↔ driver ∈ s.failing := by
  rw [List.contains_iff_mem, ← List.mem_toFinset, h.failing_eq]

/-- The next address is none of a live thing, a list or a view. -/
lemma fresh (h : Holds s live lists made bag m) :
    m.lastAddress + 1 ∉ live ∧ (∀ l ∈ lists, l.1 ≠ m.lastAddress + 1) ∧
      m.lastAddress + 1 ∉ made.map Prod.fst := by
  refine ⟨fun hmem => ?_, fun l hl heq => ?_, fun hmem => ?_⟩
  · have := h.live_le _ hmem
    omega
  · have := h.lists_le l hl
    omega
  · obtain ⟨w, hw, heq⟩ := List.mem_map.1 hmem
    have := h.made_le w hw
    omega

/-! ### Records, addresses and references -/

lemma record (h : Holds s live lists made bag m) (e : MemoryEvent) :
    Holds s live lists made bag (m.record e) :=
  ⟨h.faults_eq, h.failing_eq, h.live_perm, h.lists_eq, h.views_eq, h.intact, h.live_le,
    h.lists_le, h.made_le, h.referred⟩

lemma perm (h : Holds s live lists made bag m) {live' : List Nat} (hperm : live.Perm live') :
    Holds s live' lists made bag m :=
  { h with
    live_perm := h.live_perm.trans hperm
    live_le := fun a ha => h.live_le a (hperm.mem_iff.2 ha) }

/-- A new live address. -/
lemma allocate (h : Holds s live lists made bag m) :
    Holds s ((m.lastAddress + 1) :: live) lists made bag m.allocate.2 where
  faults_eq := h.faults_eq
  failing_eq := h.failing_eq
  live_perm := h.live_perm.cons _
  lists_eq := h.lists_eq
  views_eq := h.views_eq
  intact := h.intact
  live_le := List.forall_mem_cons.2 ⟨le_rfl, fun a ha => (h.live_le a ha).trans (Nat.le_succ _)⟩
  lists_le l hl := (h.lists_le l hl).trans (Nat.le_succ _)
  made_le w hw := (h.made_le w hw).trans (Nat.le_succ _)
  referred := h.referred

/-- An address that is live is given back. -/
lemma release (h : Holds s (a :: live) lists made bag m) (e : MemoryEvent) :
    Holds s live lists made bag (m.release e a) := by
  have hrec := h.record e
  have hmem : (m.record e).live.contains a = true :=
    List.contains_iff_mem.2 (hrec.live_perm.mem_iff.2 List.mem_cons_self)
  rw [Memory.release, if_pos hmem]
  refine ⟨hrec.faults_eq, hrec.failing_eq, ?_, hrec.lists_eq, hrec.views_eq, hrec.intact,
    fun b hb => h.live_le b (List.mem_cons_of_mem _ hb), hrec.lists_le, hrec.made_le,
    hrec.referred⟩
  simpa using hrec.live_perm.erase a

/-- A new view with one reference. -/
lemma addView (h : Holds s live lists made bag m) (content : Content) :
    Holds s live lists ((m.lastAddress + 1, content) :: made) ((m.lastAddress + 1) ::ₘ bag)
      (m.addView content.code content.dims content.data).2 := by
  obtain ⟨-, -, hnew⟩ := h.fresh
  have hcount : bag.count (m.lastAddress + 1) = 0 :=
    Multiset.count_eq_zero.2 fun hmem => hnew (h.referred _ hmem)
  refine ⟨h.faults_eq, h.failing_eq, h.live_perm, h.lists_eq, ?_, h.intact, ?_, ?_, ?_, ?_⟩
  · rw [viewTable_cons hnew, hcount, ← h.views_eq]
    rfl
  · exact fun a ha => (h.live_le a ha).trans (Nat.le_succ _)
  · exact fun l hl => (h.lists_le l hl).trans (Nat.le_succ _)
  · exact List.forall_mem_cons.2 ⟨le_rfl, fun w hw => (h.made_le w hw).trans (Nat.le_succ _)⟩
  · intro w hw
    rw [List.map_cons, List.mem_cons]
    exact (Multiset.mem_cons.1 hw).imp_right (h.referred w)

/-- Without references, no view is there. -/
lemma forget (h : Holds s live lists made 0 m) : Holds s live lists [] 0 m :=
  { h with
    views_eq := by rw [h.views_eq, viewTable_zero, viewTable_zero]
    made_le := by simp
    referred := by simp }

/-- A view to which there is a reference is there. -/
lemma exists_view (h : Holds s live lists made bag m) (hv : v ∈ bag) :
    ∃ content : Content, m.views.lookup v =
      some ⟨content.code, content.dims, content.data, bag.count v⟩ := by
  obtain ⟨content, hcontent⟩ := exists_lookup (h.referred v hv)
  exact ⟨content, by rw [h.views_eq, lookup_viewTable hcontent hv]⟩

/-- The books with other views. -/
lemma with_views (h : Holds s live lists made bag m) {bag' : Multiset Nat}
    {views : List (Nat × MemoryView)} (hviews : views = viewTable made bag')
    (hreferred : ∀ w ∈ bag', w ∈ bag) : Holds s live lists made bag' { m with views := views } :=
  { h with
    views_eq := hviews
    referred := fun w hw => h.referred w (hreferred w hw) }

lemma addReference (h : Holds s live lists made bag m) (hv : v ∈ bag) :
    Holds s live lists made (v ::ₘ bag) (m.addReference v) := by
  obtain ⟨content, hlookup⟩ := h.exists_view hv
  simp only [Memory.addReference, hlookup]
  refine h.with_views ?_ fun w hw => ?_
  · rw [h.views_eq, updateAt_viewTable_add hv]
  · rcases Multiset.mem_cons.1 hw with rfl | hw
    · exact hv
    · exact hw

lemma dropReference (h : Holds s live lists made (v ::ₘ bag) m) :
    Holds s live lists made bag (m.dropReference v) := by
  obtain ⟨content, hlookup⟩ := h.exists_view (Multiset.mem_cons_self v bag)
  have hsub : ∀ w ∈ bag, w ∈ v ::ₘ bag := fun w hw => Multiset.mem_cons_of_mem hw
  have hpos : (v ::ₘ bag).count v ≠ 0 := by simp
  simp only [Memory.dropReference, hlookup, if_neg hpos]
  split_ifs with hone
  · refine h.with_views ?_ hsub
    rw [h.views_eq, eraseAt_viewTable hone, Multiset.erase_cons_head]
  · refine h.with_views ?_ hsub
    rw [h.views_eq, updateAt_viewTable_drop (by omega), Multiset.erase_cons_head]

/-- As many references more as addresses. -/
lemma foldl_addReference {addresses : List Nat} (h : Holds s live lists made bag m)
    (hmem : ∀ w ∈ addresses, w ∈ bag) :
    Holds s live lists made (↑addresses + bag) (addresses.foldl Memory.addReference m) := by
  induction addresses generalizing m bag with
  | nil => simpa using h
  | cons w rest ih =>
    obtain ⟨hw, hrest⟩ := List.forall_mem_cons.1 hmem
    have hnext := ih (h.addReference hw) fun x hx => Multiset.mem_cons_of_mem (hrest x hx)
    rwa [Multiset.add_cons, ← Multiset.cons_add, Multiset.cons_coe] at hnext

/-- The references in the slots of a list go. -/
lemma dropSlots {slots : List MemorySlot}
    (h : Holds s live lists made (↑(viewAddresses slots) + bag) m) :
    Holds s live lists made bag (m.dropSlots slots) := by
  induction slots generalizing m with
  | nil => simpa [viewAddresses, Memory.dropSlots] using h
  | cons slot rest ih =>
    cases slot with
    | view w =>
      refine ih (Holds.dropReference ?_)
      simpa [viewAddresses, ← Multiset.cons_coe] using h
    | opaqueValue => exact ih h

end Holds

end Memory

end TensorBridge
