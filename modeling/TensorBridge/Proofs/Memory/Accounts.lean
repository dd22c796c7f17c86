import Mathlib
import TensorBridge.Proofs.Memory.Invocation
import TensorBridge.Proofs.Session.Custody
import TensorBridge.Proofs.Session.Lengths

/-!
# Accounts of what callers hold

The runtime in memory and its callers keep books of their own.  The callers know the handles in
their custody and the lengths that were reported to them; the runtime has live addresses, lists, and
views with their references.  `Memory.Accounts` is what the two have to do with each other:

* every live address is one of an instance, a device, a session or a list in custody;
* there is a list for every list in custody, and no other;
* there are as many references to a view as there are slots with it, and one more while it is in
  custody;
* a view on loan stands in the list that it is lent from.

The facts here tell how both change together when a handle is handed out, lent or given back, and
when slots are put into a list.
-/

namespace TensorBridge

/-! ## Addresses in custody -/

namespace Custody

open Session (Stamp)

/-- The addresses of the handles in custody that are of certain kinds. -/
def addresses (c : Custody) (p : Resource → Prop) [DecidablePred p] : Multiset Nat :=
  (c.held.filter fun x => p x.2.kind).map fun x => x.2.address

section Addresses

variable {c : Custody} {stamp : Stamp} {p : Resource → Prop} [DecidablePred p] (h : AnyHandle)

lemma mem_addresses {holder : Holder} (hheld : (holder, h) ∈ c.held) (hp : p h.kind) :
    h.address ∈ c.addresses p :=
  Multiset.mem_map.2 ⟨(holder, h), Multiset.mem_filter.2 ⟨hheld, hp⟩, rfl⟩

lemma addresses_add (hp : p h.kind) :
    (c.add stamp h).addresses p = h.address ::ₘ c.addresses p := by
  simp [addresses, hp]

lemma addresses_add_of_not (hp : ¬p h.kind) : (c.add stamp h).addresses p = c.addresses p := by
  simp [addresses, hp]

lemma addresses_add_remove (hheld : (stamp.holder h.kind, h) ∈ c.held) :
    ((c.remove stamp h).add stamp h).addresses p = c.addresses p := by
  rw [addresses, addresses, held_add, held_remove, Multiset.cons_erase hheld]

lemma addresses_remove (hheld : (stamp.holder h.kind, h) ∈ c.held) (hp : p h.kind) :
    c.addresses p = h.address ::ₘ (c.remove stamp h).addresses p := by
  rw [← addresses_add_remove h hheld, addresses_add h hp]

lemma addresses_remove_of_not (hheld : (stamp.holder h.kind, h) ∈ c.held) (hp : ¬p h.kind) :
    c.addresses p = (c.remove stamp h).addresses p := by
  rw [← addresses_add_remove h hheld, addresses_add_of_not h hp]

end Addresses

end Custody

namespace Memory

/-! ## Tables -/

section Tables

variable {α : Type} {table : List (Nat × α)} {a : Nat} {x : α}

lemma mem_of_lookup (h : table.lookup a = some x) : (a, x) ∈ table := by
  obtain ⟨before, after, rfl, -⟩ := List.lookup_eq_some_iff.1 h
  simp

lemma map_fst_updateAt (f : α → α) : (updateAt a f table).map Prod.fst = table.map Prod.fst := by
  rw [updateAt, List.map_map]
  refine List.map_congr_left fun entry _ => ?_
  by_cases h : entry.1 = a <;> simp [h]

lemma updateAt_of_notMem (ha : a ∉ table.map Prod.fst) (f : α → α) :
    updateAt a f table = table := by
  refine (List.map_congr_left fun entry hentry => ?_).trans (List.map_id table)
  have hne : entry.1 ≠ a := fun heq => ha (heq ▸ List.mem_map_of_mem hentry)
  rw [if_neg hne]
  rfl

lemma eraseAt_of_notMem (ha : a ∉ table.map Prod.fst) : eraseAt a table = table :=
  List.filter_eq_self.2 fun _ hentry =>
    decide_eq_true fun heq => ha (heq ▸ List.mem_map_of_mem hentry)

/-- The place of an address in a table where it stands once. -/
lemma exists_place (hdistinct : (table.map Prod.fst).Nodup) (ha : a ∈ table.map Prod.fst) :
    ∃ x before after, table = before ++ (a, x) :: after ∧ table.lookup a = some x ∧
      eraseAt a table = before ++ after ∧
        ∀ f, updateAt a f table = before ++ (a, f x) :: after := by
  obtain ⟨x, hlookup⟩ := exists_lookup ha
  obtain ⟨before, after, rfl, -⟩ := List.lookup_eq_some_iff.1 hlookup
  simp only [List.map_append, List.map_cons, List.nodup_middle, List.nodup_cons, List.mem_append,
    not_or] at hdistinct
  obtain ⟨⟨hbefore, hafter⟩, -⟩ := hdistinct
  have herase : eraseAt a [(a, x)] = [] := by simp [eraseAt]
  have hupdate (f : α → α) : updateAt a f [(a, x)] = [(a, f x)] := by simp [updateAt]
  refine ⟨x, before, after, rfl, hlookup, ?_, fun f => ?_⟩
  · rw [← List.singleton_append, eraseAt, List.filter_append, List.filter_append]
    show eraseAt a before ++ (eraseAt a [(a, x)] ++ eraseAt a after) = before ++ after
    rw [eraseAt_of_notMem hbefore, eraseAt_of_notMem hafter, herase, List.nil_append]
  · rw [← List.singleton_append, updateAt, List.map_append, List.map_append]
    show updateAt a f before ++ (updateAt a f [(a, x)] ++ updateAt a f after) =
      before ++ (a, f x) :: after
    rw [updateAt_of_notMem hbefore, updateAt_of_notMem hafter, hupdate, List.singleton_append]

end Tables

/-- The references in the slots of lists. -/
def referencesIn (lists : List (Nat × List MemorySlot)) : Multiset Nat :=
  ↑(viewAddresses (lists.flatMap Prod.snd))

section References

variable {lists before after : List (Nat × List MemorySlot)} {a : Nat}
  {slots more : List MemorySlot}

lemma viewAddresses_append :
    viewAddresses (slots ++ more) = viewAddresses slots ++ viewAddresses more :=
  List.filterMap_append

@[simp] lemma referencesIn_nil : referencesIn [] = 0 := rfl

@[simp] lemma referencesIn_cons : referencesIn ((a, slots) :: lists) =
    ↑(viewAddresses slots) + referencesIn lists := by
  simp [referencesIn, viewAddresses_append]

@[simp] lemma referencesIn_append :
    referencesIn (before ++ after) = referencesIn before + referencesIn after := by
  simp [referencesIn, viewAddresses_append]

/-- Slots that are put behind those of a list bring their references along. -/
lemma referencesIn_updateAt (hdistinct : (lists.map Prod.fst).Nodup)
    (ha : a ∈ lists.map Prod.fst) :
    referencesIn (updateAt a (· ++ more) lists) = ↑(viewAddresses more) + referencesIn lists := by
  obtain ⟨slots, before, after, rfl, -, -, hupdate⟩ := exists_place hdistinct ha
  rw [hupdate]
  simp only [referencesIn_append, referencesIn_cons, viewAddresses_append, ← Multiset.coe_add]
  abel

/-- Every list is still there, with its slots among those that it has now. -/
lemma exists_mem_updateAt {l : Nat × List MemorySlot} (hl : l ∈ lists) :
    ∃ slots, (l.1, slots) ∈ updateAt a (· ++ more) lists ∧ ∀ slot ∈ l.2, slot ∈ slots := by
  by_cases heq : l.1 = a
  · refine ⟨l.2 ++ more, List.mem_map.2 ⟨l, hl, if_pos heq⟩, fun slot hslot => ?_⟩
    exact List.mem_append_left _ hslot
  · exact ⟨l.2, List.mem_map.2 ⟨l, hl, if_neg heq⟩, fun _ hslot => hslot⟩

end References

/-! ## Accounts -/

/-- The books of the callers agree with what is held. -/
structure Accounts (c : Custody) (known : Lengths) (flight : Finset Nat) (live : List Nat)
    (lists : List (Nat × List MemorySlot)) (made : List (Nat × Content)) (bag : Multiset Nat) :
    Prop where
  /-- The live addresses are those of the handles in custody that are no views. -/
  live_eq : (↑live : Multiset Nat) = c.addresses (· ≠ .view)
  /-- The lists are those in custody. -/
  keys_eq : (↑(lists.map Prod.fst) : Multiset Nat) = c.addresses (· = .list)
  keys_nodup : (lists.map Prod.fst).Nodup
  made_nodup : (made.map Prod.fst).Nodup
  /-- The views in flight are those in custody. -/
  flight_eq : flight.val = c.addresses (· = .view)
  /-- The references are those of the views in flight and those in slots. -/
  bag_eq : bag = flight.val + referencesIn lists
  /-- A view on loan is in its list. -/
  lent : ∀ loan ∈ c.lent, ∃ slots, (loan.2.1.address, slots) ∈ lists ∧
    .view loan.2.2.address ∈ slots
  /-- The lengths that were reported are right. -/
  reported : ∀ r ∈ known, ∃ content : Content, made.lookup r.1.address = some content ∧
    r.2 = UInt64.ofNat content.data.length
  /-- The length of every view can be reported. -/
  short : ∀ v ∈ made, v.2.data.length < addressSpace

namespace Accounts

open Session (Stamp)

variable {c : Custody} {known : Lengths} {flight : Finset Nat} {live : List Nat}
  {lists : List (Nat × List MemorySlot)} {made : List (Nat × Content)} {bag : Multiset Nat}
  {stamp : Stamp} {x : AnyHandle} {a w : Nat} {content : Content}

/-! ### Instances, devices and sessions -/

/-- A handle that is no list and no view is handed out. -/
lemma hold (h : Accounts c known flight live lists made bag) (hview : x.kind ≠ .view)
    (hlist : x.kind ≠ .list) :
    Accounts (c.add stamp x) known flight (x.address :: live) lists made bag :=
  { h with
    live_eq := by rw [Custody.addresses_add x hview, ← h.live_eq, Multiset.cons_coe]
    keys_eq := by rw [Custody.addresses_add_of_not x hlist, h.keys_eq]
    flight_eq := by rw [Custody.addresses_add_of_not x hview, h.flight_eq] }

/-- A handle that is no view is given back, and its address comes first among the live ones. -/
lemma exists_live (h : Accounts c known flight live lists made bag)
    (hheld : (stamp.holder x.kind, x) ∈ c.held) (hview : x.kind ≠ .view) :
    ∃ live', live.Perm (x.address :: live') ∧
      (↑live' : Multiset Nat) = (c.remove stamp x).addresses (· ≠ .view) := by
  refine ⟨((c.remove stamp x).addresses (· ≠ .view)).toList, ?_, Multiset.coe_toList _⟩
  rw [← Multiset.coe_eq_coe, h.live_eq, Custody.addresses_remove x hheld hview,
    ← Multiset.cons_coe, Multiset.coe_toList]

lemma lent_remove (h : Accounts c known flight live lists made bag) :
    ∀ loan ∈ (c.remove stamp x).lent, ∃ slots, (loan.2.1.address, slots) ∈ lists ∧
      .view loan.2.2.address ∈ slots :=
  fun loan hloan => h.lent loan (List.mem_of_mem_filter hloan)

/-- A handle that is no list and no view is given back. -/
lemma letGo (h : Accounts c known flight live lists made bag)
    (hheld : (stamp.holder x.kind, x) ∈ c.held) (hview : x.kind ≠ .view) (hlist : x.kind ≠ .list) :
    ∃ live', live.Perm (x.address :: live') ∧
      Accounts (c.remove stamp x) known flight live' lists made bag := by
  obtain ⟨live', hperm, hlive⟩ := h.exists_live hheld hview
  exact ⟨live', hperm, { h with
    live_eq := hlive
    keys_eq := by rw [h.keys_eq, Custody.addresses_remove_of_not x hheld hlist]
    flight_eq := by rw [h.flight_eq, Custody.addresses_remove_of_not x hheld hview]
    lent := h.lent_remove }⟩

/-! ### Lists -/

/-- An empty list is handed out. -/
lemma openList (h : Accounts c known flight live lists made bag) {list : Handle .list}
    (hnew : ∀ l ∈ lists, l.1 ≠ list.address) :
    Accounts (c.add stamp list.any) known flight (list.address :: live)
      ((list.address, []) :: lists) made bag where
  live_eq := by
    rw [Custody.addresses_add list.any (by simp), ← h.live_eq, ← Multiset.cons_coe]
    rfl
  keys_eq := by
    have hkeys : (c.add stamp list.any).addresses (· = .list) =
        list.address ::ₘ c.addresses (· = .list) := Custody.addresses_add list.any rfl
    rw [hkeys, ← h.keys_eq, List.map_cons, Multiset.cons_coe]
  keys_nodup := by
    refine List.nodup_cons.2 ⟨fun hmem => ?_, h.keys_nodup⟩
    obtain ⟨l, hl, heq⟩ := List.mem_map.1 hmem
    exact hnew l hl heq
  flight_eq := by rw [Custody.addresses_add_of_not list.any (by simp), h.flight_eq]
  bag_eq := by
    rw [h.bag_eq, referencesIn_cons]
    simp
  made_nodup := h.made_nodup
  lent loan hloan := by
    obtain ⟨slots, hmem, hslot⟩ := h.lent loan hloan
    exact ⟨slots, List.mem_cons_of_mem _ hmem, hslot⟩
  reported := h.reported
  short := h.short

/-- There is a list for a list in custody. -/
lemma exists_list (h : Accounts c known flight live lists made bag) {list : Handle .list}
    (hheld : (stamp.holder .list, list.any) ∈ c.held) : list.address ∈ lists.map Prod.fst := by
  have hmem : list.address ∈ c.addresses (· = .list) := Custody.mem_addresses list.any hheld rfl
  rwa [← h.keys_eq, Multiset.mem_coe] at hmem

/-- A list is given back, and the references in its slots go. -/
lemma closeList (h : Accounts c known flight live lists made bag) {list : Handle .list}
    (hheld : (stamp.holder .list, list.any) ∈ c.held) :
    ∃ live' slots bag', live.Perm (list.address :: live') ∧
      lists.lookup list.address = some slots ∧ bag = ↑(viewAddresses slots) + bag' ∧
        Accounts (c.remove stamp list.any) known flight live' (eraseAt list.address lists) made
          bag' := by
  obtain ⟨live', hperm, hlive⟩ := exists_live (x := list.any) h hheld (by simp)
  obtain ⟨slots, before, after, rfl, hlookup, herase, -⟩ :=
    exists_place h.keys_nodup (h.exists_list hheld)
  have hkeys : c.addresses (· = .list) =
      list.address ::ₘ (c.remove stamp list.any).addresses (· = .list) :=
    Custody.addresses_remove list.any hheld rfl
  have hperm' : (before.map Prod.fst ++ list.address :: after.map Prod.fst).Perm
      (list.address :: (before.map Prod.fst ++ after.map Prod.fst)) := List.perm_middle
  have hnodup := h.keys_nodup
  have hsame := h.keys_eq
  rw [List.map_append, List.map_cons] at hnodup hsame
  rw [herase]
  refine ⟨live', slots, flight.val + referencesIn (before ++ after), hperm, hlookup, ?_, { h with
    live_eq := hlive
    keys_eq := ?_
    keys_nodup := ?_
    flight_eq := ?_
    bag_eq := rfl
    lent := ?_ }⟩
  · rw [h.bag_eq]
    simp only [referencesIn_append, referencesIn_cons]
    abel
  · rw [← Multiset.cons_inj_right list.address, ← hkeys, ← hsame, List.map_append,
      Multiset.cons_coe, Multiset.coe_eq_coe]
    exact hperm'.symm
  · rw [List.map_append]
    exact (List.nodup_cons.1 (hperm'.nodup_iff.1 hnodup)).2
  · rw [h.flight_eq, Custody.addresses_remove_of_not list.any hheld (by simp)]
  -- A view that was on loan from this list is on loan no more, so the list is another one.
  · rintro ⟨operation, ⟨b⟩, view⟩ hloan
    obtain ⟨slots', hmem, hslot⟩ := h.lent_remove _ hloan
    have hne : b ≠ list.address := by
      rintro rfl
      simpa using (List.mem_filter.1 hloan).2
    refine ⟨slots', ?_, hslot⟩
    simpa [hne] using hmem

/-- Slots are put behind those of a list, together with the references in them. -/
lemma extend (h : Accounts c known flight live lists made bag) (ha : a ∈ lists.map Prod.fst)
    (more : List MemorySlot) :
    Accounts c known flight live (updateAt a (· ++ more) lists) made
      (↑(viewAddresses more) + bag) :=
  { h with
    keys_eq := by rw [map_fst_updateAt, h.keys_eq]
    keys_nodup := by
      rw [map_fst_updateAt]
      exact h.keys_nodup
    bag_eq := by
      rw [referencesIn_updateAt h.keys_nodup ha, h.bag_eq]
      abel
    lent := by
      intro loan hloan
      obtain ⟨slots, hmem, hslot⟩ := h.lent loan hloan
      obtain ⟨slots', hmem', hsub⟩ := exists_mem_updateAt hmem
      exact ⟨slots', hmem', hsub _ hslot⟩ }

/-- A view in a list is lent. -/
lemma lend (h : Accounts c known flight live lists made bag) {list : Handle .list}
    {view : Handle .view} {slots : List MemorySlot} (hlist : (list.address, slots) ∈ lists)
    (hslot : .view view.address ∈ slots) :
    Accounts (c.lend stamp list view) known flight live lists made bag :=
  { h with lent := List.forall_mem_cons.2 ⟨⟨slots, hlist, hslot⟩, h.lent⟩ }

/-! ### Views -/

/-- A view is made. -/
lemma make (h : Accounts c known flight live lists made bag) (hnew : w ∉ made.map Prod.fst)
    (hshort : content.data.length < addressSpace) :
    Accounts c known flight live lists ((w, content) :: made) bag :=
  { h with
    made_nodup := List.nodup_cons.2 ⟨hnew, h.made_nodup⟩
    reported := by
      intro r hr
      obtain ⟨content', hlookup, hlength⟩ := h.reported r hr
      exact ⟨content', lookup_cons_of_new hnew hlookup, hlength⟩
    short := List.forall_mem_cons.2 ⟨hshort, h.short⟩ }

/-- A view is handed out. -/
lemma holdView (h : Accounts c known flight live lists made bag) {view : Handle .view}
    (hnew : view.address ∉ bag) :
    Accounts (c.add stamp view.any) known (insert view.address flight) live lists made
      (view.address ::ₘ bag) := by
  have hviews : (c.add stamp view.any).addresses (· = .view) =
      view.address ::ₘ c.addresses (· = .view) := Custody.addresses_add view.any rfl
  have hflight : (insert view.address flight).val = view.address ::ₘ flight.val := by
    refine Finset.insert_val_of_notMem fun hmem => hnew ?_
    rw [h.bag_eq]
    exact Multiset.mem_add.2 (.inl hmem)
  exact { h with
    live_eq := by rw [Custody.addresses_add_of_not view.any (by simp), h.live_eq]
    keys_eq := by rw [Custody.addresses_add_of_not view.any (by simp), h.keys_eq]
    flight_eq := by rw [hflight, hviews, h.flight_eq]
    bag_eq := by rw [hflight, Multiset.cons_add, h.bag_eq] }

/-- A view is given away, and the reference goes. -/
lemma letViewGo (h : Accounts c known flight live lists made bag) {view : Handle .view}
    (hheld : (stamp.holder .view, view.any) ∈ c.held) :
    ∃ bag', bag = view.address ::ₘ bag' ∧
      Accounts (c.remove stamp view.any) known (flight.erase view.address) live lists made
        bag' := by
  have hviews : c.addresses (· = .view) =
      view.address ::ₘ (c.remove stamp view.any).addresses (· = .view) :=
    Custody.addresses_remove view.any hheld rfl
  have hflight : flight.val = view.address ::ₘ (flight.erase view.address).val := by
    rw [Finset.erase_val, h.flight_eq, hviews, Multiset.erase_cons_head]
  refine ⟨(flight.erase view.address).val + referencesIn lists, ?_, { h with
    live_eq := by rw [h.live_eq, Custody.addresses_remove_of_not view.any hheld (by simp)]
    keys_eq := by rw [h.keys_eq, Custody.addresses_remove_of_not view.any hheld (by simp)]
    flight_eq := by rw [Finset.erase_val, h.flight_eq, hviews, Multiset.erase_cons_head]
    bag_eq := rfl
    lent := h.lent_remove }⟩
  rw [h.bag_eq, hflight, Multiset.cons_add]

/-- To a view in a slot there is a reference. -/
lemma mem_bag_of_slot (h : Accounts c known flight live lists made bag) {slots : List MemorySlot}
    (hlist : (a, slots) ∈ lists) (hslot : .view w ∈ slots) : w ∈ bag := by
  have hslots : MemorySlot.view w ∈ lists.flatMap Prod.snd := List.mem_flatMap.2 ⟨_, hlist, hslot⟩
  rw [h.bag_eq]
  exact Multiset.mem_add.2 (.inr (List.mem_filterMap.2 ⟨_, hslots, rfl⟩))

/-- The length of a view is reported. -/
lemma report (h : Accounts c known flight live lists made bag) {view : Handle .view}
    (hmade : made.lookup view.address = some content) :
    Accounts c ((view, UInt64.ofNat content.data.length) :: known) flight live lists made bag :=
  { h with reported := List.forall_mem_cons.2 ⟨⟨content, hmade, rfl⟩, h.reported⟩ }

/-- A length that was reported is the length of the view. -/
lemma length_eq (h : Accounts c known flight live lists made bag) {view : Handle .view}
    {length : UInt64} (hknown : (view, length) ∈ known) :
    ∃ content : Content, made.lookup view.address = some content ∧
      content.data.length = length.toNat := by
  obtain ⟨content, hmade, hlength⟩ := h.reported _ hknown
  refine ⟨content, hmade, ?_⟩
  have hshort : content.data.length < addressSpace := h.short _ (mem_of_lookup hmade)
  rw [show length = UInt64.ofNat content.data.length from hlength]
  exact (UInt64.toNat_ofNat_of_lt' hshort).symm

end Accounts

end Memory

end TensorBridge
