import Mathlib
import TensorBridge.Proofs.Memory.Backing

/-!
# Between two calls

What is true of the runtime in memory at any moment at which nothing is being called, also in the
midst of an operation of a session.  `Moment.Sound` says that no rule of the runtime has been broken
so far, that every view that is referred to is there, and that the references to a view are counted
right: there are as many as there are slots of lists with the view, and one more while it is in
flight, from its upload to its push.

`Program.moments` are the moments of a run, and `Memory.run_sound` is the result: they are all
sound, as long as the program keeps its handles in custody and knows the lengths of its views.
-/

namespace TensorBridge

namespace Memory

/-- The number of slots, in all lists, with a view. -/
def slotsWith (m : Memory) (v : Nat) : Nat := (m.lists.flatMap Prod.snd).count (.view v)

/-- A moment between two calls. -/
structure Moment where
  /-- The runtime. -/
  memory : Memory
  /-- The views that have been uploaded and not been pushed. -/
  flight : Finset Nat

namespace Moment

/-- The moment after a call. -/
def next (t : Moment) (op : BackendOp) : Moment where
  memory := (handle op t.memory).2
  flight := op.flight (handle op t.memory).1 t.flight

/-- The books of the runtime are in order. -/
structure Sound (t : Moment) : Prop where
  /-- No rule has been broken. -/
  intact : t.memory.defect? = none
  /-- The references to a view are those in slots, and one more while it is in flight. -/
  references_eq : ∀ entry ∈ t.memory.views, entry.2.references =
    t.memory.slotsWith entry.1 + if entry.1 ∈ t.flight then 1 else 0
  /-- A view without references is gone. -/
  references_pos : ∀ entry ∈ t.memory.views, 0 < entry.2.references
  /-- A view in a slot is there. -/
  slot_mem : ∀ v, 0 < t.memory.slotsWith v → v ∈ t.memory.views.map Prod.fst
  /-- A view in flight is there. -/
  flight_mem : ∀ v ∈ t.flight, v ∈ t.memory.views.map Prod.fst
  views_nodup : (t.memory.views.map Prod.fst).Nodup
  lists_nodup : (t.memory.lists.map Prod.fst).Nodup

/-- All moments are sound, and at the last one nothing is in flight and the runtime is in a given
state. -/
def SoundTo (moments : List Moment) (m : Memory) : Prop :=
  (∀ t ∈ moments, t.Sound) ∧ moments.getLast? = some ⟨m, ∅⟩

/-- The watch over moments: every call is made at a sound one. -/
def watch : Watch Backend Moment where
  Allows t _ := t.Sound
  Expects t op reply := reply = (handle op t.memory).1
  after t op _ := t.next op

end Moment

end Memory

/-- The moments of a run: before every call, and the one that is left at the end. -/
def Program.moments {α : Type} : Program Backend α → Memory.Moment → List Memory.Moment
  | done _, t => [t]
  | call op next, t => t :: (next (Memory.handle op t.memory).1).moments (t.next op)
  | note _ next, t => next.moments t

namespace Memory

/-- What a program keeps holds of the moment at the end of its run, and all moments are sound. -/
lemma keeps_moments {α : Type} {p : Program Backend α} {t : Moment} {Q : α → Moment → Prop}
    (h : p.Keeps Moment.watch t Q) (hsound : ∀ a t', Q a t' → t'.Sound) :
    (∀ t' ∈ p.moments t, t'.Sound) ∧
      ∃ flight, (p.moments t).getLast? = some ⟨(p.run handle t.memory).state, flight⟩ ∧
        Q (p.run handle t.memory).value ⟨(p.run handle t.memory).state, flight⟩ := by
  induction p generalizing t with
  | done a =>
    refine ⟨fun t' ht' => ?_, t.flight, rfl, h⟩
    obtain rfl := List.mem_singleton.1 ht'
    exact hsound a _ h
  | call op next ih =>
    have hnext : (next (handle op t.memory).1).Keeps Moment.watch (t.next op) Q := h.2 _ rfl
    obtain ⟨hall, flight, hlast, hQ⟩ := ih _ hnext
    refine ⟨List.forall_mem_cons.2 ⟨h.1, hall⟩, flight, ?_, hQ⟩
    rw [Program.moments, List.getLast?_cons, hlast]
    rfl
  | note n next ih => exact ih h

/-! ## What is backed is sound -/

lemma count_viewAddresses (slots : List MemorySlot) (v : Nat) :
    (viewAddresses slots).count v = slots.count (.view v) := by
  induction slots with
  | nil => rfl
  | cons slot rest ih =>
    rw [← List.singleton_append, viewAddresses_append, List.count_append, List.count_append, ih]
    cases slot with
    | view w => simp [viewAddresses, List.count_cons]
    | opaqueValue => simp

lemma mem_viewTable {made : List (Nat × Content)} {bag : Multiset Nat} {entry : Nat × MemoryView}
    (h : entry ∈ viewTable made bag) : entry.1 ∈ bag ∧ entry.2.references = bag.count entry.1 := by
  obtain ⟨v, hv, rfl⟩ := List.mem_map.1 h
  exact ⟨by simpa using List.of_mem_filter hv, rfl⟩

lemma mem_keys_viewTable {made : List (Nat × Content)} {bag : Multiset Nat} {v : Nat}
    (hmade : v ∈ made.map Prod.fst) (hv : v ∈ bag) : v ∈ (viewTable made bag).map Prod.fst := by
  obtain ⟨w, hw, rfl⟩ := List.mem_map.1 hmade
  refine List.mem_map.2 ⟨_, List.mem_map.2 ⟨w, List.mem_filter.2 ⟨hw, ?_⟩, rfl⟩, rfl⟩
  simpa using hv

lemma nodup_keys_viewTable {made : List (Nat × Content)} {bag : Multiset Nat}
    (hmade : (made.map Prod.fst).Nodup) : ((viewTable made bag).map Prod.fst).Nodup := by
  rw [viewTable, List.map_map]
  exact hmade.sublist (List.filter_sublist.map Prod.fst)

/-- **What is backed is sound.** -/
theorem Backed.sound {s : Setting} {books : Custody × Lengths} {t : Moment}
    (h : Backed s books t.flight t.memory) : t.Sound := by
  obtain ⟨live, lists, made, bag, h, hm⟩ := h
  have hcount (v : Nat) :
      bag.count v = t.memory.slotsWith v + if v ∈ t.flight then 1 else 0 := by
    rw [h.bag_eq, Multiset.count_add, Multiset.count_eq_of_nodup t.flight.nodup, add_comm,
      referencesIn, Multiset.coe_count, count_viewAddresses, slotsWith, hm.lists_eq]
    rfl
  have hthere {v : Nat} (hv : v ∈ bag) : v ∈ t.memory.views.map Prod.fst := by
    rw [hm.views_eq]
    exact mem_keys_viewTable (hm.referred v hv) hv
  constructor
  case intact => exact hm.intact
  case references_eq =>
    intro entry hentry
    rw [hm.views_eq] at hentry
    rw [(mem_viewTable hentry).2, hcount]
  case references_pos =>
    intro entry hentry
    rw [hm.views_eq] at hentry
    rw [(mem_viewTable hentry).2]
    exact Multiset.count_pos.2 (mem_viewTable hentry).1
  case slot_mem =>
    intro v hv
    refine hthere (Multiset.count_pos.1 ?_)
    rw [hcount]
    omega
  case flight_mem =>
    intro v hv
    refine hthere (Multiset.count_pos.1 ?_)
    rw [hcount, if_pos hv]
    omega
  case views_nodup =>
    rw [hm.views_eq]
    exact nodup_keys_viewTable h.made_nodup
  case lists_nodup =>
    rw [hm.lists_eq]
    exact h.keys_nodup

/-! ## Runs -/

/-- What the sessions hold: nothing else is live, and there are no lists and no views. -/
def Owned (s : Setting) (sessions : List Session) (m : Memory) : Prop :=
  Holds s (sessions.flatMap addresses) [] [] 0 m

/-- What is in custody for sessions.  All of them go by one number. -/
def custodyFor (sessions : List Session) : Multiset (Holder × AnyHandle) :=
  (sessions.map (Session.custody 0)).sum

@[simp] lemma custodyFor_cons (session : Session) (sessions : List Session) :
    custodyFor (session :: sessions) = session.custody 0 + custodyFor sessions := rfl

/-- The sessions hold no lists and no views. -/
lemma addresses_custodyFor {c : Custody} {sessions : List Session}
    (h : c.held = custodyFor sessions) :
    c.addresses (· ≠ .view) = ↑(sessions.flatMap addresses) ∧ c.addresses (· = .list) = 0 ∧
      c.addresses (· = .view) = 0 := by
  unfold Custody.addresses
  rw [h]
  clear h
  induction sessions with
  | nil => exact ⟨rfl, rfl, rfl⟩
  | cons session rest ih =>
    obtain ⟨hall, hlists, hviews⟩ := ih
    refine ⟨?_, ?_, ?_⟩
    · rw [custodyFor_cons, Multiset.filter_add, Multiset.map_add, hall, List.flatMap_cons,
        ← Multiset.coe_add]
      rfl
    · rw [custodyFor_cons, Multiset.filter_add, Multiset.map_add, hlists, add_zero]
      rfl
    · rw [custodyFor_cons, Multiset.filter_add, Multiset.map_add, hviews, add_zero]
      rfl

lemma Owned.backed {s : Setting} {sessions : List Session} {m : Memory} (h : Owned s sessions m) :
    Backed s (⟨custodyFor sessions, []⟩, []) ∅ m := by
  obtain ⟨hall, hlists, hviews⟩ :=
    addresses_custodyFor (c := ⟨custodyFor sessions, []⟩) rfl
  refine ⟨_, [], [], 0, ?_, h⟩
  exact ⟨hall.symm, hlists.symm, .nil, .nil, hviews.symm, rfl, by simp, by simp, by simp⟩

lemma Backed.owned {s : Setting} {books : Custody × Lengths} {flight : Finset Nat}
    {sessions : List Session} {m : Memory} (h : Backed s books flight m)
    (hheld : books.1.held = custodyFor sessions) : flight = ∅ ∧ Owned s sessions m := by
  obtain ⟨live, lists, made, bag, h, hm⟩ := h
  obtain ⟨hall, hlists, hviews⟩ := addresses_custodyFor hheld
  have hperm : live.Perm (sessions.flatMap addresses) := by
    rw [← Multiset.coe_eq_coe, h.live_eq, hall]
  obtain rfl : lists = [] := by
    have hkeys := h.keys_eq
    rw [hlists, Multiset.coe_eq_zero, List.map_eq_nil_iff] at hkeys
    exact hkeys
  have hflight : flight.val = 0 := h.flight_eq.trans hviews
  obtain rfl : bag = 0 := by rw [h.bag_eq, hflight, referencesIn_nil, add_zero]
  exact ⟨Finset.val_eq_zero.1 hflight, (hm.perm hperm).forget⟩

/-- **Programs that keep to the rules** have sound moments only.  If they start with the handles of
some sessions in custody and end with those of others, then nothing is in flight in the end and the
runtime holds what those hold. -/
theorem run_sound {α : Type} {p : Program Backend α} {before : List Session} {P : α → Prop}
    {after : α → List Session}
    (hcustody : p.Keeps (Custody.watch ⟨0, 0⟩) ⟨custodyFor before, []⟩ fun a c =>
      P a ∧ c.held = custodyFor (after a))
    (hlengths : p.Obeys Lengths.watch) {s : Setting} {m : Memory} (h : Owned s before m) :
    Moment.SoundTo (p.moments ⟨m, ∅⟩) (p.run handle m).state ∧ P (p.run handle m).value ∧
      Owned s (after (p.run handle m).value) (p.run handle m).state := by
  have hstep (op : BackendOp) (books : Custody × Lengths) (t : Moment)
      (hbacked : Backed s books t.flight t.memory) (hallows : (rules ⟨0, 0⟩).Allows books op) :
      Moment.watch.Allows t op ∧ ∀ r, Moment.watch.Expects t op r →
        (rules ⟨0, 0⟩).Expects books op r ∧
          Backed s ((rules ⟨0, 0⟩).after books op r) (t.next op).flight (t.next op).memory := by
    refine ⟨hbacked.sound, ?_⟩
    rintro r rfl
    exact ⟨⟨trivial, trivial⟩, Program.keeps_perform_ofHandler.1 (hbacked.perform hallows)⟩
  have hstart : Backed s (⟨custodyFor before, []⟩, []) (⟨m, ∅⟩ : Moment).flight
    (⟨m, ∅⟩ : Moment).memory := h.backed
  have hkeeps := (hcustody.both (hlengths [])).follow hstep hstart
  obtain ⟨hall, flight, hlast, books, hbacked, ⟨hP, hheld⟩, -⟩ :=
    keeps_moments hkeeps fun _ _ ⟨_, hbacked, _⟩ => hbacked.sound
  obtain ⟨rfl, howned⟩ := hbacked.owned hheld
  exact ⟨⟨hall, hlast⟩, hP, howned⟩

end Memory

end TensorBridge
