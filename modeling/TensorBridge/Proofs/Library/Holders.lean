import Mathlib
import TensorBridge.Library.Desk
import TensorBridge.Proofs.Library.Shelf
import TensorBridge.Proofs.NameTable

/-!
# Who holds the libraries

A library is held by the process, by those who keep it under a name, and by the sessions on it.  The
references are counted as they come and go; `Desk.Fits` says that the count is right, and that the
libraries that are open are just those that are held, and a few that are in the hands of the step
that is under way.  There is one fact for everything that a desk does; it tells what the desk is
afterwards, and that what is open and counted fits it.

* `Desk.Fits.references_eq`: there is a reference for each library that is kept, and there are four
  for each session.
* `Desk.closeUnheld_keeps` and `Desk.letGo_keeps`: a library is closed when its last holder goes.
-/

namespace TensorBridge

/-- The numbers that the values of a table have. -/
def NameTable.tags {α : Type} (table : NameTable α) (tag : α → Nat) : Finset Nat :=
  (table.values.map tag).toFinset

/-- The numbers that the values of a table have, each as often as it occurs. -/
def NameTable.tally {α : Type} (table : NameTable α) (tag : α → Nat) : Multiset Nat :=
  table.values.map tag

namespace NameTable

variable {α : Type} {table : NameTable α} {tag : α → Nat} {name : String} {a : α}

lemma count_tally (id : Nat) : (table.tally tag).count id = table.values.countP (tag · == id) := by
  rw [tally, Multiset.coe_count, List.count, List.countP_map]
  rfl

lemma tally_insert (h : table.Ordered) :
    (table.insert name a).tally tag = {tag a} + (table.erase name).tally tag :=
  Multiset.coe_eq_coe.2 (h.values_insert_perm.map tag)

lemma tally_eq (h : table.Ordered) (name : String) : table.tally tag =
    ((table.get? name).elim 0 fun a => {tag a}) + (table.erase name).tally tag := by
  cases ha : table.get? name with
  | none => simp [erase_of_get?_eq_none ha]
  | some a => exact Multiset.coe_eq_coe.2 ((h.values_perm ha).map tag)

lemma nsmul_tally_eq (h : table.Ordered) (name : String) (n : Nat) : n • table.tally tag =
    ((table.get? name).elim 0 fun a => Multiset.replicate n (tag a)) +
      n • (table.erase name).tally tag := by
  rw [tally_eq h name, nsmul_add]
  cases table.get? name with
  | none => simp
  | some a => simp [Multiset.nsmul_singleton]

end NameTable

namespace Desk

/-! ## Programs of a process -/

section Rules

variable {α β σ : Type} {W : Watch Host σ} {d : Desk} {s : σ}

/-- From a desk and the books `s` on, the program calls only what is allowed and comes to a value, a
desk and books with `Q`. -/
def Keeps (W : Watch Host σ) (p : DeskM α) (d : Desk) (s : σ) (Q : α → Desk → σ → Prop) : Prop :=
  (p d).Keeps W s fun r s' => Q r.1 r.2 s'

@[simp] lemma keeps_pure {a : α} {Q : α → Desk → σ → Prop} :
    Keeps W (pure a) d s Q ↔ Q a d s := Iff.rfl

@[simp] lemma keeps_bind {p : DeskM α} {f : α → DeskM β} {Q : β → Desk → σ → Prop} :
    Keeps W (p >>= f) d s Q ↔ Keeps W p d s fun a d' s' => Keeps W (f a) d' s' Q :=
  Program.keeps_bind

@[simp] lemma keeps_get {Q : Desk → Desk → σ → Prop} : Keeps W get d s Q ↔ Q d d s := Iff.rfl

@[simp] lemma keeps_modify {f : Desk → Desk} {Q : Unit → Desk → σ → Prop} :
    Keeps W (modify f) d s Q ↔ Q () (f d) s := Iff.rfl

@[simp] lemma keeps_onHost {p : Program Host α} {Q : α → Desk → σ → Prop} :
    Keeps W (onHost p) d s Q ↔ p.Keeps W s fun a s' => Q a d s' :=
  Program.keeps_bind

lemma Keeps.mono {p : DeskM α} {Q R : α → Desk → σ → Prop} (h : Keeps W p d s Q)
    (hQR : ∀ a d' s', Q a d' s' → R a d' s') : Keeps W p d s R :=
  Program.Keeps.mono h fun r s' hr => hQR r.1 r.2 s' hr

end Rules

section Apply

variable {α β : Type} {d : Desk}

lemma bind_apply (p : DeskM α) (f : α → DeskM β) : (p >>= f) d = p d >>= fun r => f r.1 r.2 := rfl

lemma pure_apply (a : α) : (pure a : DeskM α) d = .done (a, d) := rfl

lemma get_apply : (get : DeskM Desk) d = .done (d, d) := rfl

lemma modify_apply (f : Desk → Desk) : (modify f : DeskM Unit) d = .done ((), f d) := rfl

lemma onHost_apply (p : Program Host α) : onHost p d = p >>= fun a => .done (a, d) := rfl

end Apply

/-! ## What is held -/

/-- How many references to a library are kept. -/
def keptOn (d : Desk) (id : Nat) : Nat := d.kept.values.countP (·.id == id)

/-- How many sessions there are on a library. -/
def sessionsOn (d : Desk) (id : Nat) : Nat := d.sessions.values.countP (·.library.id == id)

/-- The libraries that are held. -/
def held (d : Desk) : Finset Nat :=
  (d.shared.toList.map (·.id)).toFinset ∪ d.kept.tags (·.id) ∪ d.sessions.tags (·.library.id)

/-- The library for general use, and those to which there are references. -/
def owned (d : Desk) : Finset Nat := (d.shared.toList.map (·.id)).toFinset ∪ d.holders.toFinset

/-- The references that are counted are those that are kept, four for each session, and `spare`,
which are in hand.  The libraries that are open are those with a reference, that for general use,
and `loose`, which is in hand without a reference. -/
structure Fits (d : Desk) (loose : Finset Nat) (spare : Multiset Nat) (s : Shelf) : Prop where
  /-- The libraries that are open. -/
  holds : s.Holds (loose ∪ d.owned) d.nextLibrary
  /-- The references that are counted. -/
  counted : (d.holders : Multiset Nat) =
    d.kept.tally (·.id) + 4 • d.sessions.tally (·.library.id) + spare
  /-- The references are in order. -/
  kept : d.kept.Ordered
  /-- The sessions are in order. -/
  sessions : d.sessions.Ordered

lemma holds_iff {d : Desk} {library : Library} :
    d.holds library = true ↔ library.id ∈ d.owned := by
  rw [holds, Bool.or_eq_true, decide_eq_true_iff, references, List.count_pos_iff, owned]
  cases d.shared with
  | none => simp
  | some shared => simp [eq_comm (a := shared.id)]

variable {files : Files} {leave : Leave} {d : Desk} {s : Shelf} {loose : Finset Nat}
  {spare : Multiset Nat} {library : Library} {name : String}

lemma Fits.start (environment : Environment) : Fits { environment := environment } ∅ 0 {} where
  holds := ⟨by simp [owned], by simp, by simp⟩
  counted := rfl
  kept := NameTable.ordered_empty
  sessions := NameTable.ordered_empty

/-- The environment is no part of what is held. -/
lemma Fits.with_environment (h : Fits d loose spare s) (environment : Environment) :
    Fits { d with environment := environment } loose spare s :=
  ⟨h.holds, h.counted, h.kept, h.sessions⟩

/-- **How often a library is held** while nothing is in hand. -/
theorem Fits.references_eq (h : Fits d loose 0 s) (library : Library) :
    d.references library = d.keptOn library.id + 4 * d.sessionsOn library.id := by
  calc d.references library
      = (d.holders : Multiset Nat).count library.id := (Multiset.coe_count _ _).symm
    _ = (d.kept.tally (·.id)).count library.id +
        4 * (d.sessions.tally (·.library.id)).count library.id := by
      rw [h.counted, add_zero, Multiset.count_add, Multiset.count_nsmul]
    _ = d.keptOn library.id + 4 * d.sessionsOn library.id := by
      rw [NameTable.count_tally, NameTable.count_tally, keptOn, sessionsOn]

/-- While nothing is in hand, just the libraries that are kept and those of sessions have
references. -/
lemma Fits.held_eq (h : Fits d loose 0 s) : d.held = d.owned := by
  have hholders : d.holders.toFinset = d.kept.tags (·.id) ∪ d.sessions.tags (·.library.id) := by
    calc d.holders.toFinset
        = (d.holders : Multiset Nat).toFinset := rfl
      _ = (d.kept.tally (·.id)).toFinset ∪ (d.sessions.tally (·.library.id)).toFinset := by
        rw [h.counted, add_zero, Multiset.toFinset_add, Multiset.toFinset_nsmul _ _ four_ne_zero]
      _ = d.kept.tags (·.id) ∪ d.sessions.tags (·.library.id) := rfl
  rw [held, owned, hholders, Finset.union_assoc]

/-- It makes no difference whether a library that is held is also in hand. -/
lemma fits_singleton {id : Nat} (hid : id ∈ d.owned) :
    Fits d {id} spare s ↔ Fits d ∅ spare s := by
  have hsame : {id} ∪ d.owned = ∅ ∪ d.owned := by
    rw [Finset.singleton_union, Finset.insert_eq_of_mem hid, Finset.empty_union]
  exact ⟨fun h => { h with holds := hsame ▸ h.holds }, fun h => { h with holds := hsame ▸ h.holds }⟩

/-- What is in hand is open. -/
lemma Fits.mem_now (h : Fits d loose spare s) {id : Nat} (hid : id ∈ loose ∪ d.owned) :
    id ∈ s.now := by
  rw [h.holds.now_eq]
  exact hid

/-- What is kept, has a session or has a reference in hand is held. -/
lemma Fits.mem_owned_of_counted (h : Fits d loose spare s) {id : Nat}
    (hid : id ∈ d.kept.tally (·.id) + 4 • d.sessions.tally (·.library.id) + spare) :
    id ∈ d.owned := by
  have hholders : id ∈ (d.holders : Multiset Nat) := by rwa [h.counted]
  exact Finset.mem_union_right _ (List.mem_toFinset.2 hholders)

/-- What has a reference in hand is held. -/
lemma Fits.mem_owned (h : Fits d loose spare s) {id : Nat} (hid : id ∈ spare) : id ∈ d.owned :=
  h.mem_owned_of_counted (Multiset.mem_add.2 (.inr hid))

/-- **A library in hand is closed** when nothing holds it. -/
lemma closeUnheld_keeps (h : Fits d {library.id} spare s) {Q : Unit → Desk → Shelf → Prop}
    (hQ : ∀ s', Fits d ∅ spare s' → Q () d s') :
    Keeps (Host.watch files leave) (closeUnheld library) d s Q := by
  simp only [closeUnheld, keeps_bind, keeps_get]
  cases hholds : d.holds library with
  -- It stays open for those who hold it.
  | true =>
    exact hQ s ((fits_singleton (holds_iff.1 hholds)).1 h)
  | false =>
    have hid : library.id ∉ d.owned := fun hmem => by simp [holds_iff.2 hmem] at hholds
    simp only [Bool.false_eq_true, if_false, keeps_bind, keeps_onHost, Program.keeps_notify]
    refine Library.closeLibrary_keeps (h.mem_now (by simp)) (hQ _ { h with holds := ?_ })
    have hclosed := h.holds.closed library.id
    rwa [Finset.singleton_union, Finset.erase_insert hid, ← Finset.empty_union d.owned] at hclosed

/-! ## References -/

/-- A reference is taken to a library that is in hand. -/
lemma Fits.hold (h : Fits d {library.id} spare s) :
    Fits { d with holders := library.id :: d.holders } ∅ (library.id ::ₘ spare) s where
  holds := by
    have hsame : {library.id} ∪ d.owned =
        ∅ ∪ owned { d with holders := library.id :: d.holders } := by
      simp [owned]
    exact hsame ▸ h.holds
  counted := by
    show library.id ::ₘ (d.holders : Multiset Nat) = _
    rw [h.counted, Multiset.add_cons]
  kept := h.kept
  sessions := h.sessions

/-- A reference is taken to a library that is held. -/
lemma Fits.hold_held (h : Fits d ∅ spare s) (hid : library.id ∈ d.owned) :
    Fits { d with holders := library.id :: d.holders } ∅ (library.id ::ₘ spare) s :=
  ((fits_singleton hid).2 h).hold

/-- A reference in hand is given back. -/
lemma Fits.drop (h : Fits d ∅ (library.id ::ₘ spare) s) :
    Fits { d with holders := d.holders.erase library.id } {library.id} spare s where
  holds := by
    have hmem : library.id ∈ (d.holders : Multiset Nat) := by
      rw [h.counted]
      simp
    have hholders : d.holders.toFinset =
        insert library.id (d.holders.erase library.id).toFinset := by
      rw [List.toFinset_eq_of_perm _ _ (List.perm_cons_erase hmem), List.toFinset_cons]
    have hsame : ∅ ∪ d.owned =
        {library.id} ∪ owned { d with holders := d.holders.erase library.id } := by
      simp [owned, hholders]
    exact hsame ▸ h.holds
  counted := by
    show (d.holders : Multiset Nat).erase library.id = _
    rw [h.counted, Multiset.add_cons, Multiset.erase_cons_head]
  kept := h.kept
  sessions := h.sessions

/-- **Dropping a reference** closes the library if it was the last one. -/
lemma letGo_keeps (h : Fits d ∅ (library.id ::ₘ spare) s) {Q : Unit → Desk → Shelf → Prop}
    (hQ : ∀ s', Fits { d with holders := d.holders.erase library.id } ∅ spare s' →
      Q () { d with holders := d.holders.erase library.id } s') :
    Keeps (Host.watch files leave) (letGo library) d s Q := by
  simp only [letGo, keeps_bind, keeps_modify]
  exact closeUnheld_keeps h.drop hQ

lemma Fits.put_kept (h : Fits d ∅ {library.id} s) (name : String) :
    Fits { d with kept := d.kept.insert name library } ∅
      ((d.kept.get? name).elim 0 fun old => {old.id}) s where
  holds := h.holds
  counted := by
    have hcounted := h.counted
    rw [NameTable.tally_eq h.kept name] at hcounted
    rw [NameTable.tally_insert h.kept]
    exact hcounted.trans (by abel)
  kept := h.kept.insert
  sessions := h.sessions

lemma Fits.drop_kept (h : Fits d ∅ 0 s) (name : String) :
    Fits { d with kept := d.kept.erase name } ∅
      ((d.kept.get? name).elim 0 fun old => {old.id}) s where
  holds := h.holds
  counted := by
    have hcounted := h.counted
    rw [NameTable.tally_eq h.kept name] at hcounted
    exact hcounted.trans (by abel)
  kept := h.kept.erase
  sessions := h.sessions

lemma keep_keeps (h : Fits d {library.id} 0 s) (name : Option String) :
    Keeps (Host.watch files leave) (keep name library) d s fun _ d' s' =>
      Fits d' ∅ 0 s' ∧ d'.shared = d.shared := by
  simp only [keep, Desk.hold, keeps_bind, keeps_modify]
  cases name with
  | none => exact letGo_keeps h.hold fun s' h' => ⟨h', rfl⟩
  | some name =>
    simp only [keeps_bind, keeps_get, keeps_modify]
    have hput := h.hold.put_kept name
    cases hold : d.kept.get? name with
    | none =>
      rw [hold] at hput
      exact ⟨hput, rfl⟩
    | some old =>
      rw [hold] at hput
      exact letGo_keeps hput fun s' h' => ⟨h', rfl⟩

lemma dropKept_keeps (h : Fits d ∅ 0 s) (name : String) :
    Keeps (Host.watch files leave) (dropKept name) d s fun _ d' s' =>
      Fits d' ∅ 0 s' ∧ d'.shared = d.shared := by
  simp only [dropKept, keeps_bind, keeps_get]
  have hdrop := h.drop_kept name
  cases hold : d.kept.get? name with
  | none => exact ⟨h, rfl⟩
  | some library =>
    rw [hold] at hdrop
    simp only [keeps_bind, keeps_modify, keeps_pure]
    exact letGo_keeps hdrop fun s' h' => ⟨h', rfl⟩

/-! ## Opening -/

/-- What comes of asking for the library for general use, with a search in case there is none. -/
def obtained (files : Files) (d : Desk) (search : LibrarySearch) : Except BridgeError Library :=
  match d.shared with
  | some library => .ok library
  | none => Library.discoverIn files d.nextLibrary search

/-- What is in hand after an attempt to get a library. -/
def inHand : Except BridgeError Library → Finset Nat
  | .ok library => {library.id}
  | .error _ => ∅

lemma Fits.advance (h : Fits d loose spare s) {loose' : Finset Nat} {n : Nat} {s' : Shelf}
    (hholds : s'.Holds (loose' ∪ d.owned) n) :
    Fits { d with nextLibrary := n } loose' spare s' :=
  ⟨hholds, h.counted, h.kept, h.sessions⟩

lemma attach_keeps (hopens : leave.opens) (h : Fits d ∅ 0 s) (path : String) :
    Keeps (Host.watch files leave) (attach path) d s fun r d' s' =>
      Fits d' (inHand r) 0 s' ∧ d'.shared = d.shared := by
  have hholds := h.holds
  rw [Finset.empty_union] at hholds
  simp only [attach, keeps_bind, keeps_get, keeps_modify, keeps_onHost]
  refine Program.Keeps.mono (Library.attach_meets hopens hholds path) fun r s' hr => ⟨?_, trivial⟩
  cases r with
  | ok library => exact h.advance hr.2
  | error e => exact h.advance (by rw [inHand, Finset.empty_union]; exact hr.2)

lemma discover_keeps (hopens : leave.opens) (h : Fits d ∅ 0 s) (search : LibrarySearch) :
    Keeps (Host.watch files leave) (discover search) d s fun r d' s' =>
      r = Library.discoverIn files d.nextLibrary search ∧ Fits d' (inHand r) 0 s' ∧
        d' = { d with nextLibrary := d.nextLibrary + search.paths.length } := by
  have hholds := h.holds
  rw [Finset.empty_union] at hholds
  simp only [discover, keeps_bind, keeps_get, keeps_modify, keeps_onHost]
  refine Program.Keeps.mono (Library.discover_meets hopens hholds search) fun r s' hr => ?_
  cases r with
  | ok library => exact ⟨hr.1.symm, h.advance hr.2, trivial⟩
  | error e =>
    exact ⟨hr.1.symm, h.advance (by rw [inHand, Finset.empty_union]; exact hr.2), trivial⟩

/-- A library in hand is taken for general use. -/
lemma Fits.share (h : Fits d {library.id} spare s) (hnone : d.shared = none) :
    Fits { d with shared := some library } ∅ spare s where
  holds := by
    have hsame : {library.id} ∪ d.owned = ∅ ∪ owned { d with shared := some library } := by
      simp [owned, hnone]
    exact hsame ▸ h.holds
  counted := h.counted
  kept := h.kept
  sessions := h.sessions

/-- The library for general use is given up and is in hand. -/
lemma Fits.unshare (h : Fits d ∅ spare s) (hshared : d.shared = some library) :
    Fits { d with shared := none } {library.id} spare s where
  holds := by
    have hsame : ∅ ∪ d.owned = {library.id} ∪ owned { d with shared := none } := by
      simp [owned, hshared]
    exact hsame ▸ h.holds
  counted := h.counted
  kept := h.kept
  sessions := h.sessions

/-- **Asking for the library for general use.** -/
theorem loadWith_keeps (search : LibrarySearch) (hopens : d.shared = none → leave.opens)
    (h : Fits d ∅ 0 s) :
    Keeps (Host.watch files leave) (loadWith search) d s fun r d' s' =>
      r = d.obtained files search ∧ Fits d' ∅ 0 s' ∧ d'.shared = r.toOption ∧
        d'.sessions = d.sessions := by
  simp only [loadWith, keeps_bind, keeps_get]
  cases hshared : d.shared with
  | some library => exact ⟨by rw [obtained, hshared], h, hshared, rfl⟩
  | none =>
    simp only [keeps_bind]
    refine (discover_keeps (hopens hshared) h search).mono fun r d' s' hr => ?_
    obtain ⟨hdiscover, hfits, rfl⟩ := hr
    have hobtained : r = d.obtained files search := by rw [hdiscover, obtained, hshared]
    cases r with
    | ok library => exact ⟨hobtained, hfits.share hshared, rfl, rfl⟩
    | error e => exact ⟨hobtained, hfits, hshared, rfl⟩

lemma mem_owned_of_shared (h : d.shared = some library) : library.id ∈ d.owned := by
  simp [owned, h]

/-- What was asked for is held, and may also be in hand. -/
lemma Fits.of_shared_eq (h : Fits d ∅ spare s) {r : Except BridgeError Library}
    (hshared : d.shared = r.toOption) : Fits d (inHand r) spare s := by
  cases r with
  | ok library => exact (fits_singleton (mem_owned_of_shared hshared)).2 h
  | error e => exact h

lemma unload_keeps (h : Fits d ∅ 0 s) :
    Keeps (Host.watch files leave) unload d s fun r d' s' =>
      r = d.shared.isSome ∧ d'.shared = none ∧ Fits d' ∅ 0 s' := by
  simp only [unload, keeps_bind, keeps_get]
  cases hshared : d.shared with
  | none => exact ⟨rfl, hshared, h⟩
  | some library =>
    have hfits := h.unshare hshared
    simp only [keeps_bind, keeps_modify, keeps_get]
    split_ifs with hholders
    · rw [keeps_bind, keeps_onHost, Program.keeps_notify, keeps_bind]
      exact closeUnheld_keeps hfits fun s' h' => ⟨rfl, rfl, h'⟩
    · rw [keeps_bind]
      exact closeUnheld_keeps hfits fun s' h' => ⟨rfl, rfl, h'⟩

/-! ## Sessions -/

/-- The desk with the references of one more session on a library. -/
def hosting (d : Desk) (library : Library) : Desk :=
  { d with holders := List.replicate 4 library.id ++ d.holders }

/-- The desk without the references of a session on a library. -/
def ceding (d : Desk) (library : Library) : Desk :=
  { d with holders := (·.erase library.id)^[4] d.holders }

/-- A session takes its references to a library that is held. -/
lemma Fits.hosting (h : Fits d ∅ 0 s) (hid : library.id ∈ d.owned) :
    Fits (d.hosting library) ∅ (Multiset.replicate 4 library.id) s := by
  -- Each of the references is taken to a library that has a holder already.
  have hone := h.hold_held hid
  have htwo := hone.hold_held (hone.mem_owned (Multiset.mem_cons_self _ _))
  have hthree := htwo.hold_held (htwo.mem_owned (Multiset.mem_cons_self _ _))
  exact hthree.hold_held (hthree.mem_owned (Multiset.mem_cons_self _ _))

lemma letGoOfSession_keeps (h : Fits d ∅ (Multiset.replicate 4 library.id) s)
    {Q : Unit → Desk → Shelf → Prop}
    (hQ : ∀ s', Fits (d.ceding library) ∅ 0 s' → Q () (d.ceding library) s') :
    Keeps (Host.watch files leave) (letGoOfSession library) d s Q := by
  simp only [letGoOfSession, keeps_bind]
  -- Only the last of the references can be the last one to the library.
  exact letGo_keeps h fun _ hthree => letGo_keeps hthree fun _ htwo =>
    letGo_keeps htwo fun _ hone => letGo_keeps hone hQ

lemma Fits.put_session {hosted : HostedSession}
    (h : Fits d ∅ (Multiset.replicate 4 hosted.library.id) s) (name : String) :
    Fits { d with sessions := d.sessions.insert name hosted } ∅
      ((d.sessions.get? name).elim 0 fun old => Multiset.replicate 4 old.library.id) s where
  holds := h.holds
  counted := by
    have hcounted := h.counted
    rw [NameTable.nsmul_tally_eq h.sessions name] at hcounted
    rw [NameTable.tally_insert h.sessions, nsmul_add, Multiset.nsmul_singleton]
    exact hcounted.trans (by abel)
  kept := h.kept
  sessions := h.sessions.insert

lemma Fits.drop_session (h : Fits d ∅ 0 s) (name : String) :
    Fits { d with sessions := d.sessions.erase name } ∅
      ((d.sessions.get? name).elim 0 fun old => Multiset.replicate 4 old.library.id) s where
  holds := h.holds
  counted := by
    have hcounted := h.counted
    rw [NameTable.nsmul_tally_eq h.sessions name] at hcounted
    exact hcounted.trans (by abel)
  kept := h.kept
  sessions := h.sessions.erase

lemma mem_owned_of_session {hosted : HostedSession} (h : Fits d loose spare s)
    (hhosted : d.sessions.get? name = some hosted) : hosted.library.id ∈ d.owned := by
  apply h.mem_owned_of_counted
  rw [NameTable.tally_eq h.sessions name, hhosted]
  simp [Multiset.mem_nsmul]

lemma mem_owned_of_kept (h : Fits d loose spare s) (hkept : d.kept.get? name = some library) :
    library.id ∈ d.owned := by
  apply h.mem_owned_of_counted
  rw [NameTable.tally_eq h.kept name, hkept]
  simp

lemma createOn_keeps (hcalls : leave.calls library.id) (h : Fits d ∅ 0 s)
    (hid : library.id ∈ d.owned) (image : List UInt8) (drivers : List String)
    {Q : Except BridgeError HostedSession → Desk → Shelf → Prop}
    (hok : ∀ session, Q (.ok ⟨session, library⟩) (d.hosting library) s)
    (hbad : ∀ e, Q (.error e) d s) :
    Keeps (Host.watch files leave) (createOn library image drivers) d s Q := by
  simp only [createOn, keeps_bind, keeps_onHost]
  refine Library.host_keeps hcalls (h.mem_now (by simpa using hid)) _ fun r => ?_
  cases r with
  | ok session => exact hok session
  | error e => exact hbad e

/-- Destroying a session that is in hand. -/
lemma discard_keeps {hosted : HostedSession} (hcalls : leave.calls hosted.library.id)
    (h : Fits d ∅ (Multiset.replicate 4 hosted.library.id) s) {Q : Unit → Desk → Shelf → Prop}
    (hQ : ∀ s', Fits (d.ceding hosted.library) ∅ 0 s' → Q () (d.ceding hosted.library) s') :
    Keeps (Host.watch files leave) (discard hosted) d s Q := by
  have hid : hosted.library.id ∈ d.owned := h.mem_owned (by simp)
  simp only [discard, keeps_bind, keeps_onHost]
  exact Library.host_keeps hcalls (h.mem_now (by simpa using hid)) _ fun _ =>
    letGoOfSession_keeps h hQ

/-- Naming a new session. -/
lemma addSession_keeps {hosted : HostedSession}
    (h : Fits d ∅ (Multiset.replicate 4 hosted.library.id) s)
    (hcalls : ∀ old, d.sessions.get? name = some old → leave.calls old.library.id) :
    Keeps (Host.watch files leave) (addSession name hosted) d s fun _ d' s' =>
      Fits d' ∅ 0 s' ∧ d'.shared = d.shared ∧ d'.sessions = d.sessions.insert name hosted := by
  simp only [addSession, keeps_bind, keeps_get, keeps_modify]
  have hput := h.put_session name
  cases hold : d.sessions.get? name with
  | none =>
    rw [hold] at hput
    exact ⟨hput, rfl, rfl⟩
  | some old =>
    rw [hold] at hput
    exact discard_keeps (hcalls old hold) hput fun s' h' => ⟨h', rfl, rfl⟩

lemma destroySession_keeps (h : Fits d ∅ 0 s)
    (hcalls : ∀ old, d.sessions.get? name = some old → leave.calls old.library.id) :
    Keeps (Host.watch files leave) (destroySession name) d s fun _ d' s' =>
      Fits d' ∅ 0 s' ∧ d'.shared = d.shared := by
  simp only [destroySession, keeps_bind, keeps_get]
  have hdrop := h.drop_session name
  cases hold : d.sessions.get? name with
  | none => exact ⟨h, rfl⟩
  | some old =>
    rw [hold] at hdrop
    simp only [keeps_bind, keeps_modify, keeps_pure]
    exact discard_keeps (hcalls old hold) hdrop fun s' h' => ⟨h', rfl⟩

lemma invoke_keeps {hosted : HostedSession} (h : Fits d ∅ 0 s)
    (hhosted : d.sessions.get? name = some hosted) (hcalls : leave.calls hosted.library.id)
    (entry : String) (inputs : List Tensor) :
    Keeps (Host.watch files leave) (invoke name entry hosted inputs) d s fun _ d' s' =>
      Fits d' ∅ 0 s' ∧ d'.shared = d.shared := by
  have hid := mem_owned_of_session h hhosted
  simp only [invoke, keeps_bind, keeps_onHost]
  refine Library.host_keeps hcalls (h.mem_now (by simpa using hid)) _ fun r => ?_
  refine ⟨⟨h.holds, ?_, h.kept, h.sessions.insert⟩, rfl⟩
  -- The session is put where it was, so its library is held as before.
  have hcounted := h.counted
  rw [NameTable.tally_eq h.sessions name, hhosted] at hcounted
  show (d.holders : Multiset Nat) = _
  rw [NameTable.tally_insert h.sessions]
  exact hcounted

end Desk

end TensorBridge
