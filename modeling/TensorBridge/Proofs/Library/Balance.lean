import Mathlib
import TensorBridge.Proofs.Library.Calls
import TensorBridge.Proofs.Native.Handles

/-!
# Handles of the libraries

Which native handles are made and released while a host works, each told with the number of its
library.

* `Host.Balance` says that a trace takes the handles that are live from some to others, and that it
  releases nothing that is not live.
* `Session.create_balance`, `Session.invoke_balance` and `Session.destroy_balance`: a session that
  is made has three live handles until it is destroyed, and nothing else stays live, whatever fails.
-/

namespace TensorBridge

open Program (Item)

/-- The instance, device, session or list that a call makes, with the number of its library. -/
def HostOp.makes? : (op : HostOp) → op.Reply → Option (Nat × AnyHandle)
  | .native id f, reply => (f.makes? reply).map (id, ·)
  | _, _ => none

/-- The instance, device, session or list that a call releases, with the number of its library. -/
def HostOp.releases? : HostOp → Option (Nat × AnyHandle)
  | .native id f => f.releases?.map (id, ·)
  | _ => none

namespace Host

/-- Handles, each with the number of its library. -/
abbrev Live := Multiset (Nat × AnyHandle)

/-- The watch over the handles that are live. -/
def handles : Watch Host Live where
  Allows live op := ∀ h ∈ op.releases?, h ∈ live
  Expects _ _ _ := True
  after live op reply := live - ↑op.releases?.toList + ↑(op.makes? reply).toList

/-- The handle that was made. -/
def made? : Item Host → Option (Nat × AnyHandle)
  | .called op reply => op.makes? reply
  | .noted _ => none

/-- The handle that was released. -/
def released? : Item Host → Option (Nat × AnyHandle)
  | .called op _ => op.releases?
  | .noted _ => none

/-- All handles that have been made. -/
def made (items : List (Item Host)) : Live := ↑(items.filterMap made?)

/-- All handles that have been released. -/
def released (items : List (Item Host)) : Live := ↑(items.filterMap released?)

variable {items items' : List (Item Host)} {live live' live'' : Live}

@[simp] lemma made_nil : made [] = 0 := rfl

@[simp] lemma released_nil : released [] = 0 := rfl

lemma made_called {op : HostOp} {reply : op.Reply} :
    made [.called op reply] = ↑(op.makes? reply).toList := by
  cases h : op.makes? reply <;> simp [made, made?, h]

lemma released_called {op : HostOp} {reply : op.Reply} :
    released [.called op reply] = ↑op.releases?.toList := by
  cases h : op.releases? <;> simp [released, released?, h]

@[simp] lemma made_append : made (items ++ items') = made items + made items' := by
  simp [made]

@[simp] lemma released_append : released (items ++ items') = released items + released items' := by
  simp [released]

/-- What happens takes the handles that are live from some to others. -/
structure Balance (live : Live) (items : List (Item Host)) (live' : Live) : Prop where
  /-- Whatever has been released was live before or has been made. -/
  covered : ∀ before after, items = before ++ after → released before ≤ live + made before
  /-- What was live or has been made has been released, or is live. -/
  balanced : live + made items = released items + live'

namespace Balance

lemma nil : Balance live [] live where
  covered before after h := by
    obtain ⟨rfl, -⟩ := List.append_eq_nil_iff.1 h.symm
    exact zero_le
  balanced := by simp

lemma append (h : Balance live items live') (h' : Balance live' items' live'') :
    Balance live (items ++ items') live'' where
  covered before after heq := by
    -- The prefix ends in the second part or in the first one.
    rcases List.append_eq_append_iff.1 heq with ⟨middle, rfl, hitems'⟩ | ⟨middle, hitems, -⟩
    · calc released (items ++ middle)
          = released items + released middle := released_append
        _ ≤ released items + (live' + made middle) :=
          add_le_add_right (h'.covered middle after hitems') _
        _ = live + made (items ++ middle) := by
          rw [← add_assoc, ← h.balanced, made_append, add_assoc]
    · exact h.covered before middle hitems
  balanced := by
    calc live + made (items ++ items')
        = released items + (live' + made items') := by
          rw [made_append, ← add_assoc, h.balanced, add_assoc]
      _ = released (items ++ items') + live'' := by rw [h'.balanced, released_append, add_assoc]

/-- Something that happened, if it released only what was live. -/
lemma single {item : Item Host} (h : (released [item]) ≤ live) :
    Balance live [item] (live - released [item] + made [item]) where
  covered before after heq := by
    rcases List.singleton_eq_append_iff.1 heq with ⟨rfl, -⟩ | ⟨rfl, -⟩
    · exact zero_le
    · exact h.trans (Multiset.le_add_right _ _)
  balanced := by rw [← add_assoc, add_tsub_cancel_of_le h]

/-- What makes and releases nothing. -/
lemma silent (hmade : made items = 0) (hreleased : released items = 0) :
    Balance live items live where
  covered before after h := by
    subst h
    rw [released_append] at hreleased
    rw [(add_eq_zero.1 hreleased).1]
    exact zero_le
  balanced := by rw [hmade, hreleased, add_zero, zero_add]

/-- What makes and releases nothing at the end can be left out. -/
lemma of_append (h : Balance live (items ++ items') live') (hmade : made items' = 0)
    (hreleased : released items' = 0) : Balance live items live' where
  covered before after heq := h.covered before (after ++ items') (by rw [heq, List.append_assoc])
  balanced := by simpa [hmade, hreleased] using h.balanced

lemma of_permits (h : Watch.PermitsAll (fun _ : Unit => handles) live (items.map ((), ·))) :
    Balance live items (Watch.books (fun _ : Unit => handles) live (items.map ((), ·))) := by
  induction items generalizing live with
  | nil => exact .nil
  | cons item rest ih =>
    obtain ⟨hitem, hrest⟩ := h
    have hsingle : Balance live [item] (Watch.step (fun _ : Unit => handles) live ((), item)) := by
      cases item with
      | noted n => exact .silent rfl rfl
      | called op reply =>
        have hreleased : released [.called op reply] ≤ live := by
          rw [released_called]
          cases hrel : op.releases? with
          | none => exact zero_le
          | some h => exact Multiset.singleton_le.2 (hitem h hrel)
        have hsingle := single hreleased
        rw [released_called, made_called] at hsingle
        exact hsingle
    exact hsingle.append (ih hrest)

/-- **A program that keeps the books** is balanced. -/
lemma of_runs {α : Type} {p : Program Host α} {Q : α → Live → Prop} (h : p.Keeps handles live Q)
    {a : α} (run : p.Runs items a) : ∃ live', Balance live items live' ∧ Q a live' := by
  have hadmits : Watch.AdmitsAll (fun _ : Unit => handles) live (items.map ((), ·)) :=
    Watch.throughout_of_forall fun e _ _ => by rcases e with ⟨⟨⟩, _ | _⟩ <;> trivial
  obtain ⟨hpermits, hQ⟩ :=
    Program.Keeps.of_runs (W := fun _ : Unit => handles) (i := ()) h run hadmits
  exact ⟨_, .of_permits hpermits, hQ⟩

end Balance

end Host

/-! ## Programs on a library -/

/-- The handles of a library that are held and are no views. -/
def Custody.liveOn (c : Custody) (id : Nat) : Host.Live := c.lasting.map (id, ·)

namespace Library

open Session (Stamp)

variable {α : Type} {library : Library} {p : Program Backend α}

/-- Every call of a function keeps the live handles of a library in step with those of the
functions. -/
lemma native_handles (id : Nat) {live : Multiset AnyHandle} {f : NativeOp}
    (hallows : Native.handles.Allows live f) :
    (Program.perform (I := Host) (.native id f)).Keeps Host.handles (live.map (id, ·))
      fun reply live' => live' = (Native.handles.after live f reply).map (id, ·) := by
  have hmakes (reply : f.Reply) :
      (HostOp.native id f).makes? reply = (f.makes? reply).map (id, ·) := rfl
  have hreleases : (HostOp.native id f).releases? = f.releases?.map (id, ·) := rfl
  cases hrel : f.releases? with
  | none =>
    refine ⟨by simp [Host.handles, hreleases, hrel], fun reply _ => ?_⟩
    cases hmade : f.makes? reply <;>
      simp [Host.handles, Native.handles, hreleases, hrel, hmakes, hmade]
  | some h =>
    have hlive : h ∈ live := hallows h hrel
    refine ⟨by simpa [Host.handles, hreleases, hrel] using hlive, fun reply _ => ?_⟩
    cases hmade : f.makes? reply <;>
      simp [Host.handles, Native.handles, hreleases, hrel, hmakes, hmade, Multiset.map_erase_of_mem,
        hlive]

/-- **A program of a session** keeps the live handles of its library in step with the books. -/
theorem host_handles {stamp : Stamp} {c : Custody} {Q : α → Custody → Prop}
    (hp : p.Keeps (Custody.watch stamp) c Q) :
    (library.host p).Keeps Host.handles (c.liveOn library.id) fun a live =>
      ∃ c', live = c'.liveOn library.id ∧ Q a c' := by
  have hnative : (p.expand (Native.perform library.rendersStatus)).Keeps Native.handles c.lasting
      fun a live => ∃ c', live = c'.lasting ∧ Q a c' :=
    hp.expand (fun op c live hrel hallows => by
      subst hrel
      exact (Native.perform_handles hallows).mono fun _ _ h => ⟨trivial, h⟩) rfl
  have hhost : (library.host p).Keeps Host.handles (c.liveOn library.id)
      fun a live' => ∃ live, live' = live.map (library.id, ·) ∧ ∃ c', live = c'.lasting ∧ Q a c' :=
    hnative.expand (fun f live live' hrel hallows => by
      subst hrel
      exact (native_handles library.id hallows).mono fun _ _ h => ⟨trivial, h⟩) rfl
  refine Program.Keeps.mono hhost ?_
  rintro a live ⟨_, rfl, c', rfl, hQ⟩
  exact ⟨c', rfl, hQ⟩

end Library

/-! ## Sessions -/

namespace Session

variable {library : Library} {items : List (Item Host)} {s s' : Session}

/-- The live handles of a session on a library. -/
def liveOn (s : Session) (library : Library) : Host.Live := ↑(s.handles.map (library.id, ·))

/-- The books about the handles of a session, and nothing else. -/
lemma liveOn_eq {c : Custody} {number : Nat} (h : c.held = s.custody number) :
    c.liveOn library.id = s.liveOn library := by
  simp [Custody.liveOn, Custody.lasting, liveOn, h, custody, handles]

/-- The books about no handles at all. -/
lemma liveOn_eq_zero {c : Custody} (h : c.held = 0) : c.liveOn library.id = 0 := by
  simp [Custody.liveOn, Custody.lasting, h]

/-- The books about the handles of a session. -/
def books (s : Session) : Custody := { held := s.custody 0 }

/-- **Making a session** leaves its three handles live, and a failed attempt leaves none. -/
theorem create_balance {description : String} {image : List UInt8} {drivers : List String}
    {r : Except BridgeError Session}
    (run : (library.host (create description image drivers).run).Runs items r) :
    Host.Balance 0 items (r.toOption.elim 0 fun s => s.liveOn library) := by
  have hcreate : (create description image drivers).run.Keeps (Custody.watch ⟨0, 0⟩) {} _ :=
    create_meets
  obtain ⟨live, hbalance, c, rfl, hheld⟩ := Host.Balance.of_runs (Library.host_handles hcreate) run
  rw [liveOn_eq_zero rfl] at hbalance
  cases r with
  | ok s => rwa [liveOn_eq (hheld.trans (add_zero _))] at hbalance
  | error e => rwa [liveOn_eq_zero hheld] at hbalance

/-- **An invocation** leaves the handles of its session live, and no others. -/
theorem invoke_balance {entry : String} {inputs : List Tensor}
    {r : Except BridgeError (List Tensor)}
    (run : (library.host (s.invoke entry inputs)).Runs items (r, s')) :
    Host.Balance (s.liveOn library) items (s.liveOn library) ∧ s'.handles = s.handles := by
  have hsession : (Stamp.holder ⟨0, 0⟩ .session, s.session.any) ∈ s.books.held := by
    simp [books, custody, handles, Stamp.holder]
  obtain ⟨live, hbalance, c, rfl, hheld, hhandles⟩ :=
    Host.Balance.of_runs (Library.host_handles (invoke_keeps hsession)) run
  rw [liveOn_eq hheld, liveOn_eq (c := s.books) rfl] at hbalance
  exact ⟨hbalance, hhandles⟩

/-- **The end of a session** leaves none of its handles live. -/
theorem destroy_balance {u : Unit} (run : (library.host s.destroy).Runs items u) :
    Host.Balance (s.liveOn library) items 0 := by
  have hdestroy : s.destroy.Keeps (Custody.watch ⟨0, 0⟩) s.books _ :=
    destroy_keeps (add_zero _).symm
  obtain ⟨live, hbalance, c, rfl, hheld⟩ := Host.Balance.of_runs (Library.host_handles hdestroy) run
  rw [liveOn_eq_zero hheld, liveOn_eq (c := s.books) rfl] at hbalance
  exact hbalance

end Session

end TensorBridge
