import Mathlib
import TensorBridge.Native.Backend
import TensorBridge.Proofs.Session.Custody

/-!
# The native ledger

What the native functions hand out has to be disposed of: handles by their release functions, views
by turning them into references, references by moving them into a list or by releasing them, copies
of modules by handing them to a session, statuses and buffers with text by freeing them.

`Native.watch` keeps a ledger of all that has not been disposed of, and for whom it is.  It allows a
function only if everything that it is given is in the ledger for the one who calls it.  Of the
native runtime it expects no more than the rules of ownership: a failed push leaves the reference
where it was and any other push takes it, and a view turns into a reference that is not null.  A
function that fails, or succeeds with a null address, hands out nothing but its status.

`Native.perform_keeps` tells that the program of every operation of a runtime keeps the ledger in
step with the books of `Custody`, so everything that such a program uses on the way is gone at its
end.
-/

namespace TensorBridge

namespace Native

/-- Something that a native function hands out and that has to be disposed of. -/
inductive Thing where
  /-- A handle. -/
  | handle (h : AnyHandle)
  /-- A reference to a view. -/
  | reference (address : Nat)
  /-- Memory with a copy of a module. -/
  | moduleCopy
  /-- A status. -/
  | status (word : StatusWord)
  /-- A buffer with the text of a status. -/
  | text (address : Nat)
deriving DecidableEq, Repr

end Native

open Native (Thing)

/-- What a reply hands out: the status of a failure, or what is at the address. -/
def Produced.things (thing : Nat → Thing) (produced : Produced) : List Thing :=
  match produced.status with
  | some word => [.status word]
  | none => (produced.address.map thing).toList

namespace NativeOp

/-- What a function is given and has to be there. -/
def uses : NativeOp → List Thing
  | free _ address => [.text address]
  | freeStatus word | renderStatus word _ => [.status word]
  | releaseInstance inst | hostAllocator inst | vmInstance inst | createDevice inst _ =>
    [.handle ⟨.runtimeInstance, inst⟩]
  | createSession inst _ device _ => [.handle ⟨.runtimeInstance, inst⟩, .handle ⟨.device, device⟩]
  | releaseSession session | sessionDevice session | sessionAllocator session =>
    [.handle ⟨.session, session⟩]
  | appendModule session .. => [.handle ⟨.session, session⟩, .moduleCopy]
  | callByName session _ inputs outputs =>
    [.handle ⟨.session, session⟩, .handle ⟨.list, inputs⟩, .handle ⟨.list, outputs⟩]
  | releaseList list | listSize list | viewAt list _ => [.handle ⟨.list, list⟩]
  | pushReference list reference => .handle ⟨.list, list⟩ :: (reference.map .reference).toList
  | releaseReference reference => [.reference reference]
  | viewReference view => [.handle ⟨.view, view⟩]
  | releaseDevice device => [.handle ⟨.device, device⟩]
  | _ => []

/-- What a call disposes of. -/
def disposes : (op : NativeOp) → op.Reply → List Thing
  | free _ address, _ => [.text address]
  | freeStatus word, _ => [.status word]
  | releaseInstance inst, _ => [.handle ⟨.runtimeInstance, inst⟩]
  | releaseSession session, _ => [.handle ⟨.session, session⟩]
  | appendModule .., _ => [.moduleCopy]
  | releaseList list, _ => [.handle ⟨.list, list⟩]
  | pushReference _ reference, pushed =>
    if pushed.status.isSome then [] else (reference.map .reference).toList
  | releaseReference reference, _ => [.reference reference]
  | viewReference view, _ => [.handle ⟨.view, view⟩]
  | releaseDevice device, _ => [.handle ⟨.device, device⟩]
  | _, _ => []

/-- What a call hands out. -/
def obtains : (op : NativeOp) → op.Reply → List Thing
  | malloc .., produced => produced.things fun _ => .moduleCopy
  | renderStatus .., .buffer address _ => [.text address]
  | createInstance .., produced => produced.things fun a => .handle ⟨.runtimeInstance, a⟩
  | createDevice .., produced => produced.things fun a => .handle ⟨.device, a⟩
  | createSession .., produced => produced.things fun a => .handle ⟨.session, a⟩
  | createList .., produced => produced.things fun a => .handle ⟨.list, a⟩
  | allocateView .., produced => produced.things fun a => .handle ⟨.view, a⟩
  | pushReference .., pushed => (pushed.status.map .status).toList
  | viewReference _, reference => (reference.map .reference).toList
  | registerTypes _, status | resolveTypes _, status | appendModule .., status
  | callByName .., status => (status.map .status).toList
  | readBuffer .., read => (read.1.map .status).toList
  | _, _ => []

/-- The rules of ownership that a reply has to keep. -/
def Ruled : (op : NativeOp) → op.Reply → Prop
  | pushReference _ reference, pushed =>
    pushed.address = if pushed.status.isSome then reference else none
  | viewReference _, reference => reference.isSome
  | _, _ => True

instance (op : NativeOp) (reply : op.Reply) : Decidable (op.Ruled reply) := by
  unfold Ruled
  split <;> infer_instance

end NativeOp

/-- For whom a thing is. -/
def Session.Stamp.owner (stamp : Session.Stamp) : Thing → Holder
  | .handle h => stamp.holder h.kind
  | .reference _ | .moduleCopy | .status _ | .text _ => .operation stamp.operation

/-- A thing with the one for whom it is. -/
def Session.Stamp.tag (stamp : Session.Stamp) (thing : Thing) : Holder × Thing :=
  (stamp.owner thing, thing)

namespace Native

open Session (Stamp)

/-- The things that have not been disposed of, each with the one for whom it is. -/
abbrev Ledger := Multiset (Holder × Thing)

/-- The watch over the native functions. -/
def watch (stamp : Stamp) : Watch Native Ledger where
  Allows ledger op := ∀ thing ∈ op.uses, stamp.tag thing ∈ ledger
  Expects _ op reply := op.Ruled reply
  after ledger op reply :=
    ledger - ↑((op.disposes reply).map stamp.tag) + ↑((op.obtains reply).map stamp.tag)

variable {stamp : Stamp} {ledger rest : Ledger} {renders : Bool} {bad : BridgeError → Ledger → Prop}

/-! ## Single calls -/

/-- A call of a function that hands out nothing and disposes of nothing. -/
lemma keeps_of_neutral {op : NativeOp} {Q : op.Reply → Ledger → Prop}
    (huses : ∀ thing ∈ op.uses, stamp.tag thing ∈ ledger) (hdisposes : ∀ r, op.disposes r = [])
    (hobtains : ∀ r, op.obtains r = []) (hQ : ∀ r, Q r ledger) :
    (Program.perform (I := Native) op).Keeps (watch stamp) ledger Q := by
  refine ⟨huses, fun r _ => ?_⟩
  have hafter : (watch stamp).after ledger op r = ledger := by
    simp [watch, hdisposes r, hobtains r]
  rw [hafter]
  exact hQ r

/-- A call of a function that disposes of one thing. -/
lemma keeps_of_exchange {op : NativeOp} {thing : Thing} {Q : op.Reply → Ledger → Prop}
    (hledger : ledger = stamp.tag thing ::ₘ rest)
    (huses : ∀ thing ∈ op.uses, stamp.tag thing ∈ ledger) (hdisposes : ∀ r, op.disposes r = [thing])
    (hQ : ∀ r, op.Ruled r → Q r (↑((op.obtains r).map stamp.tag) + rest)) :
    (Program.perform (I := Native) op).Keeps (watch stamp) ledger Q := by
  refine ⟨huses, fun r hruled => ?_⟩
  have hafter : (watch stamp).after ledger op r = ↑((op.obtains r).map stamp.tag) + rest := by
    simp [watch, hdisposes r, hledger, add_comm]
  rw [hafter]
  exact hQ r hruled

/-- A call of a function that disposes of the one thing that it is given. -/
lemma keeps_of_disposal {op : NativeOp} {thing : Thing} {Q : op.Reply → Ledger → Prop}
    (hledger : ledger = stamp.tag thing ::ₘ rest) (huses : op.uses = [thing])
    (hdisposes : ∀ r, op.disposes r = [thing]) (hobtains : ∀ r, op.obtains r = [])
    (hQ : ∀ r, Q r rest) : (Program.perform (I := Native) op).Keeps (watch stamp) ledger Q := by
  refine keeps_of_exchange hledger (by simp [huses, hledger]) hdisposes fun r _ => ?_
  simpa [hobtains r] using hQ r

/-- A call of a function that disposes of nothing. -/
lemma keeps_of_producing {op : NativeOp} {Q : op.Reply → Ledger → Prop}
    (huses : ∀ thing ∈ op.uses, stamp.tag thing ∈ ledger) (hdisposes : ∀ r, op.disposes r = [])
    (hQ : ∀ r, Q r (↑((op.obtains r).map stamp.tag) + ledger)) :
    (Program.perform (I := Native) op).Keeps (watch stamp) ledger Q := by
  refine ⟨huses, fun r _ => ?_⟩
  have hafter : (watch stamp).after ledger op r =
      ↑((op.obtains r).map stamp.tag) + ledger := by
    simp [watch, hdisposes r, add_comm]
  rw [hafter]
  exact hQ r

/-! ## Statuses -/

/-- Rendering a status leaves nothing behind. -/
lemma render_keeps {word : StatusWord} (hword : stamp.tag (.status word) ∈ ledger) :
    (render renders word).Keeps (watch stamp) ledger fun _ ledger' => ledger' = ledger := by
  unfold render
  split
  · rw [Program.keeps_bind]
    refine keeps_of_producing (by simpa [NativeOp.uses] using hword) (fun _ => rfl)
      fun rendering => ?_
    cases rendering with
    | failed => simp [NativeOp.obtains]
    | noBuffer => simp [NativeOp.obtains]
    | buffer address bytes =>
      rw [Program.keeps_bind]
      exact keeps_of_disposal rfl rfl (fun _ => rfl) (fun _ => rfl) fun _ => rfl
  · simp

/-- **A status that is checked** is gone. -/
lemma check_meets {symbol : String} {status : Option StatusWord}
    (hledger : ledger = ↑((status.map Thing.status).toList.map stamp.tag) + rest)
    {ok : Unit → Ledger → Prop} (hok : status = none → ok () rest) (hbad : ∀ e, bad e rest) :
    (check renders symbol status).Meets (watch stamp) ledger ok bad := by
  cases status with
  | none =>
    obtain rfl : ledger = rest := by simpa using hledger
    exact hok rfl
  | some word =>
    have hledger : ledger = stamp.tag (.status word) ::ₘ rest := by simpa using hledger
    simp only [check, Action.meets_bind, Action.meets_always, Action.meets_throw]
    refine (render_keeps (by simp [hledger])).mono fun _ _ heq => ?_
    subst heq
    exact keeps_of_disposal hledger rfl (fun _ => rfl) (fun _ => rfl) fun _ => hbad _

/-- A function that hands something out through an address. -/
lemma obtain_meets {symbol : String} {missing : BridgeError} {p : Program Native Produced}
    (thing : Nat → Thing)
    (hp : p.Keeps (watch stamp) ledger fun produced ledger' =>
      ledger' = ↑((produced.things thing).map stamp.tag) + ledger)
    {ok : Nat → Ledger → Prop} (hok : ∀ a, ok a (stamp.tag (thing a) ::ₘ ledger))
    (hbad : ∀ e, bad e ledger) :
    (obtain renders symbol missing p).Meets (watch stamp) ledger ok bad := by
  simp only [obtain, Action.meets_bind, Action.meets_always]
  refine hp.mono ?_
  rintro ⟨status, address⟩ _ rfl
  cases status with
  | none =>
    cases address with
    | none => simpa [check, Produced.things] using hbad missing
    | some a => simpa [check, Produced.things] using hok a
  | some word =>
    exact check_meets (by simp [Produced.things]) (by simp) hbad

/-- A function that replies with a status alone. -/
lemma attempt_meets {op : NativeOp} {p : Program Native (Option StatusWord)}
    (hp : p.Keeps (watch stamp) ledger fun status ledger' =>
      ledger' = ↑((status.map Thing.status).toList.map stamp.tag) + rest)
    {ok : Unit → Ledger → Prop} (hok : ok () rest) (hbad : ∀ e, bad e rest) :
    (attempt renders op p).Meets (watch stamp) ledger ok bad := by
  simp only [attempt, Action.meets_bind, Action.meets_always]
  exact hp.mono fun status _ h => check_meets h (fun _ => hok) hbad

/-! ## The operations of a runtime -/

/-- Registering the types needs the instance and leaves the ledger as it was. -/
lemma registerTypes_meets {inst : Nat}
    (hinst : stamp.tag (.handle ⟨.runtimeInstance, inst⟩) ∈ ledger) :
    (registerTypes renders inst).Meets (watch stamp) ledger (fun _ ledger' => ledger' = ledger)
      fun _ ledger' => ledger' = ledger := by
  simp only [registerTypes, Action.meets_bind, Action.meets_always]
  refine keeps_of_neutral (List.forall_mem_singleton.2 hinst) (fun _ => rfl) (fun _ => rfl)
    fun vm => ?_
  cases vm with
  | none => simp
  | some vm =>
    simp only [Action.meets_bind]
    refine attempt_meets ?_ ?_ fun _ => rfl
    · exact keeps_of_producing (List.forall_mem_nil _) (fun _ => rfl) fun _ => rfl
    · refine attempt_meets ?_ rfl fun _ => rfl
      exact keeps_of_producing (List.forall_mem_nil _) (fun _ => rfl) fun _ => rfl

/-- **Making an instance**: an attempt that fails after the instance is there releases it. -/
lemma createInstance_meets :
    (createInstance renders).Meets (watch stamp) ledger
      (fun inst ledger' => ledger' = stamp.tag (.handle inst.any) ::ₘ ledger)
      fun _ ledger' => ledger' = ledger := by
  simp only [createInstance, Action.meets_bind, Action.meets_always, Action.meets_onFailure,
    Action.meets_pure]
  refine keeps_of_neutral (List.forall_mem_nil _) (fun _ => rfl) (fun _ => rfl) fun _ => ?_
  refine keeps_of_neutral (List.forall_mem_nil _) (fun _ => rfl) (fun _ => rfl) fun options => ?_
  refine obtain_meets (fun a => .handle ⟨.runtimeInstance, a⟩) ?_ (fun inst => ?_) fun _ => rfl
  · exact keeps_of_producing (List.forall_mem_nil _) (fun _ => rfl) fun _ => rfl
  · refine (registerTypes_meets (by simp)).mono ?_ ?_
    · rintro _ _ rfl
      rfl
    · rintro _ _ rfl
      exact keeps_of_disposal rfl rfl (fun _ => rfl) (fun _ => rfl) fun _ => rfl

lemma createDevice_meets {inst : Handle .runtimeInstance} {driver : String}
    (hinst : stamp.tag (.handle inst.any) ∈ ledger) :
    (createDevice renders inst driver).Meets (watch stamp) ledger
      (fun device ledger' => ledger' = stamp.tag (.handle device.any) ::ₘ ledger)
      fun _ ledger' => ledger' = ledger := by
  simp only [createDevice, Action.meets_bind, Action.meets_pure]
  refine obtain_meets (fun a => .handle ⟨.device, a⟩) ?_ (fun _ => rfl) fun _ => rfl
  exact keeps_of_producing (List.forall_mem_singleton.2 hinst) (fun _ => rfl) fun _ => rfl

lemma createSession_meets {inst : Handle .runtimeInstance} {device : Handle .device}
    (hinst : stamp.tag (.handle inst.any) ∈ ledger)
    (hdevice : stamp.tag (.handle device.any) ∈ ledger) :
    (createSession renders inst device).Meets (watch stamp) ledger
      (fun session ledger' => ledger' = stamp.tag (.handle session.any) ::ₘ ledger)
      fun _ ledger' => ledger' = ledger := by
  simp only [createSession, Action.meets_bind, Action.meets_always, Action.meets_pure]
  refine keeps_of_neutral (List.forall_mem_nil _) (fun _ => rfl) (fun _ => rfl) fun options => ?_
  refine keeps_of_neutral (List.forall_mem_singleton.2 hinst) (fun _ => rfl) (fun _ => rfl)
    fun allocator => ?_
  refine obtain_meets (fun a => .handle ⟨.session, a⟩) ?_ (fun _ => rfl) fun _ => rfl
  exact keeps_of_producing
    (List.forall_mem_cons.2 ⟨hinst, List.forall_mem_singleton.2 hdevice⟩) (fun _ => rfl)
    fun _ => rfl

/-- The copy of the module belongs to the session as soon as it is appended, even in vain. -/
lemma appendModule_meets {session : Handle .session} {image : List UInt8}
    (hsession : stamp.tag (.handle session.any) ∈ ledger) :
    (appendModule renders session image).Meets (watch stamp) ledger
      (fun _ ledger' => ledger' = ledger) fun _ ledger' => ledger' = ledger := by
  simp only [appendModule, Action.meets_bind, Action.meets_always]
  refine keeps_of_producing (List.forall_mem_nil _) (fun _ => rfl) ?_
  rintro ⟨status, address⟩
  cases status with
  | none =>
    simp only [check, ExceptT.run_pure, Program.pure_eq_done, Program.keeps_done]
    cases address with
    | none => simp [NativeOp.obtains, Produced.things]
    | some a =>
      refine attempt_meets ?_ rfl fun _ => rfl
      refine keeps_of_exchange rfl ?_ (fun _ => rfl) fun _ _ => rfl
      exact List.forall_mem_cons.2 ⟨Multiset.mem_cons_of_mem hsession,
        List.forall_mem_singleton.2 (Multiset.mem_cons_self _ _)⟩
  | some word =>
    have hchecked : (check renders (NativeOp.malloc .system image.length).symbol (some word)).Meets
        (watch stamp) (↑([Thing.status word].map stamp.tag) + ledger) (fun _ _ => False)
        fun _ ledger' => ledger' = ledger := check_meets rfl (by simp) fun _ => rfl
    refine Program.Keeps.mono hchecked ?_
    rintro (e | _) _ h
    · exact h
    · exact h.elim

lemma createList_meets {capacity : Nat} :
    (createList renders capacity).Meets (watch stamp) ledger
      (fun list ledger' => ledger' = stamp.tag (.handle list.any) ::ₘ ledger)
      fun _ ledger' => ledger' = ledger := by
  simp only [createList, Action.meets_bind, Action.meets_pure]
  refine obtain_meets (fun a => .handle ⟨.list, a⟩) ?_ (fun _ => rfl) fun _ => rfl
  exact keeps_of_producing (List.forall_mem_nil _) (fun _ => rfl) fun _ => rfl

lemma uploadView_meets {session : Handle .session} {dims : List UInt64} {code : UInt32}
    {data : List UInt8} (hsession : stamp.tag (.handle session.any) ∈ ledger) :
    (uploadView renders session dims code data).Meets (watch stamp) ledger
      (fun view ledger' => ledger' = stamp.tag (.handle view.any) ::ₘ ledger)
      fun _ ledger' => ledger' = ledger := by
  simp only [uploadView, Action.meets_bind, Action.meets_always, Action.meets_pure]
  refine keeps_of_neutral (List.forall_mem_singleton.2 hsession) (fun _ => rfl) (fun _ => rfl)
    fun device => ?_
  refine keeps_of_neutral (List.forall_mem_singleton.2 hsession) (fun _ => rfl) (fun _ => rfl)
    fun allocator => ?_
  refine obtain_meets (fun a => .handle ⟨.view, a⟩) ?_ (fun _ => rfl) fun _ => rfl
  exact keeps_of_producing (List.forall_mem_nil _) (fun _ => rfl) fun _ => rfl

/-- **A push** takes the reference if it succeeds, and leaves it where it was if it fails. -/
lemma pushReference_keeps {list r : Nat} {Q : Produced → Ledger → Prop}
    (hlist : stamp.tag (.handle ⟨.list, list⟩) ∈ rest) (hok : Q ⟨none, none⟩ rest)
    (hbad : ∀ word, Q ⟨some word, some r⟩
      (stamp.tag (.status word) ::ₘ stamp.tag (.reference r) ::ₘ rest)) :
    (Program.perform (I := Native) (.pushReference list (some r))).Keeps (watch stamp)
      (stamp.tag (.reference r) ::ₘ rest) Q := by
  refine ⟨?_, ?_⟩
  · exact List.forall_mem_cons.2 ⟨Multiset.mem_cons_of_mem hlist,
      List.forall_mem_singleton.2 (Multiset.mem_cons_self _ _)⟩
  rintro ⟨status, left⟩ hleft
  cases status with
  | none =>
    obtain rfl : left = none := hleft
    have hafter : (watch stamp).after (stamp.tag (.reference r) ::ₘ rest)
        (.pushReference list (some r)) ⟨none, none⟩ = rest := by
      simp [watch, NativeOp.disposes, NativeOp.obtains]
    rw [hafter]
    exact hok
  | some word =>
    obtain rfl : left = some r := hleft
    have hafter : (watch stamp).after (stamp.tag (.reference r) ::ₘ rest)
        (.pushReference list (some r)) ⟨some word, some r⟩ =
        (stamp.tag (.reference r) ::ₘ rest) - ↑([] : List (Holder × Thing)) +
          ↑[stamp.tag (.status word)] := rfl
    rw [hafter, Multiset.coe_nil, tsub_zero, add_comm]
    exact hbad word

/-- **A view that is pushed** turns into a reference, which the list takes if the push succeeds and
which is released if it fails. -/
lemma pushView_meets {list : Handle .list} {view : Handle .view}
    (hlist : stamp.tag (.handle list.any) ∈ rest)
    (hledger : ledger = stamp.tag (.handle view.any) ::ₘ rest) :
    (pushView renders list view).Meets (watch stamp) ledger
      (fun _ ledger' => ledger' = rest) fun _ ledger' => ledger' = rest := by
  simp only [pushView, Action.meets_bind, Action.meets_always]
  have hview : stamp.tag (.handle view.any) ∈ ledger := by simp [hledger]
  refine keeps_of_exchange hledger (List.forall_mem_singleton.2 hview) (fun _ => rfl)
    fun reference hreference => ?_
  -- A live view turns into a reference, never into none.
  obtain ⟨r, rfl⟩ := Option.isSome_iff_exists.1 hreference
  refine pushReference_keeps hlist ?_ fun word => ?_
  · exact check_meets (by simp) (fun _ => rfl) fun _ => rfl
  · refine Action.meets_bind.2 (Action.meets_always.2 ?_)
    refine keeps_of_disposal (Multiset.cons_swap _ _ _) rfl (fun _ => rfl) (fun _ => rfl)
      fun _ => ?_
    exact check_meets rfl (fun _ => rfl) fun _ => rfl

lemma call_meets {session : Handle .session} {entry : String} {inputs outputs : Handle .list}
    (hsession : stamp.tag (.handle session.any) ∈ ledger)
    (hinputs : stamp.tag (.handle inputs.any) ∈ ledger)
    (houtputs : stamp.tag (.handle outputs.any) ∈ ledger) :
    (attempt renders (.callByName session.address entry inputs.address outputs.address)
      (.perform (I := Native)
        (.callByName session.address entry inputs.address outputs.address))).Meets
      (watch stamp) ledger (fun _ ledger' => ledger' = ledger)
      fun _ ledger' => ledger' = ledger := by
  refine attempt_meets ?_ rfl fun _ => rfl
  exact keeps_of_producing (List.forall_mem_cons.2 ⟨hsession,
    List.forall_mem_cons.2 ⟨hinputs, List.forall_mem_singleton.2 houtputs⟩⟩) (fun _ => rfl)
    fun _ => rfl

lemma readView_meets {view : Handle .view} {length : Nat} :
    (readView renders view length).Meets (watch stamp) ledger
      (fun _ ledger' => ledger' = ledger) fun _ ledger' => ledger' = ledger := by
  unfold readView
  split
  · simp
  · simp only [Action.meets_bind, Action.meets_always]
    refine keeps_of_neutral (List.forall_mem_nil _) (fun _ => rfl) (fun _ => rfl) fun buffer => ?_
    cases buffer with
    | none => simp
    | some buffer =>
      simp only [Action.meets_bind, Action.meets_always, Action.meets_pure]
      refine keeps_of_producing (List.forall_mem_nil _) (fun _ => rfl) fun read => ?_
      exact check_meets rfl (fun _ => rfl) fun _ => rfl

/-! ## All operations -/

/-- The ledger with the handles that are held, and nothing else. -/
def carried (held : Multiset (Holder × AnyHandle)) : Ledger :=
  held.map fun entry => (entry.1, .handle entry.2)

lemma carried_cons {held : Multiset (Holder × AnyHandle)} {h : AnyHandle} :
    carried ((stamp.holder h.kind, h) ::ₘ held) = stamp.tag (.handle h) ::ₘ carried held := by
  simp [carried, Stamp.tag, Stamp.owner]

lemma mem_carried {held : Multiset (Holder × AnyHandle)} {h : AnyHandle}
    (hmem : (stamp.holder h.kind, h) ∈ held) : stamp.tag (.handle h) ∈ carried held :=
  Multiset.mem_map_of_mem _ hmem

/-- A handle that is held, and the rest. -/
lemma carried_erase {held : Multiset (Holder × AnyHandle)} {h : AnyHandle}
    (hmem : (stamp.holder h.kind, h) ∈ held) :
    carried held = stamp.tag (.handle h) ::ₘ carried (held.erase (stamp.holder h.kind, h)) := by
  rw [← carried_cons, Multiset.cons_erase hmem]

/-- An operation that makes something adds it to what is held if it succeeds. -/
lemma keeps_of_making {kind : Resource} {c : Custody} {p : Action Native (Handle kind)}
    {after : Except BridgeError (Handle kind) → Custody}
    (hp : p.Meets (watch stamp) (carried c.held)
      (fun h ledger' => ledger' = stamp.tag (.handle h.any) ::ₘ carried c.held)
      fun _ ledger' => ledger' = carried c.held)
    (hok : ∀ h, after (.ok h) = c.add stamp h.any) (hbad : ∀ e, after (.error e) = c) :
    p.run.Keeps (watch stamp) (carried c.held) fun r ledger' =>
      ledger' = carried (after r).held := by
  refine Program.Keeps.mono hp ?_
  rintro (e | h) _ rfl
  · rw [hbad]
  · rw [hok, Custody.held_add, carried_cons]

/-- An operation that gives a handle back. -/
lemma keeps_of_release {c : Custody} {op : NativeOp} {h : AnyHandle}
    {after : op.Reply → Custody} (hmem : (stamp.holder h.kind, h) ∈ c.held)
    (huses : op.uses = [.handle h]) (hdisposes : ∀ r, op.disposes r = [.handle h])
    (hobtains : ∀ r, op.obtains r = []) (hafter : ∀ r, after r = c.remove stamp h) :
    (Program.perform (I := Native) op).Keeps (watch stamp) (carried c.held)
      fun r ledger' => ledger' = carried (after r).held := by
  refine keeps_of_disposal (carried_erase hmem) huses hdisposes hobtains fun r => ?_
  rw [hafter, Custody.held_remove]

/-- **The program of every operation** keeps the ledger in step with the books about handles. -/
theorem perform_keeps {c : Custody} {op : BackendOp}
    (hallows : (Custody.watch stamp).Allows c op) :
    (perform renders op).Keeps (watch stamp) (carried c.held) fun r ledger' =>
      ledger' = carried ((Custody.watch stamp).after c op r).held := by
  have hheld : ∀ h ∈ op.passed, (stamp.holder h.kind, h) ∈ c.held := hallows.1
  have hcarried : ∀ h ∈ op.passed, stamp.tag (.handle h) ∈ carried c.held := fun h hpassed =>
    mem_carried (hheld h hpassed)
  cases op with
  | createInstance => exact keeps_of_making createInstance_meets (fun _ => rfl) fun _ => rfl
  | releaseInstance inst =>
    exact keeps_of_release (hheld inst.any (by simp [BackendOp.passed])) rfl (fun _ => rfl)
      (fun _ => rfl) fun _ => rfl
  | createDevice inst driver =>
    refine keeps_of_making (createDevice_meets ?_) (fun _ => rfl) fun _ => rfl
    exact hcarried inst.any (by simp [BackendOp.passed])
  | releaseDevice device =>
    exact keeps_of_release (hheld device.any (by simp [BackendOp.passed])) rfl (fun _ => rfl)
      (fun _ => rfl) fun _ => rfl
  | createSession inst device =>
    refine keeps_of_making (createSession_meets ?_ ?_) (fun _ => rfl) fun _ => rfl
    · exact hcarried inst.any (by simp [BackendOp.passed])
    · exact hcarried device.any (by simp [BackendOp.passed])
  | releaseSession session =>
    exact keeps_of_release (hheld session.any (by simp [BackendOp.passed])) rfl (fun _ => rfl)
      (fun _ => rfl) fun _ => rfl
  | appendModule session image =>
    refine Program.Keeps.mono (appendModule_meets ?_) ?_
    · exact hcarried session.any (by simp [BackendOp.passed])
    · rintro (e | _) _ rfl <;> rfl
  | createList capacity => exact keeps_of_making createList_meets (fun _ => rfl) fun _ => rfl
  | releaseList list =>
    exact keeps_of_release (hheld list.any (by simp [BackendOp.passed])) rfl (fun _ => rfl)
      (fun _ => rfl) fun _ => rfl
  | listLength list =>
    refine keeps_of_neutral (List.forall_mem_singleton.2 ?_) (fun _ => rfl) (fun _ => rfl)
      fun _ => rfl
    exact hcarried list.any (by simp [BackendOp.passed])
  | uploadView session dims code data =>
    refine keeps_of_making (uploadView_meets ?_) (fun _ => rfl) fun _ => rfl
    exact hcarried session.any (by simp [BackendOp.passed])
  | pushView list view =>
    have hlist := hheld list.any (by simp [BackendOp.passed])
    have hview := hheld view.any (by simp [BackendOp.passed])
    -- The list is not the view that it takes, so it is still in the ledger without the view.
    have hne : (stamp.holder .list, list.any) ≠ (stamp.holder .view, view.any) := by
      simp [Handle.any]
    refine Program.Keeps.mono (pushView_meets ?_ (carried_erase hview)) ?_
    · exact mem_carried ((Multiset.mem_erase_of_ne hne).2 hlist)
    · rintro (e | _) _ rfl <;> rfl
  | call session entry inputs outputs =>
    refine Program.Keeps.mono (call_meets ?_ ?_ ?_) ?_
    · exact hcarried session.any (by simp [BackendOp.passed])
    · exact hcarried inputs.any (by simp [BackendOp.passed])
    · exact hcarried outputs.any (by simp [BackendOp.passed])
    · rintro (e | _) _ rfl <;> rfl
  | viewAt list index =>
    refine Program.keeps_bind.2 (keeps_of_neutral (List.forall_mem_singleton.2 ?_)
      (fun _ => rfl) (fun _ => rfl) ?_)
    · exact hcarried list.any (by simp [BackendOp.passed])
    · rintro (_ | view) <;> rfl
  | viewDims view =>
    refine Program.keeps_bind.2 (keeps_of_neutral (List.forall_mem_nil _) (fun _ => rfl)
      (fun _ => rfl) fun rank => ?_)
    exact Program.keeps_bind.2 (keeps_of_neutral (List.forall_mem_nil _) (fun _ => rfl)
      (fun _ => rfl) fun dims => rfl)
  | viewCode view =>
    exact keeps_of_neutral (List.forall_mem_nil _) (fun _ => rfl) (fun _ => rfl) fun _ => rfl
  | viewByteLength view =>
    exact keeps_of_neutral (List.forall_mem_nil _) (fun _ => rfl) (fun _ => rfl) fun _ => rfl
  | readView view length =>
    refine Program.Keeps.mono readView_meets ?_
    rintro (e | _) _ rfl <;> rfl

end Native

end TensorBridge
