import Mathlib
import TensorBridge.Native.Backend
import TensorBridge.Proofs.Session.Surfacing

/-!
# Failures of native functions

A native function that fails hands out a status.  The status is rendered, if the library can do so,
the buffer with the text is freed, and then the status is freed; nothing else is ever rendered or
freed.  `Native.Failure` is a failing call with what the rendering replied, `Failure.calls` are the
calls that it leads to, and `Accounted` says of the calls of a trace that they are made up of those
of failures and of calls that have nothing to do with statuses.

`Native.perform_settles` is the result: an operation of a runtime meets at most one failure, and if
it meets one, it fails with the error that tells about it.
-/

namespace TensorBridge

open Program (Item)

/-! ## Failures -/

namespace NativeOp

/-- The status that a reply hands out. -/
def status? : (op : NativeOp) → op.Reply → Option StatusWord
  | malloc .., r | createInstance .., r | createDevice .., r | createSession .., r
  | createList .., r | pushReference .., r | allocateView .., r => r.status
  | registerTypes _, status | resolveTypes _, status | appendModule .., status
  | callByName .., status => status
  | readBuffer .., r => r.1
  | _, _ => none

/-- The reference that a failed push leaves behind. -/
def leftover? : (op : NativeOp) → op.Reply → Option Nat
  | pushReference .., pushed => pushed.address
  | _, _ => none

/-- The function is there for statuses and their texts. -/
def settles : NativeOp → Bool
  | renderStatus .. | freeStatus _ | free .. => true
  | _ => false

/-- The error about a function that fails with a code and a message.  It names the function.  A
module that cannot be copied is reported as a lack of resources, in whose text the failure of the
allocation stands. -/
def failure : NativeOp → StatusCode → String → BridgeError
  | malloc _ length, code, message =>
    let what := s!"copying {length} module bytes"
    let allocation := s!"iree_allocator_malloc failed ({code.name}): {message}"
    .resourceExhausted s!"{what}: {allocation}"
  | op, code, message => .status op.symbol code message

/-- A function that leaves nothing behind when it fails and whose error carries the code and the
message themselves. -/
structure Plain (op : NativeOp) : Prop where
  settles_eq : op.settles = false
  leftover_eq : ∀ reply, op.leftover? reply = none
  failure_eq : ∀ code message, op.failure code message = .status op.symbol code message

/-- A function that has nothing to do with statuses. -/
structure Quiet (op : NativeOp) : Prop where
  settles_eq : op.settles = false
  status_eq : ∀ reply, op.status? reply = none

end NativeOp

namespace Rendering

/-- The message that a text is cut to. -/
def message? : Rendering → Option String
  | buffer _ bytes => some (truncate (Utf8.decodeLossy bytes) Native.maxMessageLength)
  | failed | noBuffer => none

/-- The buffer with the text. -/
def buffer? : Rendering → Option Nat
  | buffer address _ => some address
  | failed | noBuffer => none

end Rendering

namespace Native

/-- The calls that use a status up, with what its rendering replied if it was rendered. -/
def settlement (word : StatusWord) (rendering : Option Rendering) : List (Item Native) :=
  (rendering.toList.flatMap fun r =>
    .called (.renderStatus word .system) r ::
      r.buffer?.toList.map fun address => .called (.free .system address) ()) ++
    [.called (.freeStatus word) ()]

/-- The message about a status. -/
def messageOf (rendering : Option Rendering) : String :=
  (rendering.bind Rendering.message?).getD fallbackMessage

/-- A call that failed, and what the rendering of its status replied if it was rendered. -/
structure Failure where
  /-- The function. -/
  op : NativeOp
  /-- Its reply. -/
  reply : op.Reply
  /-- The status. -/
  word : StatusWord
  /-- The reply hands the status out. -/
  reported : op.status? reply = some word
  /-- The reply of the rendering. -/
  rendering : Option Rendering

namespace Failure

/-- The failing call and what it leads to: a reference that it left behind is released, and the
status is used up. -/
def calls (f : Failure) : List (Item Native) :=
  .called f.op f.reply :: ((f.op.leftover? f.reply).toList.map fun left =>
    .called (.releaseReference left) ()) ++ settlement f.word f.rendering

/-- The error about a failure. -/
def error (f : Failure) : BridgeError :=
  f.op.failure (.ofWord f.word) (messageOf f.rendering)

end Failure

/-- The calls are made up of those of the failures, in order, and of calls that have nothing to do
with statuses. -/
inductive Accounted (renders : Bool) : List (Item Native) → List Failure → Prop where
  | nil : Accounted renders [] []
  | quiet {op : NativeOp} {reply : op.Reply} {cs : List (Item Native)} {failures : List Failure}
      (hstatus : op.status? reply = none) (hsettles : op.settles = false)
      (rest : Accounted renders cs failures) :
      Accounted renders (.called op reply :: cs) failures
  | failure {f : Failure} {cs : List (Item Native)} {failures : List Failure}
      (hrenders : f.rendering.isSome = renders) (rest : Accounted renders cs failures) :
      Accounted renders (f.calls ++ cs) (f :: failures)

section Accounted

variable {renders : Bool} {cs later : List (Item Native)} {failures more : List Failure}

lemma Accounted.append (h : Accounted renders cs failures) (h' : Accounted renders later more) :
    Accounted renders (cs ++ later) (failures ++ more) := by
  induction h with
  | nil => exact h'
  | quiet hstatus hsettles _ ih => exact .quiet hstatus hsettles ih
  | failure hrenders _ ih =>
    rw [List.append_assoc]
    exact .failure hrenders ih

lemma accounted_quiet {op : NativeOp} {reply : op.Reply} (hop : op.Quiet) :
    Accounted renders [.called op reply] [] := .quiet (hop.status_eq reply) hop.settles_eq .nil

lemma accounted_failure (f : Failure) (h : f.rendering.isSome = renders) :
    Accounted renders f.calls [f] := by
  have hcalls : Accounted renders (f.calls ++ []) [f] := .failure h .nil
  rwa [List.append_nil] at hcalls

end Accounted

/-! ## Checks -/

variable {renders : Bool} {α β : Type} {cs : List (Item Native)}

lemma makes_call {op : NativeOp} {r : op.Reply}
    (h : (Program.perform (I := Native) op).Makes cs r) : cs = [.called op r] :=
  Program.makes_perform_iff.1 h

lemma render_makes {word : StatusWord} {message : Option String}
    (h : (render renders word).Makes cs message) :
    ∃ rendering : Option Rendering, rendering.isSome = renders ∧
      message = rendering.bind Rendering.message? ∧
      cs ++ [.called (.freeStatus word) ()] = settlement word rendering := by
  unfold render at h
  split at h
  · rename_i hrenders
    obtain ⟨_, later, rendering, rfl, hrender, hrest⟩ := Program.makes_bind_iff.1 h
    obtain rfl := makes_call hrender
    refine ⟨some rendering, hrenders.symm, ?_⟩
    cases rendering with
    | failed =>
      obtain ⟨rfl, rfl⟩ := Program.makes_done_iff.1 hrest
      exact ⟨rfl, rfl⟩
    | noBuffer =>
      obtain ⟨rfl, rfl⟩ := Program.makes_done_iff.1 hrest
      exact ⟨rfl, rfl⟩
    | buffer address bytes =>
      obtain ⟨_, _, _, rfl, hfree, hdone⟩ := Program.makes_bind_iff.1 hrest
      obtain rfl := makes_call hfree
      obtain ⟨rfl, rfl⟩ := Program.makes_done_iff.1 hdone
      exact ⟨rfl, rfl⟩
  · rename_i hrenders
    obtain ⟨rfl, rfl⟩ := Program.makes_done_iff.1 h
    exact ⟨none, (Bool.eq_false_iff.2 hrenders).symm, rfl, rfl⟩

/-- **A check** does nothing about success, and uses any status up. -/
lemma check_makes {symbol : String} {status : Option StatusWord} {r : Except BridgeError Unit}
    (h : (check renders symbol status).run.Makes cs r) :
    (status = none ∧ cs = [] ∧ r = .ok ()) ∨
      ∃ word rendering, status = some word ∧ rendering.isSome = renders ∧
        cs = settlement word rendering ∧
        r = .error (.status symbol (.ofWord word) (messageOf rendering)) := by
  cases status with
  | none =>
    obtain ⟨rfl, rfl⟩ := Program.makes_done_iff.1 h
    exact .inl ⟨rfl, rfl, rfl⟩
  | some word =>
    right
    rcases Action.makes_bind_iff.1 h with ⟨e, -, hrender⟩ | ⟨first, _, message, rfl, hrender, hrest⟩
    · obtain ⟨_, he, -⟩ := Action.makes_always_iff.1 hrender
      cases he
    obtain ⟨_, hmessage, hrender⟩ := Action.makes_always_iff.1 hrender
    cases hmessage
    obtain ⟨rendering, hrenders, rfl, hcalls⟩ := render_makes hrender
    rcases Action.makes_bind_iff.1 hrest with ⟨e, -, hfree⟩ | ⟨_, _, _, rfl, hfree, hthrow⟩
    · obtain ⟨_, he, -⟩ := Action.makes_always_iff.1 hfree
      cases he
    obtain ⟨_, -, hfree⟩ := Action.makes_always_iff.1 hfree
    obtain rfl := makes_call hfree
    obtain ⟨rfl, rfl⟩ := Program.makes_done_iff.1 hthrow
    refine ⟨word, rendering, rfl, hrenders, ?_, rfl⟩
    rw [List.append_nil]
    exact hcalls

/-! ## Actions that settle their failures -/

/-- The action meets at most one failure, and if it meets one, it fails with its error. -/
def Settles (renders : Bool) (x : Action Native α) : Prop :=
  ∀ cs r, x.run.Makes cs r → ∃ failure : Option Failure,
    Accounted renders cs failure.toList ∧ ∀ f ∈ failure, r = .error f.error

lemma Settles.pure (a : α) : Settles renders (pure a : Action Native α) := by
  intro cs r h
  obtain ⟨rfl, rfl⟩ := Program.makes_done_iff.1 h
  exact ⟨none, .nil, by simp⟩

lemma Settles.throw (e : BridgeError) : Settles renders (throw e : Action Native α) := by
  intro cs r h
  obtain ⟨rfl, rfl⟩ := Program.makes_done_iff.1 h
  exact ⟨none, .nil, by simp⟩

lemma Settles.bind {x : Action Native α} {f : α → Action Native β} (hx : Settles renders x)
    (hf : ∀ a, Settles renders (f a)) : Settles renders (x >>= f) := by
  intro cs r h
  rcases Action.makes_bind_iff.1 h with ⟨e, rfl, hfirst⟩ | ⟨first, second, a, rfl, hfirst, hsecond⟩
  · obtain ⟨failure, haccounted, herror⟩ := hx _ _ hfirst
    refine ⟨failure, haccounted, fun f hmem => ?_⟩
    cases herror f hmem
    rfl
  -- An action that has succeeded has met no failure.
  · obtain ⟨failure, hfirst, herror⟩ := hx _ _ hfirst
    obtain ⟨failure', hsecond, herror'⟩ := hf a _ _ hsecond
    cases failure with
    | none => exact ⟨failure', hfirst.append hsecond, herror'⟩
    | some f => cases herror f rfl

lemma settles_always {p : Program Native α}
    (hp : ∀ cs a, p.Makes cs a → Accounted renders cs []) : Settles renders (.always p) := by
  intro cs r h
  obtain ⟨a, rfl, hmakes⟩ := Action.makes_always_iff.1 h
  exact ⟨none, hp cs a hmakes, by simp⟩

lemma settles_quiet {op : NativeOp} (hop : op.Quiet) :
    Settles renders (.always (.perform (I := Native) op)) :=
  settles_always fun cs a h => by
    obtain rfl := makes_call h
    exact accounted_quiet hop

lemma Settles.onFailure {x : Action Native α} (hx : Settles renders x)
    {release : Program Native Unit}
    (hrelease : ∀ cs, release.Makes cs () → Accounted renders cs []) :
    Settles renders (x.onFailure release) := by
  intro cs r h
  rcases Action.makes_onFailure_iff.1 h with
    ⟨a, rfl, hmakes⟩ | ⟨e, first, second, rfl, rfl, hmakes, hsecond⟩
  · exact hx _ _ hmakes
  · obtain ⟨failure, hfirst, herror⟩ := hx _ _ hmakes
    refine ⟨failure, ?_, herror⟩
    have happend := hfirst.append (hrelease _ hsecond)
    rwa [List.append_nil] at happend

/-- A call whose status is checked at once. -/
lemma settles_checked (op : NativeOp) (plain : op.Plain) {status : op.Reply → Option StatusWord}
    (hstatus : ∀ reply, op.status? reply = status reply) {k : op.Reply → Action Native α}
    (hk : ∀ reply, Settles renders (k reply)) :
    Settles renders (do
      let reply ← Action.always (.perform (I := Native) op)
      check renders op.symbol (status reply)
      k reply) := by
  intro cs r h
  rcases Action.makes_bind_iff.1 h with ⟨e, rfl, hcall⟩ | ⟨_, rest, reply, rfl, hcall, hrest⟩
  · obtain ⟨_, he, -⟩ := Action.makes_always_iff.1 hcall
    cases he
  obtain ⟨_, hreply, hcall⟩ := Action.makes_always_iff.1 hcall
  cases hreply
  obtain rfl := makes_call hcall
  rcases Action.makes_bind_iff.1 hrest with ⟨e, rfl, hcheck⟩ | ⟨first, last, _, rfl, hcheck, hlast⟩
  · rcases check_makes hcheck with ⟨-, -, he⟩ | ⟨word, rendering, hword, hrenders, rfl, he⟩
    · cases he
    cases he
    let f : Failure := ⟨op, reply, word, (hstatus reply).trans hword, rendering⟩
    refine ⟨some f, ?_, ?_⟩
    · have haccounted := accounted_failure f hrenders
      rwa [Failure.calls, plain.leftover_eq] at haccounted
    · rintro f ⟨⟩
      rw [Failure.error, plain.failure_eq]
  · rcases check_makes hcheck with ⟨hnone, rfl, -⟩ | ⟨word, rendering, -, -, -, he⟩
    · obtain ⟨failure, haccounted, herror⟩ := hk reply _ _ hlast
      exact ⟨failure, .quiet ((hstatus reply).trans hnone) plain.settles_eq haccounted, herror⟩
    · cases he

lemma settles_attempt (op : NativeOp) (plain : op.Plain) {status : op.Reply → Option StatusWord}
    (hstatus : ∀ reply, op.status? reply = status reply) :
    Settles renders (do
      let reply ← Action.always (.perform (I := Native) op)
      check renders op.symbol (status reply)) := by
  have hunit : ∀ x : Action Native Unit, (x >>= fun _ => Pure.pure ()) = x := bind_pure
  have hchecked : Settles renders _ := settles_checked op plain hstatus fun _ => Settles.pure ()
  simpa only [hunit] using hchecked

/-! ## The operations of a runtime -/

/-- Taking an address that may be null. -/
lemma settles_address {address : Option Nat} {missing : BridgeError} :
    Settles renders (match address with
      | some a => pure a
      | none => throw missing : Action Native Nat) := by
  cases address with
  | none => exact .throw missing
  | some a => exact .pure a

lemma registerTypes_settles (inst : Nat) : Settles renders (registerTypes renders inst) := by
  unfold registerTypes
  refine .bind (settles_quiet ⟨rfl, fun _ => rfl⟩) fun vm => ?_
  cases vm with
  | none => exact .throw _
  | some vm =>
    refine .bind ?_ fun _ => ?_
    · exact settles_attempt (.registerTypes vm) ⟨rfl, fun _ => rfl, fun _ _ => rfl⟩ fun _ => rfl
    · exact settles_attempt (.resolveTypes vm) ⟨rfl, fun _ => rfl, fun _ _ => rfl⟩ fun _ => rfl

lemma createInstance_settles : Settles renders (createInstance renders) := by
  unfold createInstance
  refine .bind (settles_quiet ⟨rfl, fun _ => rfl⟩) fun options => ?_
  refine .bind (settles_quiet ⟨rfl, fun _ => rfl⟩) fun options => ?_
  refine .bind ?_ fun inst => .bind (.onFailure (registerTypes_settles inst) ?_) fun _ => .pure _
  · exact settles_checked (.createInstance options .system)
      ⟨rfl, fun _ => rfl, fun _ _ => rfl⟩ (fun _ => rfl) fun _ => settles_address
  · intro cs h
    obtain rfl := makes_call h
    exact accounted_quiet ⟨rfl, fun _ => rfl⟩

lemma createDevice_settles (inst : Handle .runtimeInstance) (driver : String) :
    Settles renders (createDevice renders inst driver) := by
  refine .bind ?_ fun device => .pure _
  exact settles_checked (.createDevice inst.address driver)
    ⟨rfl, fun _ => rfl, fun _ _ => rfl⟩ (fun _ => rfl) fun _ => settles_address

lemma createSession_settles (inst : Handle .runtimeInstance) (device : Handle .device) :
    Settles renders (createSession renders inst device) := by
  refine .bind (settles_quiet ⟨rfl, fun _ => rfl⟩) fun options => ?_
  refine .bind (settles_quiet ⟨rfl, fun _ => rfl⟩) fun allocator => ?_
  refine .bind ?_ fun session => .pure _
  exact settles_checked (.createSession inst.address options device.address allocator)
    ⟨rfl, fun _ => rfl, fun _ _ => rfl⟩ (fun _ => rfl) fun _ => settles_address

lemma createList_settles (capacity : Nat) : Settles renders (createList renders capacity) := by
  refine .bind ?_ fun list => .pure _
  exact settles_checked (.createList anyListType capacity .system)
    ⟨rfl, fun _ => rfl, fun _ _ => rfl⟩ (fun _ => rfl) fun _ => settles_address

lemma uploadView_settles (session : Handle .session) (dims : List UInt64) (code : UInt32)
    (data : List UInt8) : Settles renders (uploadView renders session dims code data) := by
  refine .bind (settles_quiet ⟨rfl, fun _ => rfl⟩) fun device => ?_
  refine .bind (settles_quiet ⟨rfl, fun _ => rfl⟩) fun allocator => ?_
  refine .bind ?_ fun view => .pure _
  exact settles_checked
    (.allocateView device allocator dims code denseRowMajor .deviceLocal data)
    ⟨rfl, fun _ => rfl, fun _ _ => rfl⟩ (fun _ => rfl) fun _ => settles_address

lemma readView_settles (view : Handle .view) (length : Nat) :
    Settles renders (readView renders view length) := by
  unfold readView
  split
  · exact .pure _
  · refine .bind (settles_quiet ⟨rfl, fun _ => rfl⟩) fun buffer => ?_
    cases buffer with
    | none => exact .throw _
    | some buffer =>
      exact settles_checked (.readBuffer buffer 0 length)
        ⟨rfl, fun _ => rfl, fun _ _ => rfl⟩ (fun _ => rfl) fun _ => .pure _

lemma makes_always_call {op : NativeOp} {r : Except BridgeError op.Reply}
    (h : (Action.always (.perform (I := Native) op)).run.Makes cs r) :
    ∃ reply, r = .ok reply ∧ cs = [.called op reply] := by
  obtain ⟨reply, rfl, hcall⟩ := Action.makes_always_iff.1 h
  exact ⟨reply, rfl, makes_call hcall⟩

/-- **A push that fails** may leave the reference behind, which is released before the status is
used up. -/
lemma pushView_settles (list : Handle .list) (view : Handle .view) :
    Settles renders (pushView renders list view) := by
  refine .bind (settles_quiet ⟨rfl, fun _ => rfl⟩) fun reference => ?_
  intro cs r h
  rcases Action.makes_bind_iff.1 h with ⟨e, rfl, hpush⟩ | ⟨_, rest, pushed, rfl, hpush, hrest⟩
  · obtain ⟨_, he, -⟩ := makes_always_call hpush
    cases he
  obtain ⟨_, hpushed, rfl⟩ := makes_always_call hpush
  cases hpushed
  obtain ⟨status, left⟩ := pushed
  cases status with
  | none =>
    rcases check_makes hrest with ⟨-, rfl, rfl⟩ | ⟨word, rendering, hword, -⟩
    · exact ⟨none, .quiet rfl rfl .nil, by simp⟩
    · cases hword
  | some word =>
    have hlast : ∃ last,
        rest = (left.toList.map fun a => .called (.releaseReference a) ()) ++ last ∧
        (check renders "iree_vm_list_push_ref_move" (some word)).run.Makes last r := by
      cases left with
      | none => exact ⟨rest, rfl, hrest⟩
      | some left =>
        rcases Action.makes_bind_iff.1 hrest with
          ⟨e, -, hrelease⟩ | ⟨_, last, _, rfl, hrelease, hlast⟩
        · obtain ⟨_, he, -⟩ := makes_always_call hrelease
          cases he
        · obtain ⟨_, -, rfl⟩ := makes_always_call hrelease
          exact ⟨last, rfl, hlast⟩
    obtain ⟨last, rfl, hcheck⟩ := hlast
    rcases check_makes hcheck with ⟨hnone, -⟩ | ⟨_, rendering, hword, hrenders, rfl, rfl⟩
    · cases hnone
    · cases hword
      let f : Failure :=
        ⟨.pushReference list.address reference, ⟨some word, left⟩, word, rfl, rendering⟩
      refine ⟨some f, accounted_failure f hrenders, ?_⟩
      rintro _ ⟨⟩
      rfl

/-- **A module that cannot be copied** is reported as a lack of resources. -/
lemma appendModule_settles (session : Handle .session) (image : List UInt8) :
    Settles renders (appendModule renders session image) := by
  intro cs r h
  rcases Action.makes_bind_iff.1 h with ⟨e, rfl, hcall⟩ | ⟨_, rest, produced, rfl, hcall, hrest⟩
  · obtain ⟨_, he, -⟩ := makes_always_call hcall
    cases he
  obtain ⟨_, hproduced, rfl⟩ := makes_always_call hcall
  cases hproduced
  rcases Action.makes_bind_iff.1 hrest with
    ⟨e, rfl, hcheck⟩ | ⟨_, last, checked, rfl, hcheck, hlast⟩
  · obtain ⟨_, he, -⟩ := Action.makes_always_iff.1 hcheck
    cases he
  obtain ⟨_, hchecked, hcheck⟩ := Action.makes_always_iff.1 hcheck
  cases hchecked
  obtain ⟨status, address⟩ := produced
  rcases check_makes hcheck with ⟨hnone, rfl, rfl⟩ | ⟨word, rendering, hword, hrenders, rfl, rfl⟩
  · obtain rfl : status = none := hnone
    have hsettled : ∃ failure : Option Failure,
        Accounted renders last failure.toList ∧ ∀ f ∈ failure, r = .error f.error := by
      cases address with
      | none => exact Settles.throw _ _ _ hlast
      | some a =>
        exact settles_attempt (.appendModule session.address image .system)
          ⟨rfl, fun _ => rfl, fun _ _ => rfl⟩ (fun _ => rfl) _ _ hlast
    obtain ⟨failure, haccounted, herror⟩ := hsettled
    exact ⟨failure, .quiet rfl rfl haccounted, herror⟩
  · obtain rfl : status = some word := hword
    obtain ⟨rfl, rfl⟩ := Program.makes_done_iff.1 hlast
    let f : Failure := ⟨.malloc .system image.length, ⟨some word, address⟩, word, rfl, rendering⟩
    refine ⟨some f, ?_, ?_⟩
    · rw [List.append_nil]
      exact accounted_failure f hrenders
    · rintro _ ⟨⟩
      rfl

lemma accounted_of_call {op : NativeOp} (hop : op.Quiet) {r : op.Reply}
    (h : (Program.perform (I := Native) op).Makes cs r) : Accounted renders cs [] := by
  obtain rfl := makes_call h
  exact accounted_quiet hop

lemma Settles.errorOf {x : Action Native α} (hx : Settles renders x) {r : Except BridgeError α}
    (h : x.run.Makes cs r) : ∃ failure : Option Failure,
      Accounted renders cs failure.toList ∧ ∀ f ∈ failure, errorOf? r = some f.error := by
  obtain ⟨failure, haccounted, herror⟩ := hx cs r h
  exact ⟨failure, haccounted, fun f hmem => errorOf?_eq_some_iff.2 (herror f hmem)⟩

/-- **An operation of a runtime** meets at most one failure, and if it meets one, it fails with the
error that tells about it. -/
theorem perform_settles (op : BackendOp) {reply : op.Reply}
    (h : (perform renders op).Makes cs reply) : ∃ failure : Option Failure,
      Accounted renders cs failure.toList ∧ ∀ f ∈ failure, op.failure? reply = some f.error := by
  cases op with
  | createInstance => exact createInstance_settles.errorOf h
  | createDevice inst driver => exact (createDevice_settles inst driver).errorOf h
  | createSession inst device => exact (createSession_settles inst device).errorOf h
  | appendModule session image => exact (appendModule_settles session image).errorOf h
  | createList capacity => exact (createList_settles capacity).errorOf h
  | uploadView session dims code data => exact (uploadView_settles session dims code data).errorOf h
  | pushView list view => exact (pushView_settles list view).errorOf h
  | call session entry inputs outputs =>
    exact (settles_attempt (.callByName session.address entry inputs.address outputs.address)
      ⟨rfl, fun _ => rfl, fun _ _ => rfl⟩ fun _ => rfl).errorOf h
  | readView view length => exact (readView_settles view length).errorOf h
  | releaseInstance inst => exact ⟨none, accounted_of_call ⟨rfl, fun _ => rfl⟩ h, by simp⟩
  | releaseDevice device => exact ⟨none, accounted_of_call ⟨rfl, fun _ => rfl⟩ h, by simp⟩
  | releaseSession session => exact ⟨none, accounted_of_call ⟨rfl, fun _ => rfl⟩ h, by simp⟩
  | releaseList list => exact ⟨none, accounted_of_call ⟨rfl, fun _ => rfl⟩ h, by simp⟩
  | listLength list => exact ⟨none, accounted_of_call ⟨rfl, fun _ => rfl⟩ h, by simp⟩
  | viewCode view => exact ⟨none, accounted_of_call ⟨rfl, fun _ => rfl⟩ h, by simp⟩
  | viewByteLength view => exact ⟨none, accounted_of_call ⟨rfl, fun _ => rfl⟩ h, by simp⟩
  | viewAt list index =>
    obtain ⟨_, _, view, rfl, hcall, hdone⟩ := Program.makes_bind_iff.1 h
    obtain ⟨rfl, -⟩ := Program.makes_done_iff.1 hdone
    exact ⟨none, (accounted_of_call ⟨rfl, fun _ => rfl⟩ hcall).append .nil, by simp⟩
  | viewDims view =>
    obtain ⟨_, _, rank, rfl, hrank, hrest⟩ := Program.makes_bind_iff.1 h
    obtain ⟨_, _, dims, rfl, hdims, hdone⟩ := Program.makes_bind_iff.1 hrest
    obtain ⟨rfl, -⟩ := Program.makes_done_iff.1 hdone
    have hrank : Accounted renders _ [] := accounted_of_call ⟨rfl, fun _ => rfl⟩ hrank
    have hdims : Accounted renders _ [] := accounted_of_call ⟨rfl, fun _ => rfl⟩ hdims
    exact ⟨none, hrank.append (hdims.append .nil), by simp⟩

end Native

end TensorBridge
