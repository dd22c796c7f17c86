import TensorBridge.Proofs.Library.Balance
import TensorBridge.Proofs.Library.Loading
import TensorBridge.Proofs.Library.Unloading

/-!
# Working with a session in a process

What happens when a process that has a library for general use makes a session, invokes it and
destroys it.  All of it happens on this library, and no library is opened or closed.
-/

namespace TensorBridge

open Program (Item)

/-- The calls that give back a session on a library, the newest part first. -/
def Session.ending (s : Session) (library : Library) : List (Item Host) :=
  [.called (.native library.id (.releaseSession s.session.address)) (),
    .called (.native library.id (.releaseDevice s.device.address)) (),
    .called (.native library.id (.releaseInstance s.inst.address)) ()]

lemma Library.runs_destroy_iff {library : Library} {s : Session} {items : List (Item Host)}
    {u : Unit} :
    (library.host s.destroy).Runs items u ↔ items = s.ending library := by
  have hdestroy : library.host s.destroy =
      .call (.native library.id (.releaseSession s.session.address)) fun _ =>
        .call (.native library.id (.releaseDevice s.device.address)) fun _ =>
          .call (.native library.id (.releaseInstance s.inst.address)) fun _ => .done () := rfl
  rw [hdestroy]
  constructor
  · intro run
    obtain ⟨_, _, rfl, hdevice⟩ := Program.runs_call_iff.1 run
    obtain ⟨_, _, rfl, hinst⟩ := Program.runs_call_iff.1 hdevice
    obtain ⟨_, _, rfl, hdone⟩ := Program.runs_call_iff.1 hinst
    obtain ⟨rfl, -⟩ := Program.runs_done_iff.1 hdone
    rfl
  · rintro rfl
    exact .call (.call (.call (.done _)))

namespace Desk

variable {d d' : Desk} {items : List (Item Host)} {library : Library} {name entry : String}
  {image : List UInt8} {inputs : List Tensor} {s : HostedSession}

/-- The desk after an attempt to make a session on a library. -/
def attempted (d : Desk) (library : Library) : Except BridgeError Session → Desk
  | .ok _ => d.hosting library
  | .error _ => d

/-- An empty module is refused as it is by the session itself. -/
lemma createSession_apply (hshared : d.shared = some library) : createSession image d =
    library.host (Session.create library.description image defaultDrivers).run >>= fun made =>
      .done (made.map (⟨·, library⟩), d.attempted library made) := by
  unfold createSession
  split_ifs with hempty
  · unfold Session.create
    rw [if_pos hempty]
    rfl
  · simp only [runtime, Desk.search, createOn, bind_apply, get_apply, pure_apply, onHost_apply,
      loadWith_of_some hshared, Program.done_bind, Program.bind_assoc]
    congr 1
    funext made
    cases made <;> rfl

/-- **Making a session** on the library for general use. -/
theorem runs_createSession_iff (hshared : d.shared = some library)
    {r : Except BridgeError HostedSession} :
    (createSession image d).Runs items (r, d') ↔ ∃ made, r = made.map (⟨·, library⟩) ∧
      d' = d.attempted library made ∧
      (library.host (Session.create library.description image defaultDrivers).run).Runs
        items made := by
  rw [createSession_apply hshared, Program.runs_bind_done_iff]
  constructor
  · rintro ⟨made, heq, run⟩
    obtain ⟨rfl, rfl⟩ := Prod.mk_inj.1 heq
    exact ⟨made, rfl, rfl, run⟩
  · rintro ⟨made, rfl, rfl, run⟩
    exact ⟨made, rfl, run⟩

/-- Naming the first session that has a name. -/
lemma addSession_of_fresh (h : d.sessions.get? name = none) :
    addSession name s d = .done ((), { d with sessions := d.sessions.insert name s }) := by
  simp only [addSession, bind_apply, get_apply, modify_apply, Program.done_bind, h, pure_apply]

/-- **Invoking a session.** -/
theorem runs_invoke_iff {r : Except BridgeError (List Tensor)} :
    (invoke name entry s inputs d).Runs items (r, d') ↔ ∃ session,
      d' = { d with sessions := d.sessions.insert name { s with session := session } } ∧
        (s.library.host (s.session.invoke entry inputs)).Runs items (r, session) := by
  have hinvoke : invoke name entry s inputs d = s.library.host (s.session.invoke entry inputs) >>=
      fun r => .done (r.1,
        { d with sessions := d.sessions.insert name { s with session := r.2 } }) := by
    simp only [invoke, bind_apply, onHost_apply, modify_apply, pure_apply, Program.done_bind,
      Program.bind_assoc]
  rw [hinvoke, Program.runs_bind_done_iff]
  constructor
  · rintro ⟨⟨r', session⟩, heq, run⟩
    obtain ⟨rfl, rfl⟩ := Prod.mk_inj.1 heq
    exact ⟨session, rfl, run⟩
  · rintro ⟨session, rfl, run⟩
    exact ⟨(r, session), rfl, run⟩

/-- Dropping the references of a session to the library for general use. -/
lemma letGoOfSession_of_shared (hshared : d.shared = some library) :
    letGoOfSession library d = .done ((), d.ceding library) := by
  have hletGo {d : Desk} (hshared : d.shared = some library) : letGo library d =
      .done ((), { d with holders := d.holders.erase library.id }) := by
    have hholds : holds { d with holders := d.holders.erase library.id } library = true := by
      simp [holds, hshared]
    simp only [letGo, bind_apply, modify_apply, Program.done_bind, closeUnheld_of_holds hholds]
  simp only [letGoOfSession, bind_apply, Program.done_bind, hletGo, hshared]
  rw [← hshared]
  rfl

/-- **Destroying a session** on the library for general use. -/
theorem runs_destroySession_iff (h : d.sessions.get? name = some s)
    (hshared : d.shared = some s.library) {b : Bool} :
    (destroySession name d).Runs items (b, d') ↔ items = s.session.ending s.library ∧ b = true ∧
      d' = ceding { d with sessions := d.sessions.erase name } s.library := by
  have hdestroy : destroySession name d = s.library.host s.session.destroy >>= fun _ =>
      .done (true, ceding { d with sessions := d.sessions.erase name } s.library) := by
    have hletGo : letGoOfSession s.library { d with sessions := d.sessions.erase name } = _ :=
      letGoOfSession_of_shared hshared
    simp only [destroySession, discard, bind_apply, get_apply, modify_apply, onHost_apply,
      Program.done_bind, Program.bind_assoc, h, hletGo, pure_apply]
  rw [hdestroy, Program.runs_bind_done_iff]
  constructor
  · rintro ⟨_, heq, run⟩
    obtain ⟨rfl, rfl⟩ := Prod.mk_inj.1 heq
    exact ⟨Library.runs_destroy_iff.1 run, rfl, rfl⟩
  · rintro ⟨rfl, rfl, rfl⟩
    exact ⟨(), rfl, Library.runs_destroy_iff.2 rfl⟩

end Desk

end TensorBridge
