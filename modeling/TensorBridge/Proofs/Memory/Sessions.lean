import Mathlib
import TensorBridge.Proofs.Memory.Operations

/-!
# Sessions on the runtime in memory

What comes of making and destroying a session on the runtime in memory.  Whether a session is made,
and with which driver, depends on the setting and the arguments alone: `Setting.creation` tells it.
A session that is made holds three addresses until it is destroyed; an attempt that fails holds
none.
-/

namespace TensorBridge

namespace Memory

open Backend Holds

/-! ## The choice of a driver -/

namespace Setting

/-- The driver that is chosen: the first that does not fail.  If all fail, the failure of the last
one stands. -/
def pick (s : Setting) (drivers : List String) : Except BridgeError String :=
  match drivers.find? (· ∉ s.failing), drivers.getLast? with
  | some driver, _ => .ok driver
  | none, some last => .error (noDevice last)
  | none, none => .error (.unavailable "no device drivers configured")

/-- The driver of a new session, or why there is none. -/
def creation (s : Setting) (image : List UInt8) (drivers : List String) :
    Except BridgeError String :=
  if image.isEmpty then .error (.invalidArgument "module" "module image is empty")
  else if .onInstance ∈ s.faults then .error (injected "create_instance")
  else
    match s.pick drivers with
    | .error e => .error e
    | .ok driver =>
      if .onSession ∈ s.faults then .error (injected "create_session")
      else if .onModule ∈ s.faults then .error (injected "append_module")
      else .ok driver

end Setting

variable {s : Setting} {live : List Nat} {lists : List (Nat × List MemorySlot)}
  {made : List (Nat × Content)} {bag : Multiset Nat} {m : Memory}

/-! ## Making and destroying sessions -/

/-- The addresses that a session holds. -/
def addresses (session : Session) : List Nat :=
  [session.session.address, session.device.address, session.inst.address]

lemma pick_cons_of_not_mem {driver : String} {rest : List String} (h : driver ∉ s.failing) :
    s.pick (driver :: rest) = .ok driver := by
  simp [Setting.pick, h]

lemma pick_cons_of_mem {driver next : String} {rest : List String} (h : driver ∈ s.failing) :
    s.pick (driver :: next :: rest) = s.pick (next :: rest) := by
  have hfind : (driver :: next :: rest).find? (· ∉ s.failing) =
      (next :: rest).find? (· ∉ s.failing) := List.find?_cons_of_neg (by simpa using h)
  rw [Setting.pick, Setting.pick, hfind, List.getLast?_cons_cons]

lemma pick_singleton_of_mem {driver : String} (h : driver ∈ s.failing) :
    s.pick [driver] = .error (noDevice driver) := by
  simp [Setting.pick, h]

lemma selectDevice_meets {inst : Handle .runtimeInstance} {drivers : List String}
    (h : Holds s live lists made bag m) :
    (Session.selectDevice inst drivers).Meets watch m
      (fun r m' => s.pick drivers = .ok r.2 ∧ Holds s (r.1.address :: live) lists made bag m')
      (fun e m' => s.pick drivers = .error e ∧ Holds s live lists made bag m') := by
  induction drivers generalizing m with
  | nil => exact ⟨rfl, h⟩
  | cons driver rest ih =>
    cases rest with
    | nil =>
      simp only [Session.selectDevice, Action.meets_bind, Action.meets_ofProgram,
        Action.meets_pure]
      refine createDevice_keeps h (fun hd b m' hm => ?_) fun hd m' hm => ?_
      · exact ⟨pick_cons_of_not_mem hd, hm⟩
      · exact ⟨pick_singleton_of_mem hd, hm⟩
    | cons next rest =>
      simp only [Session.selectDevice, Action.meets_ofProgram, Program.keeps_bind]
      refine createDevice_keeps h (fun hd b m' hm => ?_) fun hd m' hm => ?_
      · exact ⟨pick_cons_of_not_mem hd, hm⟩
      · rw [pick_cons_of_mem hd]
        exact ih hm

/-- **Making a session.** -/
theorem create_meets {description : String} {image : List UInt8} {drivers : List String}
    (h : Holds s live lists made bag m) :
    (Session.create description image drivers).Meets watch m
      (fun session m' => s.creation image drivers = .ok session.driver ∧
        session.stage = .moduleLoaded ∧ session.invocations = 0 ∧
        Holds s (addresses session ++ live) lists made bag m')
      (fun e m' => s.creation image drivers = .error e ∧ Holds s live lists made bag m') := by
  unfold Session.create
  split_ifs with hempty
  · exact ⟨by simp [Setting.creation, hempty], h⟩
  simp only [Action.meets_bind, Action.meets_onFailure]
  refine createInstance_meets h (fun hinst i m₁ h₁ => ?_) fun hinst m₁ h₁ => ?_
  · refine (selectDevice_meets h₁).mono ?_ ?_
    · rintro ⟨device, driver⟩ m₂ ⟨hpick, h₂⟩
      refine createSession_meets h₂ (fun hsess b m₃ h₃ => ?_) fun hsess m₃ h₃ => ?_
      · simp only [Session.loadModule, Action.meets_bind, Action.meets_always,
          Program.keeps_notify, Action.meets_pure]
        refine appendModule_meets h₃ (fun hmod m₄ h₄ => ?_) fun hmod m₄ h₄ => ?_
        · exact ⟨by simp [Setting.creation, hempty, hinst, hpick, hsess, hmod], rfl, trivial, h₄⟩
        · refine (releaseSession_keeps h₄).mono fun _ m₅ h₅ => ?_
          refine (releaseDevice_keeps h₅).mono fun _ m₆ h₆ => ?_
          refine (releaseInstance_keeps h₆).mono fun _ m₇ h₇ => ?_
          exact ⟨by simp [Setting.creation, hempty, hinst, hpick, hsess, hmod], h₇⟩
      · refine (releaseDevice_keeps h₃).mono fun _ m₄ h₄ => ?_
        refine (releaseInstance_keeps h₄).mono fun _ m₅ h₅ => ?_
        exact ⟨by simp [Setting.creation, hempty, hinst, hpick, hsess], h₅⟩
    · rintro e m₂ ⟨hpick, h₂⟩
      refine (releaseInstance_keeps h₂).mono fun _ m₃ h₃ => ?_
      exact ⟨by simp [Setting.creation, hempty, hinst, hpick], h₃⟩
  · exact ⟨by simp [Setting.creation, hempty, hinst], h₁⟩

/-- **Destroying a session.** -/
theorem destroy_keeps {session : Session}
    (h : Holds s (addresses session ++ live) lists made bag m) :
    session.destroy.Keeps watch m fun _ m' => Holds s live lists made bag m' := by
  simp only [Session.destroy, Program.keeps_bind]
  refine (releaseSession_keeps h).mono fun _ m₁ h₁ => ?_
  refine (releaseDevice_keeps h₁).mono fun _ m₂ h₂ => ?_
  exact releaseInstance_keeps h₂

end Memory

end TensorBridge
