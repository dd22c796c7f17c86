import Mathlib
import TensorBridge.Memory.Script
import TensorBridge.Proofs.Memory.Invocation
import TensorBridge.Proofs.NameTable

/-!
# The machine behind scripts

A script on the runtime in memory can be understood without the runtime.  `Memory.Machine` knows
which calls fail, and for every name the driver of the session and the number of its invocations
that succeeded.  It has no addresses, no lists, no views and no references.

* `Memory.Machine.step` tells what every step answers.
* `Memory.Refines` relates the machine to the runtime and the sessions on it: what the runtime holds
  are the addresses of the sessions.
* `Memory.Refines.step` carries it over one step, and `Memory.script_refines` is the result: every
  step of every script answers as the machine does, up to the address of an instance, and no step
  breaks a rule of the runtime.
-/

namespace TensorBridge

namespace Memory

/-- What the machine knows of a session. -/
structure Standing where
  /-- The driver of its device. -/
  driver : String
  /-- The number of invocations that succeeded. -/
  invocations : Nat
deriving DecidableEq, Repr

/-- What the machine answers. -/
inductive Answer where
  /-- The step is done and has nothing to tell. -/
  | done
  /-- A session. -/
  | session (standing : Standing)
  /-- The results of an invocation. -/
  | results (tensors : List Tensor)
  /-- The bridge failed. -/
  | failed (e : BridgeError)
  /-- An input is no tensor. -/
  | badInput (e : TensorError)
  /-- There is no session of the name. -/
  | noSession
deriving DecidableEq, Repr

/-- The machine. -/
structure Machine where
  /-- Which calls fail. -/
  setting : Setting := {}
  /-- The sessions by name. -/
  sessions : String → Option Standing := fun _ => none

namespace Machine

/-- The machine with a session under a name, or with none. -/
def put (a : Machine) (name : String) (standing : Option Standing) : Machine :=
  { a with sessions := Function.update a.sessions name standing }

lemma put_eq_self {a : Machine} {name : String} {standing : Option Standing}
    (h : a.sessions name = standing) : a.put name standing = a := by
  subst h
  rw [put, Function.update_eq_self]

/-- The drivers of a session for which none are named. -/
def usualDrivers : List String := ["local-task", "local-sync"]

/-- Carries out one step. -/
def step (a : Machine) : Step → Answer × Machine
  | .inject fault =>
    (.done, { a with setting := { a.setting with faults := insert fault a.setting.faults } })
  | .failDriver driver =>
    (.done, { a with setting := { a.setting with failing := insert driver a.setting.failing } })
  | .create name image drivers =>
    match a.setting.creation image (drivers.getD usualDrivers) with
    | .error e => (.failed e, a)
    | .ok driver => (.session ⟨driver, 0⟩, a.put name (some ⟨driver, 0⟩))
  | .invoke name entry inputs =>
    match a.sessions name, inputs with
    | none, _ => (.noSession, a)
    | some _, .error e => (.badInput e, a)
    | some standing, .ok inputs =>
      match a.setting.outcome entry inputs with
      | .error e => (.failed e, a)
      | .ok tensors =>
        (.results tensors, a.put name (some ⟨standing.driver, standing.invocations + 1⟩))
  | .inspect name =>
    match a.sessions name with
    | none => (.noSession, a)
    | some standing => (.session standing, a)
  | .destroy name =>
    match a.sessions name with
    | none => (.noSession, a)
    | some _ => (.done, a.put name none)

/-- Carries out steps one after the other and keeps each answer with the machine after it. -/
def steps (a : Machine) : List Step → List (Answer × Machine)
  | [] => []
  | s :: rest => a.step s :: (a.step s).2.steps rest

end Machine

/-! ## What is related -/

/-- What a session shows of itself when its instance has an address. -/
def Standing.summary (standing : Standing) (inst : Nat) : SessionSummary where
  driver := standing.driver
  stage := .moduleLoaded
  invocations := standing.invocations
  backend := "fake runtime"
  description := "VmSession \x7b backend: \"fake runtime\", instance: InstanceHandle(" ++
    s!"0x{String.ofList (hexDigits inst)}), driver: {quoted standing.driver}, " ++
    s!"state: ModuleLoaded, invocations: {standing.invocations} \x7d"

/-- An answer of the machine is that of the bridge, up to the address of an instance. -/
def Answer.Matches : Answer → StepAnswer → Prop
  | .done, .done | .noSession, .noSession => True
  | .session standing, .session summary => ∃ inst, summary = standing.summary inst
  | .results tensors, .results tensors' => tensors = tensors'
  | .failed e, .failed e' => e = e'
  | .badInput e, .badInput e' => e = e'
  | _, _ => False

/-- What the machine knows of a session. -/
def standingOf (session : Session) : Standing := ⟨session.driver, session.invocations⟩

/-- The inputs of a step are such that a host can hold them. -/
def Step.Hosted : Step → Prop
  | .invoke _ _ (.ok inputs) => Memory.Hosted inputs
  | _ => True

instance : DecidablePred Step.Hosted
  | .invoke _ _ (.ok _) => inferInstanceAs (Decidable (_ ∧ _))
  | .invoke _ _ (.error _) | .create .. | .inject _ | .failDriver _ | .inspect _ | .destroy _ =>
    inferInstanceAs (Decidable True)

/-- The addresses that sessions hold. -/
def held (sessions : NameTable Session) : List Nat := sessions.values.flatMap addresses

/-- The machine stands for the runtime and the sessions on it. -/
structure Refines (a : Machine) (w : World) : Prop where
  /-- The runtime holds what the sessions hold, and nothing else. -/
  holds : Holds a.setting (held w.sessions) [] [] 0 w.memory
  /-- The sessions are in order. -/
  ordered : w.sessions.Ordered
  /-- The machine knows every session. -/
  known : ∀ name, a.sessions name = (w.sessions.get? name).map standingOf
  /-- Every session can be invoked. -/
  loaded : ∀ name session, w.sessions.get? name = some session → session.stage = .moduleLoaded

lemma summary_eq {session : Session} (h : session.stage = .moduleLoaded) :
    session.summary description = (standingOf session).summary session.inst.address := by
  obtain ⟨inst, device, native, driver, stage, invocations⟩ := session
  subst h
  rfl

/-- The machine and the bridge have answered alike and are related again. -/
def Agrees (machine : Answer × Machine) (bridge : StepAnswer × World × List Notice) : Prop :=
  machine.1.Matches bridge.1 ∧ Refines machine.2 bridge.2.1

/-! ## Steps -/

namespace Refines

variable {a : Machine} {w : World} {name : String} {session old : Session} {m : Memory}

lemma start : Refines {} {} where
  holds := ⟨rfl, rfl, .refl _, rfl, by simp, rfl, by simp [held, NameTable.values],
    by simp, by simp, by simp⟩
  ordered := NameTable.ordered_empty
  known _ := rfl
  loaded name session h := by simp at h

/-- A session takes the place of another one, whose addresses are given back. -/
lemma put_some (h : Refines a w) (hstage : session.stage = .moduleLoaded)
    (hholds : Holds a.setting
      (addresses session ++ (w.sessions.erase name).values.flatMap addresses) [] [] 0 m) :
    Refines (a.put name (some (standingOf session)))
      { w with memory := m, sessions := w.sessions.insert name session } where
  holds := hholds.perm (h.ordered.values_insert_perm.flatMap_right addresses).symm
  ordered := h.ordered.insert
  known other := by
    rw [NameTable.get?_insert]
    by_cases hother : other = name
    · simp [Machine.put, hother]
    · simp [Machine.put, hother, h.known]
  loaded other session' hsession' := by
    rw [NameTable.get?_insert] at hsession'
    split_ifs at hsession' with hother
    · cases hsession'
      exact hstage
    · exact h.loaded other session' hsession'

/-- A session is taken out, and its addresses are given back. -/
lemma put_none (h : Refines a w)
    (hholds : Holds a.setting ((w.sessions.erase name).values.flatMap addresses) [] [] 0 m) :
    Refines (a.put name none) { w with memory := m, sessions := w.sessions.erase name } where
  holds := hholds
  ordered := h.ordered.erase
  known other := by
    rw [NameTable.get?_erase]
    by_cases hother : other = name
    · simp [Machine.put, hother]
    · simp [Machine.put, hother, h.known]
  loaded other session' hsession' := by
    rw [NameTable.get?_erase] at hsession'
    split_ifs at hsession' with hother
    exact h.loaded other session' hsession'

/-- The addresses that are held, those of one session first. -/
lemma holds_of_get? (h : Refines a w) (hold : w.sessions.get? name = some old) :
    Holds a.setting (addresses old ++ (w.sessions.erase name).values.flatMap addresses)
      [] [] 0 w.memory :=
  h.holds.perm ((h.ordered.values_perm hold).flatMap_right addresses)

/-- A failed attempt to make a session changes nothing but what does not count. -/
lemma with_memory (h : Refines a w) (hholds : Holds a.setting (held w.sessions) [] [] 0 m) :
    Refines a { w with memory := m } :=
  { h with holds := hholds }

lemma step_create (h : Refines a w) (name : String) (image : List UInt8)
    (drivers : Option (List String)) :
    Agrees (a.step (.create name image drivers)) (w.step (.create name image drivers)) := by
  have hmake : (Session.create description image (drivers.getD Machine.usualDrivers)).Meets watch
      w.memory _ _ := create_meets h.holds
  have hrun := Program.Keeps.of_run hmake
  have husual : defaultDrivers = Machine.usualDrivers := rfl
  simp only [World.step, Machine.step, World.perform, husual]
  generalize (Session.create description image (drivers.getD Machine.usualDrivers)).run.run handle
    w.memory = outcome at hrun ⊢
  obtain ⟨value, memory, notices⟩ := outcome
  cases value with
  | error e =>
    obtain ⟨hcreation, hholds⟩ := hrun
    rw [hcreation]
    exact ⟨rfl, h.with_memory hholds⟩
  | ok session =>
    obtain ⟨hcreation, hstage, hinvocations, hholds⟩ := hrun
    have hstanding : standingOf session = ⟨session.driver, 0⟩ := by
      rw [standingOf, hinvocations]
    have hmatches : (Answer.session (standingOf session)).Matches
        (.session (session.summary description)) := ⟨_, summary_eq hstage⟩
    simp only [hcreation, ← hstanding]
    rcases hold : w.sessions.get? name with _ | old
    · have hsame := NameTable.erase_of_get?_eq_none hold
      exact ⟨hmatches, h.put_some hstage (by rwa [hsame])⟩
    -- Both sessions are there for a moment; then the old one gives its addresses back.
    · have hboth : Holds a.setting (addresses old ++ (addresses session ++
          (w.sessions.erase name).values.flatMap addresses)) [] [] 0 memory := by
        refine hholds.perm ?_
        refine (((h.ordered.values_perm hold).flatMap_right addresses).append_left _).trans ?_
        exact List.perm_append_comm_assoc _ _ _
      exact ⟨hmatches, h.put_some hstage (Program.Keeps.of_run (destroy_keeps hboth))⟩

lemma step_invoke (h : Refines a w) (name entry : String) {inputs : List Tensor}
    (hosted : Memory.Hosted inputs) :
    Agrees (a.step (.invoke name entry (.ok inputs)))
      (w.step (.invoke name entry (.ok inputs))) := by
  simp only [World.step, Machine.step, World.perform, h.known]
  rcases hsession : w.sessions.get? name with _ | session
  · exact ⟨trivial, h⟩
  have hinvoke : (session.invoke entry inputs).Keeps watch w.memory _ :=
    invoke_keeps hosted (h.holds_of_get? hsession)
  have hrun := Program.Keeps.of_run hinvoke
  have hstage := h.loaded name session hsession
  rcases houtcome : (session.invoke entry inputs).run handle w.memory with
    ⟨⟨result, session'⟩, memory, notices⟩
  rw [houtcome] at hrun
  obtain ⟨hresult, hsession', hholds⟩ := hrun
  dsimp only at hresult hsession' hholds
  subst hresult hsession'
  rcases hexpected : a.setting.outcome entry inputs with e | tensors
  -- The session is put back as it was, which the machine does not notice.
  · simp only [Option.map_some, houtcome, hexpected]
    have hput : a.put name (some (standingOf session)) = a :=
      Machine.put_eq_self (by rw [h.known, hsession]; rfl)
    have hinsert := h.put_some hstage hholds
    rw [hput] at hinsert
    exact ⟨rfl, hinsert⟩
  · simp only [Option.map_some, houtcome, hexpected]
    have hinsert : Refines (a.put name (some (standingOf
        { session with invocations := session.invocations + 1 }))) _ := h.put_some hstage hholds
    exact ⟨rfl, hinsert⟩

lemma step_inspect (h : Refines a w) (name : String) :
    Agrees (a.step (.inspect name)) (w.step (.inspect name)) := by
  simp only [World.step, Machine.step, h.known]
  rcases hsession : w.sessions.get? name with _ | session
  · exact ⟨trivial, h⟩
  · exact ⟨⟨_, summary_eq (h.loaded name session hsession)⟩, h⟩

lemma step_destroy (h : Refines a w) (name : String) :
    Agrees (a.step (.destroy name)) (w.step (.destroy name)) := by
  simp only [World.step, Machine.step, World.discard, World.perform, h.known]
  rcases hsession : w.sessions.get? name with _ | session
  · exact ⟨trivial, h⟩
  · have hrun := Program.Keeps.of_run (destroy_keeps (h.holds_of_get? hsession))
    exact ⟨trivial, h.put_none hrun⟩

lemma step_inject (h : Refines a w) (fault : MemoryFault) :
    Agrees (a.step (.inject fault)) (w.step (.inject fault)) := by
  have hfaults : (w.memory.faults ++ [fault]).toFinset = insert fault a.setting.faults := by
    rw [List.toFinset_append, h.holds.faults_eq, Finset.union_comm]
    rfl
  exact ⟨trivial, { h with holds := { h.holds with faults_eq := hfaults } }⟩

lemma step_failDriver (h : Refines a w) (driver : String) :
    Agrees (a.step (.failDriver driver)) (w.step (.failDriver driver)) := by
  have hfailing : (w.memory.failingDrivers ++ [driver]).toFinset =
      insert driver a.setting.failing := by
    rw [List.toFinset_append, h.holds.failing_eq, Finset.union_comm]
    rfl
  exact ⟨trivial, { h with holds := { h.holds with failing_eq := hfailing } }⟩

/-- **One step** of the bridge is a step of the machine. -/
theorem step (h : Refines a w) (s : Step) (hosted : s.Hosted) : Agrees (a.step s) (w.step s) := by
  cases s with
  | create name image drivers => exact h.step_create name image drivers
  | inject fault => exact h.step_inject fault
  | failDriver driver => exact h.step_failDriver driver
  | invoke name entry inputs =>
    cases inputs with
    | error e =>
      simp only [World.step, Machine.step, h.known]
      rcases w.sessions.get? name with _ | session
      · exact ⟨trivial, h⟩
      · exact ⟨rfl, h⟩
    | ok inputs => exact h.step_invoke name entry hosted
  | inspect name => exact h.step_inspect name
  | destroy name => exact h.step_destroy name

/-- Steps one after the other. -/
lemma steps (h : Refines a w) {script : List Step} (hosted : ∀ s ∈ script, s.Hosted) :
    List.Forall₂ Agrees (a.steps script) (w.steps script) := by
  induction script generalizing a w with
  | nil => exact .nil
  | cons s rest ih =>
    obtain ⟨hs, hrest⟩ := List.forall_mem_cons.1 hosted
    have hstep := h.step s hs
    exact .cons hstep (ih hstep.2 hrest)

end Refines

/-! ## Scripts -/

/-- **The runtime in memory and the sessions on it refine the machine.**  Whatever the script, as
long as a host can hold its inputs: every step answers as the machine does, up to the address of an
instance, and after every step the runtime holds just what the sessions hold, no rule is broken, and
the machine knows every session by its driver and the number of its invocations. -/
theorem script_refines (script : List Step) (hosted : ∀ s ∈ script, s.Hosted) :
    List.Forall₂ Agrees (({} : Machine).steps script) (({} : World).steps script) :=
  Refines.start.steps hosted

/-- A script on two sessions, one of which takes the second driver, is asked for functions by names
with dots and without, and outlives their failures and a fault. -/
def sampleScript : List Step :=
  [.failDriver "local-task", .create "left" [1] (some ["local-task", "local-sync"]),
    .invoke "left" "module.identity" (.ok [⟨.f16, [1], [3, 4]⟩]),
    .invoke "left" "module.discard" (.ok [⟨.f16, [1], [3, 4]⟩]),
    .invoke "left" "module.int8" (.ok []), .invoke "left" "a.b.opaque" (.ok []),
    .invoke "left" "identity.add" (.ok []), .invoke "left" "" (.ok []),
    .invoke "left" "identity" (.ok [⟨.f16, [1], [3, 4]⟩, ⟨.f16, [2], [3, 4]⟩]),
    .inject .onPush, .create "right" [1] none,
    .invoke "left" "module.identity" (.ok [⟨.f16, [1], [3, 4]⟩]),
    .invoke "left" "discard" (.ok []), .inspect "left", .destroy "left", .inspect "left"]

theorem script_refines_sample :
    (∀ s ∈ sampleScript, s.Hosted) ∧
      List.Forall₂ Agrees (({} : Machine).steps sampleScript) (({} : World).steps sampleScript) ∧
      (({} : Machine).steps sampleScript).map Prod.fst =
        [.done, .session ⟨"local-sync", 0⟩, .results [⟨.f16, [1], [3, 4]⟩], .results [],
          .failed (.unsupportedElementType 0x10000008), .failed (.missingOutput 0),
          .failed (.status "call" .notFound "function 'identity.add' not found"),
          .failed (.invalidArgument "entry" "entry point name is empty"),
          .failed (.invalidArgument "inputs[1]"
            "Byte length mismatch: shape requires 4 bytes, got 2"),
          .done, .session ⟨"local-sync", 0⟩,
          .failed (.status "push_buffer_view" .internal "injected failure"), .results [],
          .session ⟨"local-sync", 3⟩, .done, .noSession] :=
  ⟨by decide, script_refines sampleScript (by decide), by decide +kernel⟩

end Memory

end TensorBridge
