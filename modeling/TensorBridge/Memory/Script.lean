import TensorBridge.Memory.Basic
import TensorBridge.NameTable

/-!
# Scripts on the runtime in memory

A script makes, uses and destroys named sessions that share one runtime in memory, and sets faults
in between.  Making a session under a name that is taken replaces the old session, which is
destroyed when the new one is there.
-/

namespace TensorBridge

/-- What a session shows of itself. -/
structure SessionSummary where
  /-- The driver of its device. -/
  driver : String
  /-- Its stage. -/
  stage : Stage
  /-- The number of invocations that succeeded. -/
  invocations : Nat
  /-- The description of its runtime. -/
  backend : String
  /-- The description of the session. -/
  description : String
deriving DecidableEq, Repr

/-- The summary of a session on a runtime that goes by a description. -/
def Session.summary (s : Session) (backend : String) : SessionSummary :=
  ⟨s.driver, s.stage, s.invocations, backend, s.describe backend⟩

/-- What a step of a script answers. -/
inductive StepAnswer where
  /-- The step is done and has nothing to tell. -/
  | done
  /-- A session. -/
  | session (summary : SessionSummary)
  /-- The results of an invocation. -/
  | results (tensors : List Tensor)
  /-- The bridge failed. -/
  | failed (e : BridgeError)
  /-- An input is no tensor. -/
  | badInput (e : TensorError)
  /-- There is no session of the name. -/
  | noSession
deriving DecidableEq, Repr

namespace Memory

/-- A step of a script. -/
inductive Step where
  /-- Makes a session, with the usual drivers unless some are named. -/
  | create (name : String) (image : List UInt8) (drivers : Option (List String))
  /-- Makes calls of a kind fail. -/
  | inject (fault : MemoryFault)
  /-- Makes a driver fail. -/
  | failDriver (driver : String)
  /-- Invokes an entry point. -/
  | invoke (name entry : String) (inputs : Except TensorError (List Tensor))
  /-- Asks for the summary of a session. -/
  | inspect (name : String)
  /-- Destroys a session. -/
  | destroy (name : String)

/-- The runtime and the sessions on it. -/
structure World where
  /-- The runtime. -/
  memory : Memory := {}
  /-- The sessions by name. -/
  sessions : NameTable Session := {}

namespace World

/-- Runs a program on the runtime. -/
def perform {α : Type} (w : World) (p : Program Backend α) : α × World × List Notice :=
  let o := p.run Memory.handle w.memory
  (o.value, { w with memory := o.state }, o.notices)

/-- Destroys a session. -/
def discard (w : World) (s : Session) : World × List Notice := (w.perform s.destroy).2

/-- Carries out one step. -/
def step (w : World) : Step → StepAnswer × World × List Notice
  | .inject fault => (.done, { w with memory := w.memory.inject fault }, [])
  | .failDriver driver => (.done, { w with memory := w.memory.failDriver driver }, [])
  | .create name image drivers =>
    match w.perform (Session.create description image (drivers.getD defaultDrivers)).run with
    | (.error e, w, notices) => (.failed e, w, notices)
    | (.ok session, w, notices) =>
      let old := w.sessions.get? name
      let w := { w with sessions := w.sessions.insert name session }
      match old with
      | none => (.session (session.summary description), w, notices)
      | some old =>
        let (w, more) := w.discard old
        (.session (session.summary description), w, notices ++ more)
  | .invoke name entry inputs =>
    match w.sessions.get? name, inputs with
    | none, _ => (.noSession, w, [])
    | some _, .error e => (.badInput e, w, [])
    | some session, .ok inputs =>
      let ((result, session), w, notices) := w.perform (session.invoke entry inputs)
      let w := { w with sessions := w.sessions.insert name session }
      match result with
      | .ok tensors => (.results tensors, w, notices)
      | .error e => (.failed e, w, notices)
  | .inspect name =>
    match w.sessions.get? name with
    | none => (.noSession, w, [])
    | some session => (.session (session.summary description), w, [])
  | .destroy name =>
    match w.sessions.get? name with
    | none => (.noSession, w, [])
    | some session =>
      let (w, notices) := { w with sessions := w.sessions.erase name }.discard session
      (.done, w, notices)

/-- Destroys all sessions in the order of their names. -/
def finish (w : World) : World :=
  w.sessions.values.foldl (fun w session => (w.discard session).1) { w with sessions := {} }

/-- Carries out steps one after the other and keeps each answer with the world after it. -/
def steps (w : World) : List Step → List (StepAnswer × World × List Notice)
  | [] => []
  | s :: rest =>
    let (answer, w, notices) := w.step s
    (answer, w, notices) :: w.steps rest

end World

end Memory

end TensorBridge
