/-!
# Stages of a session

A session is built in four steps, one after the other; it can be invoked when the last of them is
done.
-/

namespace TensorBridge

/-- How far the construction of a session has come. -/
inductive Stage where
  /-- Nothing is there. -/
  | uninitialized
  /-- There is a runtime instance. -/
  | instanceReady
  /-- There is a device. -/
  | deviceReady
  /-- There is a native session bound to the device. -/
  | sessionReady
  /-- The module is loaded. -/
  | moduleLoaded
deriving DecidableEq, Repr

namespace Stage

/-- The stage that the next successful step reaches. -/
def next? : Stage → Option Stage
  | uninitialized => some instanceReady
  | instanceReady => some deviceReady
  | deviceReady => some sessionReady
  | sessionReady => some moduleLoaded
  | moduleLoaded => none

/-- The stage after one more step; the last stage stays. -/
def advance (s : Stage) : Stage := s.next?.getD s

/-- The number of steps done. -/
def rank : Stage → Nat
  | uninitialized => 0
  | instanceReady => 1
  | deviceReady => 2
  | sessionReady => 3
  | moduleLoaded => 4

theorem rank_lt_of_next? {s t : Stage} (h : s.next? = some t) : s.rank < t.rank := by
  cases s <;> simp_all [next?] <;> subst h <;> decide

/-- Whether entry points can be invoked. -/
def isReady (s : Stage) : Bool := s == moduleLoaded

/-- The name of the stage. -/
def name : Stage → String
  | uninitialized => "uninitialized"
  | instanceReady => "instance-ready"
  | deviceReady => "device-ready"
  | sessionReady => "session-ready"
  | moduleLoaded => "module-loaded"

/-- The name of the stage in the description of a session. -/
def title : Stage → String
  | uninitialized => "Uninitialized"
  | instanceReady => "InstanceReady"
  | deviceReady => "DeviceReady"
  | sessionReady => "SessionReady"
  | moduleLoaded => "ModuleLoaded"

/-- The stages from one on, in order. -/
def onward (s : Stage) : List Stage :=
  match h : s.next? with
  | some t =>
    have : 4 - t.rank < 4 - s.rank := by
      cases s <;> simp_all [next?] <;> subst h <;> decide
    s :: t.onward
  | none => [s]
termination_by 4 - s.rank

end Stage

end TensorBridge
