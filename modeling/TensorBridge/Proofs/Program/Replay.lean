import Mathlib.Tactic.Common
import TensorBridge.Program

/-!
# Replaying the trace of a program

A trace tells all replies, so it tells what a program does: `Program.replay` follows a program along
a trace and returns the value it comes to, if the program and the trace fit.

* `Program.runs_iff_replay`: the runs of a program are the replays that succeed.
* `Program.Runs.unique`: along one trace a program comes to one value.
-/

namespace TensorBridge

namespace Program

variable {I : Interface} [DecidableEq I.Op] {α : Type}

/-- Follows a program along a trace. -/
def replay : Program I α → List (Item I) → Option α
  | done a, [] => some a
  | call op next, .called op' reply :: rest =>
    if h : op' = op then (next (h ▸ reply)).replay rest else none
  | note n next, .noted n' :: rest => if n' = n then next.replay rest else none
  | _, _ => none

lemma Runs.replay_eq {p : Program I α} {trace : List (Item I)} {a : α} (h : p.Runs trace a) :
    p.replay trace = some a := by
  induction h with
  | done a => rfl
  | call rest ih => simp [replay, ih]
  | note rest ih => simp [replay, ih]

lemma runs_of_replay_eq {p : Program I α} {trace : List (Item I)} {a : α}
    (h : p.replay trace = some a) : p.Runs trace a := by
  induction p generalizing trace with
  | done b =>
    rcases trace with _ | ⟨item, rest⟩
    · obtain rfl : b = a := Option.some.inj h
      exact .done b
    · simp [replay] at h
  | call op next ih =>
    rcases trace with _ | ⟨⟨op', reply⟩ | n, rest⟩
    · simp [replay] at h
    · simp only [replay] at h
      split at h
      · rename_i heq
        subst heq
        exact .call (ih reply h)
      · cases h
    · simp [replay] at h
  | note n next ih =>
    rcases trace with _ | ⟨⟨op', reply⟩ | n', rest⟩
    · simp [replay] at h
    · simp [replay] at h
    · simp only [replay] at h
      split at h
      · rename_i heq
        subst heq
        exact .note (ih h)
      · cases h

/-- **The runs of a program** are the replays that succeed. -/
theorem runs_iff_replay {p : Program I α} {trace : List (Item I)} {a : α} :
    p.Runs trace a ↔ p.replay trace = some a :=
  ⟨Runs.replay_eq, runs_of_replay_eq⟩

instance [DecidableEq α] (p : Program I α) (trace : List (Item I)) (a : α) :
    Decidable (p.Runs trace a) :=
  decidable_of_iff _ runs_iff_replay.symm

/-- Along one trace a program comes to one value. -/
theorem Runs.unique {p : Program I α} {trace : List (Item I)} {a b : α} (ha : p.Runs trace a)
    (hb : p.Runs trace b) : a = b :=
  Option.some.inj (ha.replay_eq.symm.trans hb.replay_eq)

end Program

end TensorBridge
