import Mathlib.Tactic.Common
import TensorBridge.Library.Basic
import TensorBridge.Proofs.Native.Calls

/-!
# What libraries are opened, closed and called for

A search for a library opens and closes libraries and does nothing else; `Library.discover_within`
tells under which numbers.  A program that runs on a library calls functions of this library and
does nothing else (`Library.host_within`).
-/

namespace TensorBridge

namespace HostOp

/-- The operation opens or closes a library with a number from `first` on and below `next`. -/
def Handles (first next : Nat) : HostOp → Prop
  | .openLibrary id _ | .closeLibrary id => first ≤ id ∧ id < next
  | _ => False

/-- The operation calls a function of the library with this number. -/
def Calls (id : Nat) : HostOp → Prop
  | .native id' _ => id' = id
  | _ => False

lemma Handles.mono {first next first' next' : Nat} (hfirst : first' ≤ first) (hnext : next ≤ next')
    {op : HostOp} (h : op.Handles first next) : op.Handles first' next' := by
  cases op with
  | openLibrary | closeLibrary => exact ⟨Nat.le_trans hfirst h.1, Nat.lt_of_lt_of_le h.2 hnext⟩
  | _ => exact h

end HostOp

/-- The notice is about the search for a library. -/
def Notice.IsSearching : Notice → Prop
  | .libraryLoaded .. | .candidateRejected .. => True
  | _ => False

namespace Library

open HostOp (Handles Calls)

lemma attach_within (id : Nat) (path : String) :
    (attach id path).Within (Handles id (id + 1)) Notice.IsSearching := by
  have hid : id ≤ id ∧ id < id + 1 := ⟨Nat.le_refl id, Nat.lt_succ_self id⟩
  refine .bind (.always (.perform hid)) fun opened => ?_
  cases opened with
  | error detail => exact .throw _
  | ok exported =>
    dsimp only
    cases missingSymbol? exported with
    | some symbol => exact .bind (.always (.perform hid)) fun _ => .throw _
    | none => exact .bind (.always (.notify trivial)) fun _ => .pure _

lemma attachFirst_within (id : Nat) (paths : List String) :
    (attachFirst id paths).Within (Handles id (id + paths.length)) Notice.IsSearching := by
  induction paths generalizing id with
  | nil => exact .done none
  | cons path paths ih =>
    have hnext : id + 1 ≤ id + (path :: paths).length :=
      Nat.add_le_add_left (Nat.succ_pos paths.length) id
    have hfirst :=
      (attach_within id path).mono (fun _ => Handles.mono (Nat.le_refl _) hnext) fun _ h => h
    refine Program.Within.bind hfirst fun r => ?_
    cases r with
    | ok library => exact .done _
    | error e =>
      refine Program.Within.bind (.notify trivial) fun _ =>
        (ih (id + 1)).mono (fun _ => ?_) fun _ h => h
      exact Handles.mono (Nat.le_succ id) (Nat.le_of_eq (Nat.succ_add_eq_add_succ id paths.length))

/-- **A search** opens and closes libraries under the numbers of its candidates. -/
theorem discover_within (id : Nat) (search : LibrarySearch) :
    (discover id search).Within (Handles id (id + search.paths.length)) Notice.IsSearching := by
  unfold discover
  split
  · exact .throw _
  · refine .bind (.always (attachFirst_within id _)) fun found => ?_
    cases found with
    | some library => exact .pure _
    | none => exact .throw _

/-- **A program that runs on a library** calls functions of this library, and gives no notices of
its own. -/
theorem host_within {α : Type} {library : Library} {p : Program Backend α} {P : BackendOp → Prop}
    {N : Notice → Prop} (hp : p.Within P N) : (library.host p).Within (Calls library.id) N := by
  have hnative : (p.expand (Native.perform library.rendersStatus)).Within (fun _ => True) N :=
    hp.expand fun op _ => (Native.perform_within _ op).mono (fun _ _ => trivial) fun _ h => h
  exact hnative.expand fun f _ => .perform rfl

end Library

end TensorBridge
