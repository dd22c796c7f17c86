import Mathlib
import TensorBridge.Proofs.Native.Calls
import TensorBridge.Proofs.Session.Construction

/-!
# Native sessions, made and released

How many native sessions a program adds to those that there are.  A call that makes a session adds
one if it succeeds, a release takes one away, and no other call changes anything; so the number can
be told on every level.

* `Native.perform_gains`: the program of an operation adds what the operation adds.
* `Session.create_gains`, `Session.destroy_gains` and `Session.invoke_gains`: a session that is
  built adds one native session, its end takes one away, and an invocation changes nothing.
-/

namespace TensorBridge

open Program (Item)

/-- How many native sessions an operation adds. -/
def BackendOp.gain : (op : BackendOp) → op.Reply → Int
  | createSession .., .ok _ => 1
  | releaseSession _, _ => -1
  | _, _ => 0

lemma BackendOp.gain_of_kind? {op : BackendOp} (h : op.kind? ≠ some .session) (reply : op.Reply) :
    op.gain reply = 0 := by
  cases op <;> first | rfl | exact absurd rfl h

/-- How many native sessions a function adds. -/
def NativeOp.gain : (op : NativeOp) → op.Reply → Int
  | createSession .., ⟨none, some _⟩ => 1
  | releaseSession _, _ => -1
  | _, _ => 0

/-! ## Native calls -/

namespace Native

open NativeOp (Touches)

variable {renders : Bool} {kind : Option Resource}

/-- A function that makes and releases no sessions. -/
lemma gain_of_touches (hkind : kind ≠ some .session) {f : NativeOp} (h : f.Touches kind)
    (reply : f.Reply) : f.gain reply = 0 := by
  have hsession : f.kind? ≠ some .session := by
    rcases h with h | h <;> rw [h]
    · exact (Option.some_ne_none _).symm
    · exact hkind
  cases f <;> first | rfl | exact absurd rfl hsession

/-- A program that makes and releases no sessions. -/
lemma tally_of_touches {α : Type} {p : Program Native α} (hkind : kind ≠ some .session)
    (hp : p.Within (Touches kind) fun _ => True) {n : Int} :
    p.Keeps (.tally NativeOp.gain) n fun _ n' => n' = n :=
  (hp.confined.mono fun _ h => gain_of_touches hkind h).keeps_tally

lemma ignores_tally : Ignores (.tally NativeOp.gain) := fun n f hplain =>
  ⟨trivial, fun reply => by
    have hgain := gain_of_touches (Option.some_ne_none Resource.session).symm (.inl hplain) reply
    exact (congrArg (n + ·) hgain).trans (add_zero n)⟩

/-- A session is made if the function succeeds and there is an address. -/
lemma createSession_gains (inst : Handle .runtimeInstance) (device : Handle .device) (n : Int) :
    (createSession renders inst device).Meets (.tally NativeOp.gain) n
      (fun _ n' => n' = n + 1) fun _ n' => n' = n := by
  simp only [createSession, make, Action.meets_bind, Action.meets_always, Action.meets_pure]
  refine (keeps_of_ignores ignores_tally (plain_within rfl)).mono ?_
  rintro options _ rfl
  refine (keeps_of_ignores ignores_tally (plain_within rfl)).mono ?_
  rintro allocator n rfl
  refine obtain_meets_of_ignores ignores_tally ⟨trivial, ?_⟩
  rintro ⟨_ | word, _ | address⟩ -
  · exact add_zero n
  · rfl
  · exact add_zero n
  · exact add_zero n

/-- **Carrying an operation out** adds as many native sessions as the operation. -/
theorem perform_gains (renders : Bool) (op : BackendOp) (n : Int) :
    (perform renders op).Keeps (.tally NativeOp.gain) n fun reply n' => n' = n + op.gain reply := by
  by_cases hkind : op.kind? = some .session
  · cases op with
    | createSession inst device =>
      refine Program.Keeps.mono (createSession_gains inst device n) fun reply n' h => ?_
      cases reply with
      | ok session => exact h
      | error e => exact h.trans (add_zero n).symm
    | releaseSession session => exact ⟨trivial, fun _ _ => rfl⟩
    | _ => cases hkind
  · refine (tally_of_touches hkind (perform_within renders op)).mono fun reply n' h => ?_
    rw [h, BackendOp.gain_of_kind? hkind reply, add_zero]

end Native

/-! ## Sessions -/

namespace Session

variable {n : Int}

/-- How many sessions there are more after an attempt to make one. -/
def built {α : Type} : Except BridgeError α → Int
  | .ok _ => 1
  | .error _ => 0

lemma total_selected {inst : Handle .runtimeInstance} {drivers : List String}
    {cs : List (Item Backend)} {r : Except BridgeError (Handle .device × String)}
    (h : Selected inst drivers cs r) : Program.total BackendOp.gain cs = 0 := by
  have hmisses (refused : List (String × BridgeError)) :
      Program.total BackendOp.gain (misses inst refused) = 0 := by
    induction refused with
    | nil => rfl
    | cons r refused ih => exact (Int.zero_add _).trans ih
  cases h with
  | found => rw [Program.total_append, hmisses]; rfl
  | missing => exact hmisses _

/-- **Making a session** adds a native session if it succeeds. -/
theorem create_gains (description : String) (image : List UInt8) (drivers : List String) :
    (create description image drivers).run.Keeps (.tally BackendOp.gain) n
      fun r n' => n' = n + built r := by
  refine Program.keeps_tally_iff.2 fun trace r run => ?_
  obtain ⟨attempts, releases, climb, hcalls⟩ := makes_create_iff.1 ⟨trace, run, rfl⟩
  rw [← Program.total_calls, hcalls]
  congr 1
  cases climb with
  | refused => rfl
  | noInstance => rfl
  | noDevice _ selected | noSession _ selected | noModule _ selected | built _ selected =>
    have hsearch := total_selected selected
    simp only [unwinding, List.cons_append, List.append_nil, Program.total_called,
      Program.total_append, Program.total_nil, hsearch]
    rfl

/-- The end of a session takes its native session away. -/
lemma destroy_gains (s : Session) :
    s.destroy.Keeps (.tally BackendOp.gain) n fun _ n' => n' = n - 1 := by
  refine Program.keeps_tally_iff.2 fun trace _ run => ?_
  have hcalls := makes_destroy_iff.1 ⟨trace, run, rfl⟩
  rw [← Program.total_calls, hcalls]
  rfl

/-- An invocation makes and releases no native session. -/
lemma invoke_gains (s : Session) (entry : String) (inputs : List Tensor) :
    (s.invoke entry inputs).Keeps (.tally BackendOp.gain) n fun _ n' => n' = n := by
  refine ((invoke_within s entry inputs).confined.mono fun op h reply => ?_).keeps_tally
  cases op <;> first | rfl | cases h

end Session

end TensorBridge
