import Mathlib.Tactic.Common
import TensorBridge.Proofs.Program.Runs

/-!
# What a program does and says

`Program.Within P N p` says that the program `p` calls no operations but those with `P` and gives no
notices but those with `N`, whatever the replies are.

* `Program.Within.of_runs`: its traces show nothing else.
* `Program.Within.expand`: a program that is carried out by another one gives no more notices than
  before, if carrying an operation out gives none.
* `Program.Within.keeps`: a watch that takes no interest in operations with `P` keeps its books.
-/

namespace TensorBridge

variable {I J : Interface} {α β : Type}

namespace Program

/-- The program calls only operations with `P` and gives only notices with `N`, whatever the replies
are. -/
def Within (P : I.Op → Prop) (N : Notice → Prop) : Program I α → Prop
  | done _ => True
  | call op next => P op ∧ ∀ r, (next r).Within P N
  | note n next => N n ∧ next.Within P N

/-- What happened is a call of an operation with `P`, or a notice with `N`. -/
def Item.Within (P : I.Op → Prop) (N : Notice → Prop) : Item I → Prop
  | called op _ => P op
  | noted n => N n

lemma Item.Within.mono {P Q : I.Op → Prop} {N M : Notice → Prop} {item : Item I}
    (h : item.Within P N) (hPQ : ∀ op, P op → Q op) (hNM : ∀ n, N n → M n) : item.Within Q M := by
  cases item with
  | called op reply => exact hPQ op h
  | noted n => exact hNM n h

namespace Within

variable {P Q : I.Op → Prop} {N M : Notice → Prop} {p : Program I α}

lemma done (a : α) : (done a : Program I α).Within P N := trivial

lemma perform {op : I.Op} (h : P op) : (perform op : Program I (I.Reply op)).Within P N :=
  ⟨h, fun _ => trivial⟩

lemma notify {n : Notice} (h : N n) : (notify n : Program I Unit).Within P N := ⟨h, trivial⟩

lemma bind (hp : p.Within P N) {f : α → Program I β} (hf : ∀ a, (f a).Within P N) :
    (p >>= f).Within P N := by
  induction p with
  | done a => exact hf a
  | call op next ih => exact ⟨hp.1, fun r => ih r (hp.2 r)⟩
  | note n next ih => exact ⟨hp.1, ih hp.2⟩

lemma mono (hp : p.Within P N) (hPQ : ∀ op, P op → Q op) (hNM : ∀ n, N n → M n) : p.Within Q M := by
  induction p with
  | done a => trivial
  | call op next ih => exact ⟨hPQ op hp.1, fun r => ih r (hp.2 r)⟩
  | note n next ih => exact ⟨hNM n hp.1, ih hp.2⟩

lemma confined (hp : p.Within P N) : p.Confined P := by
  induction p with
  | done a => trivial
  | call op next ih => exact ⟨hp.1, fun r => ih r (hp.2 r)⟩
  | note n next ih => exact ih hp.2

/-- **The traces of a program** show only what it calls and says. -/
theorem of_runs (hp : p.Within P N) {trace : List (Item I)} {a : α} (run : p.Runs trace a) :
    ∀ item ∈ trace, item.Within P N := by
  induction run with
  | done a => exact List.forall_mem_nil _
  | call rest ih => exact List.forall_mem_cons.2 ⟨hp.1, ih (hp.2 _)⟩
  | note rest ih => exact List.forall_mem_cons.2 ⟨hp.1, ih hp.2⟩

lemma expand {P' : J.Op → Prop} {carry : (op : I.Op) → Program J (I.Reply op)} (hp : p.Within P N)
    (hcarry : ∀ op, P op → (carry op).Within P' N) : (p.expand carry).Within P' N := by
  induction p with
  | done a => trivial
  | call op next ih => exact bind (hcarry op hp.1) fun r => ih r (hp.2 r)
  | note n next ih => exact ⟨hp.1, ih hp.2⟩

/-- One part of a program that can fail after the other. -/
lemma bindExcept {ε : Type} {x : ExceptT ε (Program I) α} (hx : x.run.Within P N)
    {f : α → ExceptT ε (Program I) β} (hf : ∀ a, (f a).run.Within P N) :
    (x >>= f).run.Within P N := by
  rw [ExceptT.run_bind]
  refine bind hx fun r => ?_
  cases r with
  | ok a => exact hf a
  | error e => exact done _

/-- Calls that are allowed and change nothing in the books leave them as they are. -/
lemma keeps {σ : Type} {W : Watch I σ} (hp : p.Within P N)
    (hP : ∀ s op, P op → W.Allows s op ∧ ∀ r, W.after s op r = s) {s : σ} :
    p.Keeps W s fun _ s' => s' = s := by
  induction p with
  | done a => rfl
  | call op next ih =>
    refine ⟨(hP s op hp.1).1, fun r _ => ?_⟩
    rw [(hP s op hp.1).2 r]
    exact ih r (hp.2 r)
  | note n next ih => exact ih hp.2

end Within

end Program

namespace Action

/-- The action calls only operations with `P` and gives only notices with `N`, whatever the replies
are. -/
abbrev Within (P : I.Op → Prop) (N : Notice → Prop) (x : Action I α) : Prop := x.run.Within P N

namespace Within

variable {P : I.Op → Prop} {N : Notice → Prop} {x : Action I α}

lemma pure (a : α) : (pure a : Action I α).Within P N := trivial

lemma throw (e : BridgeError) : (throw e : Action I α).Within P N := trivial

lemma always {p : Program I α} (hp : p.Within P N) : (always p).Within P N := by
  unfold Within Action.always
  rw [ExceptT.run_lift]
  exact Program.Within.bind hp fun a => .done _

lemma bind (hx : x.Within P N) {f : α → Action I β} (hf : ∀ a, (f a).Within P N) :
    (x >>= f).Within P N :=
  Program.Within.bindExcept hx hf

lemma andThen (hx : x.Within P N) {release : Program I Unit} (hrelease : release.Within P N) :
    (x.andThen release).Within P N :=
  Program.Within.bind hx fun _ => hrelease.bind fun _ => .done _

lemma onFailure (hx : x.Within P N) {release : Program I Unit} (hrelease : release.Within P N) :
    (x.onFailure release).Within P N := by
  refine Program.Within.bind hx fun r => ?_
  cases r with
  | ok a => exact .done _
  | error e => exact hrelease.bind fun _ => .done _

end Within

end Action

end TensorBridge
