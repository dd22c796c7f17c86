import TensorBridge.Notice

/-!
# Programs over an interface

A program calls operations one after the other and decides by each reply how to go on.  It is kept
as data, a tree that branches over the replies, so that the same program can be run by any handler
of its operations, carried over to operations of another kind, and asked which calls it can make.

* `Program.run` runs a program on a handler with a state.
* `Program.expand` replaces every operation by a program over another interface.
* `Program.Runs p trace a` says that `p` can come to the result `a` by the calls, replies and
  notices of `trace`, whatever answers the calls.
-/

namespace TensorBridge

/-- Operations, and for each of them the type of its replies. -/
structure Interface where
  /-- The operations with their arguments. -/
  Op : Type
  /-- What an operation replies. -/
  Reply : Op → Type

/-- A program that calls operations of an interface, gives notices and returns a value. -/
inductive Program (I : Interface) (α : Type) where
  /-- Returns a value. -/
  | done (a : α)
  /-- Calls an operation and goes on with its reply. -/
  | call (op : I.Op) (next : I.Reply op → Program I α)
  /-- Gives a notice and goes on. -/
  | note (n : Notice) (next : Program I α)

namespace Program

variable {I J : Interface} {α β γ σ : Type}

/-- Runs one program after the other. -/
def bind : Program I α → (α → Program I β) → Program I β
  | done a, f => f a
  | call op next, f => call op fun r => (next r).bind f
  | note n next, f => note n (next.bind f)

instance : Monad (Program I) where
  pure := done
  bind := bind

@[simp] theorem pure_eq_done (a : α) : (pure a : Program I α) = done a := rfl

@[simp] theorem done_bind (a : α) (f : α → Program I β) : (done a : Program I α) >>= f = f a := rfl

@[simp] theorem call_bind (op : I.Op) (next : I.Reply op → Program I α) (f : α → Program I β) :
    call op next >>= f = call op fun r => next r >>= f := rfl

@[simp] theorem note_bind (n : Notice) (next : Program I α) (f : α → Program I β) :
    note n next >>= f = note n (next >>= f) := rfl

theorem bind_done (p : Program I α) : p >>= done = p := by
  induction p with
  | done a => rfl
  | call op next ih => simp [ih]
  | note n next ih => simp [ih]

theorem bind_assoc (p : Program I α) (f : α → Program I β) (g : β → Program I γ) :
    p >>= f >>= g = p >>= fun a => f a >>= g := by
  induction p with
  | done a => rfl
  | call op next ih => simp [ih]
  | note n next ih => simp [ih]

instance : LawfulMonad (Program I) :=
  LawfulMonad.mk' _ bind_done (fun _ _ => rfl) bind_assoc

/-- Calls one operation and returns its reply. -/
def perform (op : I.Op) : Program I (I.Reply op) := call op done

/-- Gives one notice. -/
def notify (n : Notice) : Program I Unit := note n (done ())

/-! ## Running and expanding -/

/-- What a run leaves behind. -/
structure Outcome (σ α : Type) where
  /-- The value returned. -/
  value : α
  /-- The state of the handler. -/
  state : σ
  /-- The notices in order. -/
  notices : List Notice

/-- Runs a program on a handler with a state. -/
def run (handle : (op : I.Op) → σ → I.Reply op × σ) : Program I α → σ → Outcome σ α
  | done a, s => ⟨a, s, []⟩
  | call op next, s =>
    let answered := handle op s
    (next answered.1).run handle answered.2
  | note n next, s =>
    let rest := next.run handle s
    { rest with notices := n :: rest.notices }

/-- Replaces every operation by a program over another interface. -/
def expand (perform : (op : I.Op) → Program J (I.Reply op)) : Program I α → Program J α
  | done a => done a
  | call op next => perform op >>= fun r => (next r).expand perform
  | note n next => note n (next.expand perform)

theorem expand_bind (h : (op : I.Op) → Program J (I.Reply op)) (p : Program I α)
    (f : α → Program I β) :
    (p >>= f).expand h = p.expand h >>= fun a => (f a).expand h := by
  induction p with
  | done a => rfl
  | call op next ih => simp [expand, ih]
  | note n next ih => simp [expand, ih]

/-! ## Traces -/

/-- One thing that happens while a program runs. -/
inductive Item (I : Interface) where
  /-- An operation was called and replied. -/
  | called (op : I.Op) (reply : I.Reply op)
  /-- A notice was given. -/
  | noted (n : Notice)

/-- The program can come to the value by the items of the trace, in order. -/
inductive Runs : Program I α → List (Item I) → α → Prop where
  /-- A value is returned at once. -/
  | done (a : α) : Runs (.done a) [] a
  /-- A call is answered in some way, and the rest follows. -/
  | call {op : I.Op} {next : I.Reply op → Program I α} {reply : I.Reply op}
      {trace : List (Item I)} {a : α} (rest : Runs (next reply) trace a) :
      Runs (.call op next) (.called op reply :: trace) a
  /-- A notice is given, and the rest follows. -/
  | note {n : Notice} {next : Program I α} {trace : List (Item I)} {a : α}
      (rest : Runs next trace a) : Runs (.note n next) (.noted n :: trace) a

theorem runs_bind_iff {p : Program I α} {f : α → Program I β} {trace : List (Item I)} {b : β} :
    Runs (p >>= f) trace b ↔
      ∃ first second a, trace = first ++ second ∧ Runs p first a ∧ Runs (f a) second b := by
  induction p generalizing trace with
  | done a =>
    constructor
    · intro h
      exact ⟨[], trace, a, rfl, .done a, h⟩
    · rintro ⟨first, second, a', rfl, hp, hf⟩
      cases hp
      exact hf
  | call op next ih =>
    constructor
    · intro h
      cases h with
      | call rest =>
        obtain ⟨first, second, a, rfl, hp, hf⟩ := (ih _).1 rest
        exact ⟨_ :: first, second, a, rfl, .call hp, hf⟩
    · rintro ⟨first, second, a, rfl, hp, hf⟩
      cases hp with
      | call rest => exact .call ((ih _).2 ⟨_, second, a, rfl, rest, hf⟩)
  | note n next ih =>
    constructor
    · intro h
      cases h with
      | note rest =>
        obtain ⟨first, second, a, rfl, hp, hf⟩ := ih.1 rest
        exact ⟨_ :: first, second, a, rfl, .note hp, hf⟩
    · rintro ⟨first, second, a, rfl, hp, hf⟩
      cases hp with
      | note rest => exact .note (ih.2 ⟨_, second, a, rfl, rest, hf⟩)

end Program

/-! ## Programs that can fail -/

/-- A program that returns a value or fails with an error of the bridge. -/
abbrev Action (I : Interface) (α : Type) := ExceptT BridgeError (Program I) α

namespace Action

variable {I : Interface} {α : Type}

/-- A program that reports its failures in its value. -/
def ofProgram (p : Program I (Except BridgeError α)) : Action I α := ExceptT.mk p

/-- A program that cannot fail. -/
def always (p : Program I α) : Action I α := ExceptT.lift p

/-- Follows the action by a program in any case. -/
def andThen (action : Action I α) (release : Program I Unit) : Action I α :=
  ofProgram do
    let result ← action.run
    release
    return result

/-- Follows the action by a program if it fails; the failure stands. -/
def onFailure (action : Action I α) (release : Program I Unit) : Action I α :=
  ofProgram do
    let result ← action.run
    match result with
    | .ok a => return .ok a
    | .error e =>
      release
      return .error e

end Action

end TensorBridge
