import TensorBridge.Proofs.Program.Watch
import TensorBridge.Session.Basic

/-!
# Histories of sessions

Any number of sessions share a runtime.  They are made, invoked and destroyed in any order, and
the runtime answers as it likes.  `Session.History` gathers the traces of all these operations in
one trace; every item of it bears the number of the operation and the number of the session for
which it happened.  A session goes by the number of the operation that made it.

The operations of a session are programs over `Backend`.  How they are carried out on the
interface of the trace is a parameter, so that one definition serves for the operations themselves
and for the native functions behind them.

`Session.History.keeps` is the induction that all theorems about histories share.
-/

namespace TensorBridge

namespace Session

/-- For whom something happened. -/
structure Stamp where
  /-- The number of the session. -/
  session : Nat
  /-- The number of the operation. -/
  operation : Nat
deriving DecidableEq, Repr

/-- A thing that happened, with its stamp. -/
abbrev Entry (I : Interface) := Stamp × Program.Item I

/-- A session that is alive, with its number. -/
structure Alive where
  /-- The number. -/
  number : Nat
  /-- The session. -/
  session : Session
deriving DecidableEq, Repr

/-- What an attempt to make a session adds to the sessions that are alive. -/
def opened (number : Nat) : Except BridgeError Session → List Alive
  | .ok s => [⟨number, s⟩]
  | .error _ => []

/-- The items of one operation, each with its stamp. -/
def stamped {I : Interface} (session operation : Nat) (items : List (Program.Item I)) :
    List (Entry I) :=
  items.map (⟨session, operation⟩, ·)

variable {I : Interface} (carry : (α : Type) → Program Backend α → Program I α)

/-- After a number of operations with a trace, these sessions are alive. -/
inductive History : Nat → List (Entry I) → List Alive → Prop where
  /-- Nothing has happened. -/
  | start : History 0 [] []
  /-- A session is made, or the attempt fails. -/
  | create {n : Nat} {trace : List (Entry I)} {live : List Alive} (h : History n trace live)
      {description : String} {image : List UInt8} {drivers : List String}
      {items : List (Program.Item I)} {result : Except BridgeError Session}
      (run : (carry _ (Session.create description image drivers).run).Runs items result) :
      History (n + 1) (trace ++ stamped n n items) (opened n result ++ live)
  /-- A session is invoked. -/
  | invoke {n : Nat} {trace : List (Entry I)} {before after : List Alive} {a : Alive}
      (h : History n trace (before ++ a :: after)) {entry : String} {inputs : List Tensor}
      {items : List (Program.Item I)} {result : Except BridgeError (List Tensor) × Session}
      (run : (carry _ (a.session.invoke entry inputs)).Runs items result) :
      History (n + 1) (trace ++ stamped a.number n items)
        (before ++ ⟨a.number, result.2⟩ :: after)
  /-- A session is destroyed. -/
  | destroy {n : Nat} {trace : List (Entry I)} {before after : List Alive} {a : Alive}
      (h : History n trace (before ++ a :: after)) {items : List (Program.Item I)}
      (run : (carry _ a.session.destroy).Runs items ()) :
      History (n + 1) (trace ++ stamped a.number n items) (before ++ after)

/-- An invariant of the books and the sessions alive that every operation keeps, whatever the
runtime answers as long as it is expected. -/
structure Keeper {σ : Type} (W : Stamp → Watch I σ) (Inv : σ → List Alive → Prop) : Prop where
  /-- An attempt to make a session. -/
  create {s : σ} {live : List Alive} (h : Inv s live) (n : Nat) (description : String)
    (image : List UInt8) (drivers : List String) :
    (carry _ (Session.create description image drivers).run).Keeps (W ⟨n, n⟩) s
      fun result s' => Inv s' (opened n result ++ live)
  /-- An invocation. -/
  invoke {s : σ} {before after : List Alive} {a : Alive} (h : Inv s (before ++ a :: after))
    (n : Nat) (entry : String) (inputs : List Tensor) :
    (carry _ (a.session.invoke entry inputs)).Keeps (W ⟨a.number, n⟩) s
      fun result s' => Inv s' (before ++ ⟨a.number, result.2⟩ :: after)
  /-- The end of a session. -/
  destroy {s : σ} {before after : List Alive} {a : Alive} (h : Inv s (before ++ a :: after))
    (n : Nat) :
    (carry _ a.session.destroy).Keeps (W ⟨a.number, n⟩) s fun _ s' => Inv s' (before ++ after)

variable {carry}

/-- **What every operation keeps, every history keeps.** -/
theorem History.keeps {σ : Type} {W : Stamp → Watch I σ} {Inv : σ → List Alive → Prop} {s : σ}
    (keeper : Keeper carry W Inv) (hstart : Inv s []) {n : Nat} {trace : List (Entry I)}
    {live : List Alive} (h : History carry n trace live) (hexp : Watch.AdmitsAll W s trace) :
    Watch.PermitsAll W s trace ∧ Inv (Watch.books W s trace) live := by
  induction h with
  | start => exact ⟨trivial, hstart⟩
  | create h run ih =>
    obtain ⟨hexp₁, hexp₂⟩ := Watch.throughout_append.1 hexp
    obtain ⟨hall, hinv⟩ := ih hexp₁
    obtain ⟨hall', hinv'⟩ := (keeper.create hinv _ _ _ _).of_runs run hexp₂
    exact ⟨Watch.throughout_append.2 ⟨hall, hall'⟩, by rwa [Watch.books_append]⟩
  | invoke h run ih =>
    obtain ⟨hexp₁, hexp₂⟩ := Watch.throughout_append.1 hexp
    obtain ⟨hall, hinv⟩ := ih hexp₁
    obtain ⟨hall', hinv'⟩ := (keeper.invoke hinv _ _ _).of_runs run hexp₂
    exact ⟨Watch.throughout_append.2 ⟨hall, hall'⟩, by rwa [Watch.books_append]⟩
  | destroy h run ih =>
    obtain ⟨hexp₁, hexp₂⟩ := Watch.throughout_append.1 hexp
    obtain ⟨hall, hinv⟩ := ih hexp₁
    obtain ⟨hall', hinv'⟩ := (keeper.destroy hinv _).of_runs run hexp₂
    exact ⟨Watch.throughout_append.2 ⟨hall, hall'⟩, by rwa [Watch.books_append]⟩

/-- If the program of every operation keeps the inner books in step with the outer ones, then an
invariant of the outer books is one of the inner books. -/
theorem Keeper.expand {σ τ : Type} {W : Stamp → Watch Backend σ} {V : Stamp → Watch I τ}
    {Rel : σ → τ → Prop} {Inv : σ → List Alive → Prop}
    {perform : (op : BackendOp) → Program I op.Reply}
    (hop : ∀ stamp op s t, Rel s t → (W stamp).Allows s op → (perform op).Keeps (V stamp) t
      fun r t' => (W stamp).Expects s op r ∧ Rel ((W stamp).after s op r) t')
    (keeper : Keeper (fun _ p => p) W Inv) :
    Keeper (fun _ p => p.expand perform) V fun t live => ∃ s, Rel s t ∧ Inv s live where
  create := by
    rintro t live ⟨s, hrel, hinv⟩ n description image drivers
    exact (keeper.create hinv n description image drivers).expand (hop _) hrel
  invoke := by
    rintro t before after a ⟨s, hrel, hinv⟩ n entry inputs
    exact (keeper.invoke hinv n entry inputs).expand (hop _) hrel
  destroy := by
    rintro t before after a ⟨s, hrel, hinv⟩ n
    exact (keeper.destroy hinv n).expand (hop _) hrel

end Session

end TensorBridge
