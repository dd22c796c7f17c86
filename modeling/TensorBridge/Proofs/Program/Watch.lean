import Mathlib.Tactic.Common
import TensorBridge.Program

/-!
# Watching the calls of a program

A watch keeps books about calls.  The books say which operations may be called and which replies
are to be expected, and every answered call changes them.

* `Program.Keeps W p s Q`: from the books `s` on, the program `p` calls only what `W` allows and
  comes to a value and books with `Q`, as long as the replies are the expected ones.  It is read
  off the tree of the program, one constructor at a time.
* `Action.Meets` is the same for programs that can fail, with one condition for success and one
  for failure.
* `Program.Keeps.of_runs` carries this over to the traces of the program.
* `Program.Keeps.of_run` carries it over to the runs on a handler, with the state of the handler as
  the books.
* `Program.transcript` is the trace of a run on a handler.
* `Program.Keeps.expand` carries it over to the program over another interface that is got by
  expanding every operation: it is enough to look at each operation by itself.
* `Program.Keeps.follow` carries it over to other books about the same calls, and
  `Program.Keeps.both` to the books of two watches together.
* `Watch.tally` adds up what the calls are worth, and forbids nothing.
* `Program.Obeys W p` says that `p` calls only what `W` allows, whatever is in the books.
-/

namespace TensorBridge

/-- Books about the calls of an interface. -/
structure Watch (I : Interface) (σ : Type) where
  /-- Whether an operation may be called. -/
  Allows : σ → I.Op → Prop
  /-- Whether a reply keeps the rules of the interface. -/
  Expects : σ → (op : I.Op) → I.Reply op → Prop
  /-- The books after an answered call. -/
  after : σ → (op : I.Op) → I.Reply op → σ

variable {I J : Interface} {α β σ τ : Type}

namespace Program

/-- From the books `s` on, the program calls only what is allowed and comes to a value and books
with `Q`, as long as the replies are the expected ones. -/
def Keeps (W : Watch I σ) : Program I α → σ → (α → σ → Prop) → Prop
  | done a, s, Q => Q a s
  | call op next, s, Q =>
    W.Allows s op ∧ ∀ r, W.Expects s op r → (next r).Keeps W (W.after s op r) Q
  | note _ next, s, Q => next.Keeps W s Q

section Rules

variable {W : Watch I σ} {s : σ}

@[simp] lemma keeps_done {a : α} {Q : α → σ → Prop} :
    (done a : Program I α).Keeps W s Q ↔ Q a s := Iff.rfl

@[simp] lemma keeps_note {n : Notice} {p : Program I α} {Q : α → σ → Prop} :
    (note n p).Keeps W s Q ↔ p.Keeps W s Q := Iff.rfl

@[simp] lemma keeps_notify {n : Notice} {Q : Unit → σ → Prop} :
    (notify n : Program I Unit).Keeps W s Q ↔ Q () s := Iff.rfl

@[simp] lemma keeps_perform {op : I.Op} {Q : I.Reply op → σ → Prop} :
    (perform op : Program I (I.Reply op)).Keeps W s Q ↔
      W.Allows s op ∧ ∀ r, W.Expects s op r → Q r (W.after s op r) := Iff.rfl

@[simp] lemma keeps_bind {p : Program I α} {f : α → Program I β} {Q : β → σ → Prop} :
    (p >>= f).Keeps W s Q ↔ p.Keeps W s fun a s' => (f a).Keeps W s' Q := by
  induction p generalizing s with
  | done a => simp
  | call op next ih => simp [Keeps, ih]
  | note n next ih => simp [ih]

lemma Keeps.mono {p : Program I α} {Q R : α → σ → Prop} (h : p.Keeps W s Q)
    (hQR : ∀ a s', Q a s' → R a s') : p.Keeps W s R := by
  induction p generalizing s with
  | done a => exact hQR a s h
  | call op next ih => exact ⟨h.1, fun r hr => ih r (h.2 r hr)⟩
  | note n next ih => exact ih h

end Rules

end Program

/-! ## Programs that can fail -/

namespace Action

/-- From the books `s` on, the action calls only what is allowed; it succeeds with `ok` or fails
with `bad`. -/
def Meets (W : Watch I σ) (x : Action I α) (s : σ) (ok : α → σ → Prop)
    (bad : BridgeError → σ → Prop) : Prop :=
  x.run.Keeps W s fun r s' =>
    match r with
    | .ok a => ok a s'
    | .error e => bad e s'

section Rules

variable {W : Watch I σ} {s : σ} {bad : BridgeError → σ → Prop}

@[simp] lemma meets_pure {a : α} {ok : α → σ → Prop} :
    (pure a : Action I α).Meets W s ok bad ↔ ok a s := Iff.rfl

@[simp] lemma meets_throw {e : BridgeError} {ok : α → σ → Prop} :
    (throw e : Action I α).Meets W s ok bad ↔ bad e s := Iff.rfl

@[simp] lemma meets_ofProgram {p : Program I (Except BridgeError α)} {ok : α → σ → Prop} :
    (ofProgram p).Meets W s ok bad ↔ p.Keeps W s fun r s' =>
      match r with
      | .ok a => ok a s'
      | .error e => bad e s' := Iff.rfl

@[simp] lemma meets_always {p : Program I α} {ok : α → σ → Prop} :
    (always p).Meets W s ok bad ↔ p.Keeps W s ok := by
  simp [Meets, always, ExceptT.lift, ExceptT.mk, ExceptT.run, map_eq_pure_bind]

@[simp] lemma meets_bind {x : Action I α} {f : α → Action I β} {ok : β → σ → Prop} :
    (x >>= f).Meets W s ok bad ↔ x.Meets W s (fun a s' => (f a).Meets W s' ok bad) bad := by
  simp only [Meets, ExceptT.run_bind, Program.keeps_bind]
  constructor <;> refine fun h => h.mono fun r s' hr => ?_ <;> cases r <;> exact hr

@[simp] lemma meets_andThen {x : Action I α} {release : Program I Unit} {ok : α → σ → Prop} :
    (x.andThen release).Meets W s ok bad ↔
      x.Meets W s (fun a s' => release.Keeps W s' fun _ t => ok a t)
        (fun e s' => release.Keeps W s' fun _ t => bad e t) := by
  simp only [Meets, andThen, ofProgram, ExceptT.run_mk, Program.keeps_bind, Program.pure_eq_done,
    Program.keeps_done]
  constructor <;> refine fun h => h.mono fun r s' hr => ?_ <;> cases r <;> exact hr

@[simp] lemma meets_onFailure {x : Action I α} {release : Program I Unit} {ok : α → σ → Prop} :
    (x.onFailure release).Meets W s ok bad ↔
      x.Meets W s ok (fun e s' => release.Keeps W s' fun _ t => bad e t) := by
  simp only [Meets, onFailure, ofProgram, ExceptT.run_mk, Program.keeps_bind]
  constructor <;> refine fun h => h.mono fun r s' hr => ?_ <;> cases r <;>
    simpa [Program.keeps_bind] using hr

lemma Meets.mono {x : Action I α} {ok ok' : α → σ → Prop} {bad' : BridgeError → σ → Prop}
    (h : x.Meets W s ok bad) (hok : ∀ a s', ok a s' → ok' a s')
    (hbad : ∀ e s', bad e s' → bad' e s') : x.Meets W s ok' bad' := by
  refine Program.Keeps.mono h fun r s' hr => ?_
  cases r with
  | ok a => exact hok a s' hr
  | error e => exact hbad e s' hr

end Rules

end Action

/-! ## Traces

A trace can hold the items of several programs.  Each item stands in it with a stamp, which tells
to which of them it belongs, and the watch may go by the stamp. -/

namespace Watch

open Program (Item)

variable {ι : Type} (W : ι → Watch I σ)

/-- The books after one thing that happened. -/
def step (s : σ) : ι × Item I → σ
  | (i, .called op reply) => (W i).after s op reply
  | (_, .noted _) => s

/-- The books after a trace. -/
def books (s : σ) (trace : List (ι × Item I)) : σ := trace.foldl (step W) s

/-- One thing that happened is no call, or a call that is allowed. -/
def Permits (s : σ) : ι × Item I → Prop
  | (i, .called op _) => (W i).Allows s op
  | (_, .noted _) => True

/-- One thing that happened is no call, or a call with a reply that is expected. -/
def Admits (s : σ) : ι × Item I → Prop
  | (i, .called op reply) => (W i).Expects s op reply
  | (_, .noted _) => True

/-- Something holds at every place of a trace, with the books as they are there. -/
def Throughout (P : σ → ι × Item I → Prop) (s : σ) : List (ι × Item I) → Prop
  | [] => True
  | e :: rest => P s e ∧ Throughout P (step W s e) rest

/-- Every call of a trace is allowed by the books before it. -/
abbrev PermitsAll (s : σ) (trace : List (ι × Item I)) : Prop := Throughout W (Permits W) s trace

/-- Every reply of a trace is expected by the books before it. -/
abbrev AdmitsAll (s : σ) (trace : List (ι × Item I)) : Prop := Throughout W (Admits W) s trace

variable {W} {s : σ} {first second : List (ι × Item I)} {P : σ → ι × Item I → Prop}

@[simp] lemma books_nil : books W s [] = s := rfl

@[simp] lemma books_cons {e : ι × Item I} :
    books W s (e :: first) = books W (step W s e) first := rfl

@[simp] lemma books_append : books W s (first ++ second) = books W (books W s first) second := by
  simp [books]

@[simp] lemma throughout_append :
    Throughout W P s (first ++ second) ↔
      Throughout W P s first ∧ Throughout W P (books W s first) second := by
  induction first generalizing s with
  | nil => simp [Throughout]
  | cons e rest ih => simp [Throughout, ih, and_assoc]

/-- What holds whatever the books are holds throughout. -/
lemma throughout_of_forall (h : ∀ e ∈ first, ∀ s, P s e) : Throughout W P s first := by
  induction first generalizing s with
  | nil => trivial
  | cons e rest ih =>
    obtain ⟨he, hrest⟩ := List.forall_mem_cons.1 h
    exact ⟨he s, ih hrest⟩

/-- What holds throughout a trace holds of each item with some books. -/
lemma Throughout.exists_of_mem (h : Throughout W P s first) {e : ι × Item I} (he : e ∈ first) :
    ∃ s', P s' e := by
  induction first generalizing s with
  | nil => simp at he
  | cons e' rest ih =>
    rcases List.mem_cons.1 he with rfl | he
    · exact ⟨s, h.1⟩
    · exact ih h.2 he

end Watch

/-- **What a program keeps, its traces keep.** -/
theorem Program.Keeps.of_runs {ι : Type} {W : ι → Watch I σ} {i : ι} {p : Program I α}
    {trace : List (Item I)} {a : α} {Q : α → σ → Prop} {s : σ} (h : p.Keeps (W i) s Q)
    (hr : p.Runs trace a) (hexp : Watch.AdmitsAll W s (trace.map (i, ·))) :
    Watch.PermitsAll W s (trace.map (i, ·)) ∧ Q a (Watch.books W s (trace.map (i, ·))) := by
  induction hr generalizing s with
  | done a => exact ⟨trivial, h⟩
  | call rest ih =>
    obtain ⟨hall, hQ⟩ := ih (h.2 _ hexp.1) hexp.2
    exact ⟨⟨h.1, hall⟩, hQ⟩
  | note rest ih =>
    obtain ⟨hall, hQ⟩ := ih h hexp.2
    exact ⟨⟨trivial, hall⟩, hQ⟩

/-! ## Handlers -/

/-- The watch over a handler: its books are the state of the handler, and it expects the replies of
the handler. -/
def Watch.ofHandler (handle : (op : I.Op) → σ → I.Reply op × σ) : Watch I σ where
  Allows _ _ := True
  Expects s op reply := reply = (handle op s).1
  after s op _ := (handle op s).2

@[simp] lemma Program.keeps_perform_ofHandler
    {handle : (op : I.Op) → σ → I.Reply op × σ} {op : I.Op} {s : σ} {Q : I.Reply op → σ → Prop} :
    (perform op : Program I (I.Reply op)).Keeps (.ofHandler handle) s Q ↔
      Q (handle op s).1 (handle op s).2 := by
  rw [keeps_perform]
  exact ⟨fun h => h.2 _ rfl, fun h => ⟨trivial, fun r hr => hr ▸ h⟩⟩

/-- **What a program keeps, its run on the handler keeps.** -/
theorem Program.Keeps.of_run {handle : (op : I.Op) → σ → I.Reply op × σ} {p : Program I α} {s : σ}
    {Q : α → σ → Prop} (h : p.Keeps (.ofHandler handle) s Q) :
    Q (p.run handle s).value (p.run handle s).state := by
  induction p generalizing s with
  | done a => exact h
  | call op next ih => exact ih _ (h.2 _ rfl)
  | note n next ih => exact ih h

/-- A run of one program after the other. -/
lemma Program.run_bind (handle : (op : I.Op) → σ → I.Reply op × σ) (p : Program I α)
    (f : α → Program I β) (s : σ) :
    (p >>= f).run handle s =
      ⟨((f (p.run handle s).value).run handle (p.run handle s).state).value,
        ((f (p.run handle s).value).run handle (p.run handle s).state).state,
        (p.run handle s).notices ++
          ((f (p.run handle s).value).run handle (p.run handle s).state).notices⟩ := by
  induction p generalizing s with
  | done a => rfl
  | call op next ih => exact ih _ _
  | note n next ih => simp [Program.run, ih]

/-- What happens while a program runs on a handler. -/
def Program.transcript (handle : (op : I.Op) → σ → I.Reply op × σ) :
    Program I α → σ → List (Program.Item I)
  | done _, _ => []
  | call op next, s =>
    .called op (handle op s).1 :: (next (handle op s).1).transcript handle (handle op s).2
  | note n next, s => .noted n :: next.transcript handle s

/-- A run on a handler goes along its transcript. -/
lemma Program.runs_transcript (handle : (op : I.Op) → σ → I.Reply op × σ) (p : Program I α)
    (s : σ) : p.Runs (p.transcript handle s) (p.run handle s).value := by
  induction p generalizing s with
  | done a => exact .done a
  | call op next ih => exact .call (ih _ _)
  | note n next ih => exact .note (ih s)

/-- The replies of a transcript are those of the handler. -/
lemma Program.admits_transcript (handle : (op : I.Op) → σ → I.Reply op × σ) (p : Program I α)
    (s : σ) :
    Watch.AdmitsAll (fun _ : Unit => .ofHandler handle) s
      ((p.transcript handle s).map ((), ·)) := by
  induction p generalizing s with
  | done a => trivial
  | call op next ih => exact ⟨rfl, ih _ _⟩
  | note n next ih => exact ⟨trivial, ih s⟩

/-! ## Expanding the operations -/

/-- If the program of every operation keeps the inner books in step with the outer ones, then so
does every program. -/
theorem Program.Keeps.expand {W : Watch I σ} {V : Watch J τ} {Rel : σ → τ → Prop}
    {carry : (op : I.Op) → Program J (I.Reply op)}
    (hop : ∀ op s t, Rel s t → W.Allows s op →
      (carry op).Keeps V t fun r t' => W.Expects s op r ∧ Rel (W.after s op r) t')
    {p : Program I α} {Q : α → σ → Prop} {s : σ} {t : τ} (h : p.Keeps W s Q) (hrel : Rel s t) :
    (p.expand carry).Keeps V t fun a t' => ∃ s', Rel s' t' ∧ Q a s' := by
  induction p generalizing s t with
  | done a => exact ⟨s, hrel, h⟩
  | call op next ih =>
    simp only [Program.expand, keeps_bind]
    exact (hop op s t hrel h.1).mono fun r t' hr => ih r (h.2 r hr.1) hr.2
  | note n next ih => exact ih h hrel

/-! ## Other books about the same calls -/

/-- If every operation that the first watch allows is allowed by the second one, and keeps the books
of both in step, then so does every program. -/
theorem Program.Keeps.follow {W : Watch I σ} {V : Watch I τ} {Rel : σ → τ → Prop}
    (hop : ∀ op s t, Rel s t → W.Allows s op → V.Allows t op ∧
      ∀ r, V.Expects t op r → W.Expects s op r ∧ Rel (W.after s op r) (V.after t op r))
    {p : Program I α} {Q : α → σ → Prop} {s : σ} {t : τ} (h : p.Keeps W s Q) (hrel : Rel s t) :
    p.Keeps V t fun a t' => ∃ s', Rel s' t' ∧ Q a s' := by
  induction p generalizing s t with
  | done a => exact ⟨s, hrel, h⟩
  | call op next ih =>
    obtain ⟨hallows, hnext⟩ := hop op s t hrel h.1
    exact ⟨hallows, fun r hr => ih r (h.2 r (hnext r hr).1) (hnext r hr).2⟩
  | note n next ih => exact ih h hrel

/-- The watch that keeps the books of two watches. -/
def Watch.both (W : Watch I σ) (V : Watch I τ) : Watch I (σ × τ) where
  Allows s op := W.Allows s.1 op ∧ V.Allows s.2 op
  Expects s op reply := W.Expects s.1 op reply ∧ V.Expects s.2 op reply
  after s op reply := (W.after s.1 op reply, V.after s.2 op reply)

lemma Program.Keeps.both {W : Watch I σ} {V : Watch I τ} {p : Program I α} {s : σ} {t : τ}
    {Q : α → σ → Prop} {R : α → τ → Prop} (h : p.Keeps W s Q) (h' : p.Keeps V t R) :
    p.Keeps (W.both V) (s, t) fun a books => Q a books.1 ∧ R a books.2 := by
  induction p generalizing s t with
  | done a => exact ⟨h, h'⟩
  | call op next ih => exact ⟨⟨h.1, h'.1⟩, fun r hr => ih r (h.2 r hr.1) (h'.2 r hr.2)⟩
  | note n next ih => exact ih h h'

/-! ## Tallies -/

/-- The watch that adds up what the calls are worth. -/
def Watch.tally (worth : (op : I.Op) → I.Reply op → Int) : Watch I Int where
  Allows _ _ := True
  Expects _ _ _ := True
  after n op reply := n + worth op reply

/-- If every operation is carried out by a program that is worth as much, every program is. -/
lemma Program.Keeps.expand_tally {worth : (op : I.Op) → I.Reply op → Int}
    {worth' : (op : J.Op) → J.Reply op → Int} {carry : (op : I.Op) → Program J (I.Reply op)}
    (hop : ∀ op n, (carry op).Keeps (.tally worth') n fun reply n' => n' = n + worth op reply)
    {p : Program I α} {Q : α → Int → Prop} {n : Int} (h : p.Keeps (.tally worth) n Q) :
    (p.expand carry).Keeps (.tally worth') n Q := by
  have hexpand : (p.expand carry).Keeps (.tally worth') n fun a n' => ∃ s', s' = n' ∧ Q a s' :=
    h.expand
      (fun op s t hrel _ => (hop op t).mono fun r t' hr => ⟨trivial, by rw [hrel, hr]; rfl⟩) rfl
  exact hexpand.mono fun a n' ⟨s', hrel, hQ⟩ => hrel ▸ hQ

/-! ## Keeping to the rules from any books on -/

/-- The program calls only what is allowed, whatever is in the books when it starts. -/
def Program.Obeys (W : Watch I σ) (p : Program I α) : Prop := ∀ s, p.Keeps W s fun _ _ => True

/-- The action calls only what is allowed, whatever is in the books when it starts. -/
abbrev Action.Obeys (W : Watch I σ) (x : Action I α) : Prop := x.run.Obeys W

section Obeys

variable {W : Watch I σ}

lemma Program.Obeys.bind {p : Program I α} (hp : p.Obeys W) {f : α → Program I β}
    (hf : ∀ a, (f a).Obeys W) : (p >>= f).Obeys W := by
  intro s
  rw [Program.keeps_bind]
  exact (hp s).mono fun a s' _ => hf a s'

namespace Action

lemma obeys_iff {x : Action I α} :
    x.Obeys W ↔ ∀ s, x.Meets W s (fun _ _ => True) fun _ _ => True := by
  constructor
  · intro h s
    refine (h s).mono fun r s' _ => ?_
    cases r <;> trivial
  · intro h s
    exact Program.Keeps.mono (h s) fun _ _ _ => trivial

lemma Obeys.bind {x : Action I α} (hx : x.Obeys W) {f : α → Action I β} (hf : ∀ a, (f a).Obeys W) :
    (x >>= f).Obeys W := by
  refine obeys_iff.2 fun s => meets_bind.2 ?_
  exact (obeys_iff.1 hx s).mono (fun a s' _ => obeys_iff.1 (hf a) s') fun _ _ _ => trivial

lemma Obeys.andThen {x : Action I α} (hx : x.Obeys W) {release : Program I Unit}
    (hrelease : release.Obeys W) : (x.andThen release).Obeys W :=
  Program.Obeys.bind hx fun _ => hrelease.bind fun _ _ => trivial

end Action

end Obeys

end TensorBridge
