import Mathlib.Tactic.Common
import TensorBridge.Proofs.Program.Watch

/-!
# The traces of programs

Which traces a program has, told by how it is put together: `Program.runs_bind_iff` says it for one
program after the other, and the facts here for the rest.  Each is an equivalence, so a statement
about the traces of a program can be unfolded along its text.

* `Action.runs_bind_iff`, `Action.runs_onFailure_iff` and `Action.runs_andThen_iff` are about
  programs that can fail and about what follows a failure.
* `Program.runs_expand_iff` tells the traces of a program that is carried out by another one: every
  item of an outer trace is replaced by what carries it out.
* `Program.calls` are the calls of a trace, without the notices, and `Program.Makes` says which
  calls a program can make; it can be unfolded in the same way.
* `Program.total` adds up what the calls of a trace are worth; it is what a `Watch.tally` comes to
  (`Program.keeps_tally_iff`).
* `Program.Confined P p` says that `p` calls no operations but those with `P`.  Then its traces show
  no others (`Program.Confined.of_runs`), and it keeps to all rules that always allow those with `P`
  (`Program.Confined.obeys`).
-/

namespace TensorBridge

variable {I J : Interface} {α β : Type}

namespace Program

@[simp] lemma runs_done_iff {a b : α} {trace : List (Item I)} :
    (done a).Runs trace b ↔ trace = [] ∧ b = a := by
  constructor
  · intro h
    cases h
    exact ⟨rfl, rfl⟩
  · rintro ⟨rfl, rfl⟩
    exact .done b

lemma runs_call_iff {op : I.Op} {next : I.Reply op → Program I α} {a : α}
    {trace : List (Item I)} :
    (call op next).Runs trace a ↔
      ∃ reply rest, trace = .called op reply :: rest ∧ (next reply).Runs rest a := by
  constructor
  · intro h
    cases h with
    | call rest => exact ⟨_, _, rfl, rest⟩
  · rintro ⟨reply, rest, rfl, h⟩
    exact .call h

lemma runs_note_iff {n : Notice} {next : Program I α} {a : α} {trace : List (Item I)} :
    (note n next).Runs trace a ↔ ∃ rest, trace = .noted n :: rest ∧ next.Runs rest a := by
  constructor
  · intro h
    cases h with
    | note rest => exact ⟨_, rfl, rest⟩
  · rintro ⟨rest, rfl, h⟩
    exact .note h

lemma runs_perform_iff {op : I.Op} {reply : I.Reply op} {trace : List (Item I)} :
    (perform op : Program I (I.Reply op)).Runs trace reply ↔ trace = [.called op reply] := by
  simp only [perform, runs_call_iff, runs_done_iff]
  constructor
  · rintro ⟨_, _, rfl, rfl, rfl⟩
    rfl
  · rintro rfl
    exact ⟨reply, [], rfl, rfl, rfl⟩

lemma runs_notify_iff {n : Notice} {u : Unit} {trace : List (Item I)} :
    (notify n : Program I Unit).Runs trace u ↔ trace = [.noted n] := by
  simp [notify, runs_note_iff]

/-- Something is made of the result. -/
lemma runs_bind_done_iff {p : Program I α} {f : α → β} {b : β} {trace : List (Item I)} :
    (p >>= fun a => done (f a)).Runs trace b ↔ ∃ a, b = f a ∧ p.Runs trace a := by
  rw [runs_bind_iff]
  constructor
  · rintro ⟨first, second, a, rfl, hp, hdone⟩
    obtain ⟨rfl, rfl⟩ := runs_done_iff.1 hdone
    exact ⟨a, rfl, by rwa [List.append_nil]⟩
  · rintro ⟨a, rfl, hp⟩
    exact ⟨trace, [], a, (List.append_nil trace).symm, hp, .done _⟩

/-! ## Carrying programs out -/

/-- The inner trace comes from the outer one by replacing every call by what carries it out. -/
inductive Expands (perform : (op : I.Op) → Program J (I.Reply op)) :
    List (Item I) → List (Item J) → Prop where
  | nil : Expands perform [] []
  | called {op : I.Op} {reply : I.Reply op} {outer : List (Item I)} {first inner : List (Item J)}
      (carried : (perform op).Runs first reply) (rest : Expands perform outer inner) :
      Expands perform (.called op reply :: outer) (first ++ inner)
  | noted {n : Notice} {outer : List (Item I)} {inner : List (Item J)}
      (rest : Expands perform outer inner) : Expands perform (.noted n :: outer) (.noted n :: inner)

/-- **The traces of a program that is carried out by another one.** -/
theorem runs_expand_iff {perform : (op : I.Op) → Program J (I.Reply op)} {p : Program I α}
    {inner : List (Item J)} {a : α} :
    (p.expand perform).Runs inner a ↔ ∃ outer, p.Runs outer a ∧ Expands perform outer inner := by
  induction p generalizing inner with
  | done b =>
    constructor
    · intro h
      obtain ⟨rfl, rfl⟩ := runs_done_iff.1 h
      exact ⟨[], .done _, .nil⟩
    · rintro ⟨outer, hp, hexp⟩
      obtain ⟨rfl, rfl⟩ := runs_done_iff.1 hp
      cases hexp
      exact .done _
  | call op next ih =>
    constructor
    · intro h
      obtain ⟨first, second, reply, rfl, hfirst, hsecond⟩ := runs_bind_iff.1 h
      obtain ⟨outer, hp, hexp⟩ := (ih reply).1 hsecond
      exact ⟨_, .call hp, .called hfirst hexp⟩
    · rintro ⟨outer, hp, hexp⟩
      obtain ⟨reply, rest, rfl, hnext⟩ := runs_call_iff.1 hp
      cases hexp with
      | called carried hrest =>
        exact runs_bind_iff.2 ⟨_, _, _, rfl, carried, (ih _).2 ⟨_, hnext, hrest⟩⟩
  | note n next ih =>
    constructor
    · intro h
      obtain ⟨rest, rfl, hnext⟩ := runs_note_iff.1 h
      obtain ⟨outer, hp, hexp⟩ := ih.1 hnext
      exact ⟨_, .note hp, .noted hexp⟩
    · rintro ⟨outer, hp, hexp⟩
      obtain ⟨rest, rfl, hnext⟩ := runs_note_iff.1 hp
      cases hexp with
      | noted hrest => exact .note (ih.2 ⟨_, hnext, hrest⟩)

section Expands

variable {perform : (op : I.Op) → Program J (I.Reply op)} {outer : List (Item I)}
  {inner : List (Item J)}

lemma expands_nil_iff : Expands perform [] inner ↔ inner = [] := by
  constructor
  · rintro ⟨⟩
    rfl
  · rintro rfl
    exact .nil

lemma expands_called_iff {op : I.Op} {reply : I.Reply op} :
    Expands perform (.called op reply :: outer) inner ↔ ∃ first rest, inner = first ++ rest ∧
      (perform op).Runs first reply ∧ Expands perform outer rest := by
  constructor
  · rintro (_ | ⟨carried, rest⟩)
    exact ⟨_, _, rfl, carried, rest⟩
  · rintro ⟨first, rest, rfl, carried, h⟩
    exact .called carried h

lemma expands_singleton_iff {op : I.Op} {reply : I.Reply op} :
    Expands perform [.called op reply] inner ↔ (perform op).Runs inner reply := by
  rw [expands_called_iff]
  constructor
  · rintro ⟨first, _, rfl, carried, h⟩
    rwa [expands_nil_iff.1 h, List.append_nil]
  · intro carried
    exact ⟨inner, [], (List.append_nil inner).symm, carried, .nil⟩

/-- What carries out a call of the outer trace is part of the inner one. -/
lemma Expands.exists_of_mem (h : Expands perform outer inner) {op : I.Op} {reply : I.Reply op}
    (hmem : .called op reply ∈ outer) :
    ∃ part, part ⊆ inner ∧ (perform op).Runs part reply := by
  induction h with
  | nil => cases hmem
  | called carried _ ih =>
    rcases List.mem_cons.1 hmem with heq | hmem
    · cases heq
      exact ⟨_, List.subset_append_left _ _, carried⟩
    · obtain ⟨part, hpart, run⟩ := ih hmem
      exact ⟨part, List.subset_append_of_subset_right _ hpart, run⟩
  | noted _ ih =>
    rcases List.mem_cons.1 hmem with heq | hmem
    · cases heq
    · obtain ⟨part, hpart, run⟩ := ih hmem
      exact ⟨part, List.subset_cons_of_subset _ hpart, run⟩

end Expands

/-! ## Calls -/

/-- Whether a call was made, and not just a notice given. -/
def Item.isCall : Item I → Bool
  | .called _ _ => true
  | .noted _ => false

/-- The calls of a trace, in order, with their replies. -/
def calls (trace : List (Item I)) : List (Item I) := trace.filter Item.isCall

@[simp] lemma calls_nil : calls ([] : List (Item I)) = [] := rfl

@[simp] lemma calls_append (first second : List (Item I)) :
    calls (first ++ second) = calls first ++ calls second :=
  List.filter_append first second

@[simp] lemma calls_called (op : I.Op) (reply : I.Reply op) (trace : List (Item I)) :
    calls (.called op reply :: trace) = .called op reply :: calls trace := rfl

@[simp] lemma calls_noted (n : Notice) (trace : List (Item I)) :
    calls (.noted n :: trace) = calls trace := rfl

/-- The program can come to the value by making the calls, in order, and giving any notices. -/
def Makes (p : Program I α) (cs : List (Item I)) (a : α) : Prop :=
  ∃ trace, p.Runs trace a ∧ calls trace = cs

section Makes

variable {cs : List (Item I)}

@[simp] lemma makes_done_iff {a b : α} : (done a : Program I α).Makes cs b ↔ cs = [] ∧ b = a := by
  constructor
  · rintro ⟨trace, run, rfl⟩
    obtain ⟨rfl, rfl⟩ := runs_done_iff.1 run
    exact ⟨rfl, rfl⟩
  · rintro ⟨rfl, rfl⟩
    exact ⟨[], .done b, rfl⟩

lemma makes_perform_iff {op : I.Op} {reply : I.Reply op} :
    (perform op : Program I (I.Reply op)).Makes cs reply ↔ cs = [.called op reply] := by
  constructor
  · rintro ⟨trace, run, rfl⟩
    obtain rfl := runs_perform_iff.1 run
    rfl
  · rintro rfl
    exact ⟨_, runs_perform_iff.2 rfl, rfl⟩

lemma makes_notify_iff {n : Notice} {u : Unit} :
    (notify n : Program I Unit).Makes cs u ↔ cs = [] := by
  constructor
  · rintro ⟨trace, run, rfl⟩
    obtain rfl := runs_notify_iff.1 run
    rfl
  · rintro rfl
    exact ⟨_, runs_notify_iff.2 rfl, rfl⟩

lemma makes_bind_iff {p : Program I α} {f : α → Program I β} {b : β} :
    (p >>= f).Makes cs b ↔
      ∃ first second a, cs = first ++ second ∧ p.Makes first a ∧ (f a).Makes second b := by
  constructor
  · rintro ⟨trace, run, rfl⟩
    obtain ⟨first, second, a, rfl, hp, hf⟩ := runs_bind_iff.1 run
    exact ⟨_, _, a, calls_append first second, ⟨first, hp, rfl⟩, second, hf, rfl⟩
  · rintro ⟨_, _, a, rfl, ⟨first, hp, rfl⟩, second, hf, rfl⟩
    exact ⟨first ++ second, runs_bind_iff.2 ⟨first, second, a, rfl, hp, hf⟩,
      calls_append first second⟩

end Makes

/-! ## Few operations -/

/-- The program calls only operations with `P`, whatever they reply. -/
def Confined (P : I.Op → Prop) : Program I α → Prop
  | done _ => True
  | call op next => P op ∧ ∀ r, (next r).Confined P
  | note _ next => next.Confined P

namespace Confined

variable {P Q : I.Op → Prop} {p : Program I α}

lemma done (a : α) : (done a : Program I α).Confined P := trivial

lemma perform {op : I.Op} (h : P op) : (perform op : Program I (I.Reply op)).Confined P :=
  ⟨h, fun _ => trivial⟩

lemma notify (n : Notice) : (notify n : Program I Unit).Confined P := trivial

lemma bind (hp : p.Confined P) {f : α → Program I β} (hf : ∀ a, (f a).Confined P) :
    (p >>= f).Confined P := by
  induction p with
  | done a => exact hf a
  | call op next ih => exact ⟨hp.1, fun r => ih r (hp.2 r)⟩
  | note n next ih => exact ih hp

lemma mono (hp : p.Confined P) (hPQ : ∀ op, P op → Q op) : p.Confined Q := by
  induction p with
  | done a => trivial
  | call op next ih => exact ⟨hPQ op hp.1, fun r => ih r (hp.2 r)⟩
  | note n next ih => exact ih hp

lemma of_runs (hp : p.Confined P) {trace : List (Item I)} {a : α} (run : p.Runs trace a)
    {op : I.Op} {reply : I.Reply op} (hmem : .called op reply ∈ trace) : P op := by
  induction run with
  | done a => cases hmem
  | call rest ih =>
    rcases List.mem_cons.1 hmem with heq | hmem
    · cases heq
      exact hp.1
    · exact ih (hp.2 _) hmem
  | note rest ih =>
    rcases List.mem_cons.1 hmem with heq | hmem
    · cases heq
    · exact ih hp hmem

/-- A program keeps to the rules if it calls only what is always allowed. -/
lemma obeys {σ : Type} {W : Watch I σ} (hp : p.Confined P) (hP : ∀ s op, P op → W.Allows s op) :
    p.Obeys W := by
  induction p with
  | done a => exact fun _ => trivial
  | call op next ih => exact fun s => ⟨hP s op hp.1, fun r _ => ih r (hp.2 r) _⟩
  | note n next ih => exact fun s => ih hp s

end Confined

/-! ## Totals -/

/-- What something that happened is worth, if it was a call. -/
def Item.worth (worth : (op : I.Op) → I.Reply op → Int) : Item I → Int
  | .called op reply => worth op reply
  | .noted _ => 0

/-- What the calls of a trace are worth together. -/
def total (worth : (op : I.Op) → I.Reply op → Int) : List (Item I) → Int
  | [] => 0
  | item :: rest => item.worth worth + total worth rest

section Totals

variable {worth : (op : I.Op) → I.Reply op → Int} {trace : List (Item I)}

@[simp] lemma total_nil : total worth [] = 0 := rfl

@[simp] lemma total_called (op : I.Op) (reply : I.Reply op) :
    total worth (.called op reply :: trace) = worth op reply + total worth trace := rfl

@[simp] lemma total_noted (n : Notice) : total worth (.noted n :: trace) = total worth trace :=
  Int.zero_add _

@[simp] lemma total_append (first second : List (Item I)) :
    total worth (first ++ second) = total worth first + total worth second := by
  induction first with
  | nil => exact (Int.zero_add _).symm
  | cons item rest ih => rw [List.cons_append, total, total, ih, Int.add_assoc]

lemma total_calls (trace : List (Item I)) : total worth (calls trace) = total worth trace := by
  induction trace with
  | nil => rfl
  | cons item rest ih => cases item <;> simp [ih]

/-- What a tally comes to is told by the traces. -/
lemma keeps_tally_iff {p : Program I α} {n : Int} {Q : α → Int → Prop} :
    p.Keeps (.tally worth) n Q ↔ ∀ trace a, p.Runs trace a → Q a (n + total worth trace) := by
  induction p generalizing n with
  | done a =>
    constructor
    · intro h trace b run
      obtain ⟨rfl, rfl⟩ := runs_done_iff.1 run
      rwa [total_nil, Int.add_zero]
    · intro h
      simpa using h [] a (.done a)
  | call op next ih =>
    constructor
    · intro h trace a run
      obtain ⟨reply, rest, rfl, hrest⟩ := runs_call_iff.1 run
      have hnext := (ih reply).1 (h.2 reply trivial) rest a hrest
      rw [total_called, ← Int.add_assoc]
      exact hnext
    · intro h
      refine ⟨trivial, fun reply _ => (ih reply).2 fun trace a run => ?_⟩
      have hcall := h (.called op reply :: trace) a (.call run)
      rw [total_called, ← Int.add_assoc] at hcall
      exact hcall
  | note m next ih =>
    constructor
    · intro h trace a run
      obtain ⟨rest, rfl, hrest⟩ := runs_note_iff.1 run
      rw [total_noted]
      exact ih.1 h rest a hrest
    · intro h
      refine ih.2 fun trace a run => ?_
      have hnote := h (.noted m :: trace) a (.note run)
      rwa [total_noted] at hnote

/-- A program that calls only what is worth nothing leaves a tally as it is. -/
lemma Confined.keeps_tally {p : Program I α} (hp : p.Confined fun op => ∀ reply, worth op reply = 0)
    {n : Int} : p.Keeps (.tally worth) n fun _ n' => n' = n := by
  induction p generalizing n with
  | done a => rfl
  | call op next ih =>
    refine ⟨trivial, fun reply _ => (ih reply (hp.2 reply)).mono fun a n' h => ?_⟩
    calc n' = n + worth op reply := h
      _ = n := by rw [hp.1 reply, Int.add_zero]
  | note m next ih => exact ih hp

end Totals

end Program

/-! ## Programs that can fail -/

namespace Action

open Program (Item)

variable {x : Action I α} {trace : List (Item I)}

lemma runs_pure_iff {a : α} {r : Except BridgeError α} :
    (pure a : Action I α).run.Runs trace r ↔ trace = [] ∧ r = .ok a :=
  Program.runs_done_iff

lemma runs_always_iff {p : Program I α} {r : Except BridgeError α} :
    (always p).run.Runs trace r ↔ ∃ a, r = .ok a ∧ p.Runs trace a := by
  have hrun : (always p).run = p >>= fun a => Program.done (.ok a) := by
    simp [always, ExceptT.lift, ExceptT.mk, ExceptT.run, map_eq_pure_bind]
  rw [hrun, Program.runs_bind_done_iff]

/-- One action after the other: the first one fails, or the second one follows. -/
theorem runs_bind_iff {f : α → Action I β} {r : Except BridgeError β} :
    (x >>= f).run.Runs trace r ↔
      (∃ e, r = .error e ∧ x.run.Runs trace (.error e)) ∨
        ∃ first second a, trace = first ++ second ∧ x.run.Runs first (.ok a) ∧
          (f a).run.Runs second r := by
  rw [ExceptT.run_bind, Program.runs_bind_iff]
  constructor
  · rintro ⟨first, second, e | a, rfl, hx, hf⟩
    · obtain ⟨rfl, rfl⟩ := Program.runs_done_iff.1 hf
      exact .inl ⟨e, rfl, by simpa using hx⟩
    · exact .inr ⟨first, second, a, rfl, hx, hf⟩
  · rintro (⟨e, rfl, hx⟩ | ⟨first, second, a, rfl, hx, hf⟩)
    · exact ⟨trace, [], .error e, by simp, hx, .done _⟩
    · exact ⟨first, second, .ok a, rfl, hx, hf⟩

/-- Asking first, and going on with the reply. -/
lemma runs_ask_iff {op : I.Op} {f : I.Reply op → Action I β} {r : Except BridgeError β} :
    (always (Program.perform op) >>= f).run.Runs trace r ↔
      ∃ reply later, trace = .called op reply :: later ∧ (f reply).run.Runs later r := by
  rw [runs_bind_iff]
  constructor
  · rintro (⟨e, -, h⟩ | ⟨first, later, reply, rfl, h, hf⟩)
    · obtain ⟨_, he, -⟩ := runs_always_iff.1 h
      cases he
    · obtain ⟨_, hreply, hasked⟩ := runs_always_iff.1 h
      cases hreply
      obtain rfl := Program.runs_perform_iff.1 hasked
      exact ⟨reply, later, rfl, hf⟩
  · rintro ⟨reply, later, rfl, hf⟩
    refine .inr ⟨[_], later, reply, rfl, runs_always_iff.2 ⟨reply, rfl, ?_⟩, hf⟩
    exact Program.runs_perform_iff.2 rfl

/-- Giving a notice first. -/
lemma runs_tell_iff {n : Notice} {f : Unit → Action I β} {r : Except BridgeError β} :
    (always (Program.notify n) >>= f).run.Runs trace r ↔
      ∃ later, trace = .noted n :: later ∧ (f ()).run.Runs later r := by
  rw [runs_bind_iff]
  constructor
  · rintro (⟨e, -, h⟩ | ⟨first, later, _, rfl, h, hf⟩)
    · obtain ⟨_, he, -⟩ := runs_always_iff.1 h
      cases he
    · obtain ⟨_, -, htold⟩ := runs_always_iff.1 h
      obtain rfl := Program.runs_notify_iff.1 htold
      exact ⟨later, rfl, hf⟩
  · rintro ⟨later, rfl, hf⟩
    refine .inr ⟨[_], later, (), rfl, runs_always_iff.2 ⟨(), rfl, ?_⟩, hf⟩
    exact Program.runs_notify_iff.2 rfl

/-- What follows a failure changes nothing about the result. -/
theorem runs_onFailure_iff {release : Program I Unit} {r : Except BridgeError α} :
    (x.onFailure release).run.Runs trace r ↔
      (∃ a, r = .ok a ∧ x.run.Runs trace (.ok a)) ∨
        ∃ e first second, r = .error e ∧ trace = first ++ second ∧ x.run.Runs first (.error e) ∧
          release.Runs second () := by
  simp only [onFailure, ofProgram, ExceptT.run_mk, Program.runs_bind_iff]
  constructor
  · rintro ⟨first, second, e | a, rfl, hx, hf⟩
    · obtain ⟨second, third, _, rfl, hrelease, hdone⟩ := Program.runs_bind_iff.1 hf
      obtain ⟨rfl, rfl⟩ := Program.runs_done_iff.1 hdone
      exact .inr ⟨e, first, second, rfl, by simp, hx, hrelease⟩
    · obtain ⟨rfl, rfl⟩ := Program.runs_done_iff.1 hf
      exact .inl ⟨a, rfl, by simpa using hx⟩
  · rintro (⟨a, rfl, hx⟩ | ⟨e, first, second, rfl, rfl, hx, hrelease⟩)
    · exact ⟨trace, [], .ok a, by simp, hx, .done _⟩
    · refine ⟨first, second, .error e, rfl, hx, Program.runs_bind_iff.2 ?_⟩
      exact ⟨second, [], (), by simp, hrelease, .done _⟩

/-- Something is made, used, and given back if that fails. -/
lemma runs_guarded_iff {f : α → Action I β} {release : α → Program I Unit}
    {r : Except BridgeError β} :
    (x >>= fun a => (f a).onFailure (release a)).run.Runs trace r ↔
      (∃ e, r = .error e ∧ x.run.Runs trace (.error e)) ∨
        ∃ first second third a, trace = first ++ (second ++ third) ∧ x.run.Runs first (.ok a) ∧
          (f a).run.Runs second r ∧
          match r with
          | .ok _ => third = []
          | .error _ => (release a).Runs third () := by
  rw [runs_bind_iff]
  refine or_congr_right ⟨?_, ?_⟩
  · rintro ⟨first, later, a, rfl, hx, h⟩
    rcases runs_onFailure_iff.1 h with ⟨b, rfl, hf⟩ | ⟨e, second, third, rfl, rfl, hf, hrelease⟩
    · exact ⟨first, later, [], a, by simp, hx, hf, rfl⟩
    · exact ⟨first, second, third, a, rfl, hx, hf, hrelease⟩
  · rintro ⟨first, second, third, a, rfl, hx, hf, hrelease⟩
    refine ⟨first, second ++ third, a, rfl, hx, runs_onFailure_iff.2 ?_⟩
    cases r with
    | ok b => exact .inl ⟨b, rfl, by rwa [hrelease, List.append_nil]⟩
    | error e => exact .inr ⟨e, second, third, rfl, rfl, hf, hrelease⟩

/-- What follows in any case changes nothing about the result. -/
theorem runs_andThen_iff {release : Program I Unit} {r : Except BridgeError α} :
    (x.andThen release).run.Runs trace r ↔
      ∃ first second, trace = first ++ second ∧ x.run.Runs first r ∧ release.Runs second () := by
  simp only [andThen, ofProgram, ExceptT.run_mk, Program.runs_bind_iff]
  constructor
  · rintro ⟨first, _, r', rfl, hx, second, third, _, rfl, hrelease, hdone⟩
    obtain ⟨rfl, rfl⟩ := Program.runs_done_iff.1 hdone
    exact ⟨first, second, by simp, hx, hrelease⟩
  · rintro ⟨first, second, rfl, hx, hrelease⟩
    exact ⟨first, second, r, rfl, hx, second, [], (), by simp, hrelease, .done r⟩

section Makes

variable {cs : List (Item I)}

lemma makes_pure_iff {a : α} {r : Except BridgeError α} :
    (pure a : Action I α).run.Makes cs r ↔ cs = [] ∧ r = .ok a :=
  Program.makes_done_iff

lemma makes_throw_iff {e : BridgeError} {r : Except BridgeError α} :
    (throw e : Action I α).run.Makes cs r ↔ cs = [] ∧ r = .error e :=
  Program.makes_done_iff

lemma makes_always_iff {p : Program I α} {r : Except BridgeError α} :
    (always p).run.Makes cs r ↔ ∃ a, r = .ok a ∧ p.Makes cs a := by
  constructor
  · rintro ⟨trace, run, rfl⟩
    obtain ⟨a, rfl, hp⟩ := runs_always_iff.1 run
    exact ⟨a, rfl, trace, hp, rfl⟩
  · rintro ⟨a, rfl, trace, hp, rfl⟩
    exact ⟨trace, runs_always_iff.2 ⟨a, rfl, hp⟩, rfl⟩

theorem makes_bind_iff {f : α → Action I β} {r : Except BridgeError β} :
    (x >>= f).run.Makes cs r ↔
      (∃ e, r = .error e ∧ x.run.Makes cs (.error e)) ∨
        ∃ first second a, cs = first ++ second ∧ x.run.Makes first (.ok a) ∧
          (f a).run.Makes second r := by
  constructor
  · rintro ⟨trace, run, rfl⟩
    rcases runs_bind_iff.1 run with ⟨e, rfl, hx⟩ | ⟨first, second, a, rfl, hx, hf⟩
    · exact .inl ⟨e, rfl, trace, hx, rfl⟩
    · exact .inr ⟨_, _, a, Program.calls_append _ _, ⟨first, hx, rfl⟩, second, hf, rfl⟩
  · rintro (⟨e, rfl, trace, hx, rfl⟩ | ⟨_, _, a, rfl, ⟨first, hx, rfl⟩, second, hf, rfl⟩)
    · exact ⟨trace, runs_bind_iff.2 (.inl ⟨e, rfl, hx⟩), rfl⟩
    · exact ⟨first ++ second, runs_bind_iff.2 (.inr ⟨first, second, a, rfl, hx, hf⟩),
        Program.calls_append _ _⟩

lemma makes_ask_iff {op : I.Op} {f : I.Reply op → Action I β} {r : Except BridgeError β} :
    (always (Program.perform op) >>= f).run.Makes cs r ↔
      ∃ reply later, cs = .called op reply :: later ∧ (f reply).run.Makes later r := by
  constructor
  · rintro ⟨trace, run, rfl⟩
    obtain ⟨reply, later, rfl, hf⟩ := runs_ask_iff.1 run
    exact ⟨reply, _, rfl, later, hf, rfl⟩
  · rintro ⟨reply, _, rfl, later, hf, rfl⟩
    exact ⟨_, runs_ask_iff.2 ⟨reply, later, rfl, hf⟩, rfl⟩

theorem makes_onFailure_iff {release : Program I Unit} {r : Except BridgeError α} :
    (x.onFailure release).run.Makes cs r ↔
      (∃ a, r = .ok a ∧ x.run.Makes cs (.ok a)) ∨
        ∃ e first second, r = .error e ∧ cs = first ++ second ∧ x.run.Makes first (.error e) ∧
          release.Makes second () := by
  constructor
  · rintro ⟨trace, run, rfl⟩
    rcases runs_onFailure_iff.1 run with ⟨a, rfl, hx⟩ | ⟨e, first, second, rfl, rfl, hx, hrel⟩
    · exact .inl ⟨a, rfl, trace, hx, rfl⟩
    · exact .inr ⟨e, _, _, rfl, Program.calls_append _ _, ⟨first, hx, rfl⟩, second, hrel, rfl⟩
  · rintro (⟨a, rfl, trace, hx, rfl⟩ | ⟨e, _, _, rfl, rfl, ⟨first, hx, rfl⟩, second, hrel, rfl⟩)
    · exact ⟨trace, runs_onFailure_iff.2 (.inl ⟨a, rfl, hx⟩), rfl⟩
    · exact ⟨first ++ second,
        runs_onFailure_iff.2 (.inr ⟨e, first, second, rfl, rfl, hx, hrel⟩),
        Program.calls_append _ _⟩

theorem makes_andThen_iff {release : Program I Unit} {r : Except BridgeError α} :
    (x.andThen release).run.Makes cs r ↔
      ∃ first second, cs = first ++ second ∧ x.run.Makes first r ∧ release.Makes second () := by
  constructor
  · rintro ⟨trace, run, rfl⟩
    obtain ⟨first, second, rfl, hx, hrel⟩ := runs_andThen_iff.1 run
    exact ⟨_, _, Program.calls_append _ _, ⟨first, hx, rfl⟩, second, hrel, rfl⟩
  · rintro ⟨_, _, rfl, ⟨first, hx, rfl⟩, second, hrel, rfl⟩
    exact ⟨first ++ second, runs_andThen_iff.2 ⟨first, second, rfl, hx, hrel⟩,
      Program.calls_append _ _⟩

/-- Something is made, used, and given back in any case. -/
lemma makes_bracket_iff {f : α → Action I β} {release : α → Program I Unit}
    {r : Except BridgeError β} :
    (x >>= fun a => (f a).andThen (release a)).run.Makes cs r ↔
      (∃ e, r = .error e ∧ x.run.Makes cs (.error e)) ∨
        ∃ first second third a, cs = first ++ (second ++ third) ∧ x.run.Makes first (.ok a) ∧
          (f a).run.Makes second r ∧ (release a).Makes third () := by
  rw [makes_bind_iff]
  constructor
  · rintro (hx | ⟨first, later, a, rfl, hx, h⟩)
    · exact .inl hx
    · obtain ⟨second, third, rfl, hf, hrel⟩ := makes_andThen_iff.1 h
      exact .inr ⟨first, second, third, a, rfl, hx, hf, hrel⟩
  · rintro (hx | ⟨first, second, third, a, rfl, hx, hf, hrel⟩)
    · exact .inl hx
    · exact .inr ⟨first, second ++ third, a, rfl, hx,
        makes_andThen_iff.2 ⟨second, third, rfl, hf, hrel⟩⟩

/-- Something is made, used, and given back if that fails: the way of success. -/
lemma makes_guarded_ok_iff {f : α → Action I β} {release : α → Program I Unit} {b : β} :
    (x >>= fun a => (f a).onFailure (release a)).run.Makes cs (.ok b) ↔
      ∃ first second a, cs = first ++ second ∧ x.run.Makes first (.ok a) ∧
        (f a).run.Makes second (.ok b) := by
  rw [makes_bind_iff]
  constructor
  · rintro (⟨e, h, -⟩ | ⟨first, second, a, rfl, hx, h⟩)
    · cases h
    · rcases makes_onFailure_iff.1 h with ⟨_, hb, hf⟩ | ⟨_, _, _, hb, -⟩
      · cases hb
        exact ⟨first, second, a, rfl, hx, hf⟩
      · cases hb
  · rintro ⟨first, second, a, rfl, hx, hf⟩
    exact .inr ⟨first, second, a, rfl, hx, makes_onFailure_iff.2 (.inl ⟨b, rfl, hf⟩)⟩

/-- Something is made, used, and given back if that fails: the ways of failure. -/
lemma makes_guarded_error_iff {f : α → Action I β} {release : α → Program I Unit}
    {e : BridgeError} :
    (x >>= fun a => (f a).onFailure (release a)).run.Makes cs (.error e) ↔
      x.run.Makes cs (.error e) ∨
        ∃ first second third a, cs = first ++ (second ++ third) ∧ x.run.Makes first (.ok a) ∧
          (f a).run.Makes second (.error e) ∧ (release a).Makes third () := by
  rw [makes_bind_iff]
  constructor
  · rintro (⟨e', he, hx⟩ | ⟨first, later, a, rfl, hx, h⟩)
    · cases he
      exact .inl hx
    · rcases makes_onFailure_iff.1 h with ⟨_, he, -⟩ | ⟨e', second, third, he, rfl, hf, hrel⟩
      · cases he
      · cases he
        exact .inr ⟨first, second, third, a, rfl, hx, hf, hrel⟩
  · rintro (hx | ⟨first, second, third, a, rfl, hx, hf, hrel⟩)
    · exact .inl ⟨e, rfl, hx⟩
    · exact .inr ⟨first, second ++ third, a, rfl, hx,
        makes_onFailure_iff.2 (.inr ⟨e, second, third, rfl, rfl, hf, hrel⟩)⟩

end Makes

/-- The action calls only operations with `P`, whatever they reply. -/
abbrev Confined (P : I.Op → Prop) (x : Action I α) : Prop := x.run.Confined P

namespace Confined

variable {P : I.Op → Prop}

lemma pure (a : α) : (pure a : Action I α).Confined P := trivial

lemma throw (e : BridgeError) : (throw e : Action I α).Confined P := trivial

lemma always {p : Program I α} (hp : p.Confined P) : (always p).Confined P := by
  unfold Confined Action.always
  rw [ExceptT.run_lift]
  exact Program.Confined.bind hp fun a => .done _

lemma bind (hx : x.Confined P) {f : α → Action I β} (hf : ∀ a, (f a).Confined P) :
    (x >>= f).Confined P := by
  unfold Confined
  rw [ExceptT.run_bind]
  refine Program.Confined.bind hx fun r => ?_
  cases r with
  | ok a => exact hf a
  | error e => exact .done _

end Confined

end Action

end TensorBridge
