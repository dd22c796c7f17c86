import Mathlib
import TensorBridge.Proofs.Memory.Machine
import TensorBridge.Proofs.Memory.Moments

/-!
# Scripts leave nothing behind

Whatever a script does to the runtime in memory, with whatever faults: no rule of the runtime is
ever broken, there are no lists and no views between two steps, and three handles are live for every
session.  `Memory.script_tidy` says so, and also that every moment between two calls is a sound one.

The calls of a step are those of `World.program`; `World.step_eq` proves that carrying out a step
is to run this program.
-/

namespace TensorBridge

namespace Memory

/-! ## Steps as programs -/

/-- What a step does to the runtime before it calls anything. -/
def Step.prepare : Step → Memory → Memory
  | .inject fault, m => m.inject fault
  | .failDriver driver, m => m.failDriver driver
  | _, m => m

namespace World

/-- What a step calls, what it answers, and the sessions that are there then. -/
def program (w : World) : Step → Program Backend (StepAnswer × NameTable Session)
  | .inject _ | .failDriver _ => return (.done, w.sessions)
  | .create name image drivers => do
    match ← (Session.create description image (drivers.getD defaultDrivers)).run with
    | .error e => return (.failed e, w.sessions)
    | .ok session =>
      match w.sessions.get? name with
      | none => pure ()
      | some old => old.destroy
      return (.session (session.summary description), w.sessions.insert name session)
  | .invoke name entry inputs =>
    match w.sessions.get? name, inputs with
    | none, _ => return (.noSession, w.sessions)
    | some _, .error e => return (.badInput e, w.sessions)
    | some session, .ok inputs => do
      match ← session.invoke entry inputs with
      | (.ok tensors, session) => return (.results tensors, w.sessions.insert name session)
      | (.error e, session) => return (.failed e, w.sessions.insert name session)
  | .inspect name =>
    match w.sessions.get? name with
    | none => return (.noSession, w.sessions)
    | some session => return (.session (session.summary description), w.sessions)
  | .destroy name =>
    match w.sessions.get? name with
    | none => return (.noSession, w.sessions)
    | some session => do
      session.destroy
      return (.done, w.sessions.erase name)

/-- What comes of running the program of a step. -/
def outcome (w : World) (s : Step) : StepAnswer × World × List Notice :=
  let o := (w.program s).run handle (s.prepare w.memory)
  (o.value.1, ⟨o.state, o.value.2⟩, o.notices)

/-- **To carry out a step** is to run its program. -/
theorem step_eq (w : World) (s : Step) : w.step s = w.outcome s := by
  cases s with
  | inject fault => rfl
  | failDriver driver => rfl
  | create name image drivers =>
    simp only [step, outcome, program, perform, Step.prepare, Program.run_bind]
    generalize (Session.create description image (drivers.getD defaultDrivers)).run.run handle
      w.memory = o
    obtain ⟨e | session, memory, notices⟩ := o
    · simp [Program.run]
    rcases hold : w.sessions.get? name with _ | old
    · simp [Program.run, hold]
    · simp [Program.run, Program.run_bind, discard, perform, hold]
  | invoke name entry inputs =>
    simp only [step, outcome, program, perform, Step.prepare]
    rcases w.sessions.get? name with _ | session
    · rfl
    rcases inputs with e | inputs
    · rfl
    simp only [Program.run_bind]
    generalize (session.invoke entry inputs).run handle w.memory = o
    obtain ⟨⟨e | tensors, session'⟩, memory, notices⟩ := o
    · simp [Program.run]
    · simp [Program.run]
  | inspect name =>
    simp only [step, outcome, program]
    rcases w.sessions.get? name with _ | session <;> rfl
  | destroy name =>
    simp only [step, outcome, program, discard, perform, Step.prepare]
    rcases w.sessions.get? name with _ | session
    · rfl
    · simp [Program.run, Program.run_bind]

/-! ## Custody -/

section Custody

variable {sessions : NameTable Session} {name : String} {session : Session}

lemma custodyFor_values (hordered : sessions.Ordered) (h : sessions.get? name = some session) :
    custodyFor sessions.values = session.custody 0 + custodyFor (sessions.erase name).values := by
  rw [← custodyFor_cons, custodyFor, custodyFor]
  exact ((hordered.values_perm h).map _).sum_eq

lemma custodyFor_insert (hordered : sessions.Ordered) :
    custodyFor (sessions.insert name session).values =
      session.custody 0 + custodyFor (sessions.erase name).values := by
  rw [← custodyFor_cons, custodyFor, custodyFor]
  exact (hordered.values_insert_perm.map _).sum_eq

end Custody

/-- **A step** keeps the handles of the sessions in custody, and nothing else. -/
theorem program_keeps {w : World} (hordered : w.sessions.Ordered) (s : Step) {c : Custody}
    (hc : c.held = custodyFor w.sessions.values) :
    (w.program s).Keeps (Custody.watch ⟨0, 0⟩) c fun r c' =>
      r.2.Ordered ∧ c'.held = custodyFor r.2.values := by
  cases s with
  | inject fault => exact ⟨hordered, hc⟩
  | failDriver driver => exact ⟨hordered, hc⟩
  | create name image drivers =>
    simp only [program, Program.keeps_bind]
    refine Program.Keeps.mono Session.create_meets fun r c₁ h₁ => ?_
    cases r with
    | error e => exact ⟨hordered, h₁.trans hc⟩
    | ok session =>
      have h₁ : c₁.held = session.custody 0 + c.held := h₁
      have hinsert : (w.sessions.insert name session).Ordered := hordered.insert
      rcases hold : w.sessions.get? name with _ | old
      · refine ⟨hinsert, ?_⟩
        rw [h₁, hc, custodyFor_insert hordered, NameTable.erase_of_get?_eq_none hold]
      -- The old session is still in custody and leaves it now.
      · rw [hc, custodyFor_values hordered hold, add_left_comm] at h₁
        simp only [Program.keeps_bind]
        refine (Session.destroy_keeps h₁).mono fun _ c₂ h₂ => ⟨hinsert, ?_⟩
        rw [h₂, custodyFor_insert hordered]
  | invoke name entry inputs =>
    simp only [program]
    rcases hsession : w.sessions.get? name with _ | session
    · exact ⟨hordered, hc⟩
    rcases inputs with e | inputs
    · exact ⟨hordered, hc⟩
    have hsplit := custodyFor_values hordered hsession
    simp only [Program.keeps_bind]
    refine (Session.invoke_keeps ?_).mono fun r c₁ h₁ => ?_
    · rw [hc, hsplit, Session.custody_add]
      exact Multiset.mem_cons_self _ _
    · obtain ⟨hheld, hhandles⟩ := h₁
      have hsame : c₁.held = custodyFor (w.sessions.insert name r.2).values := by
        rw [hheld, hc, hsplit, custodyFor_insert hordered, Session.custody, Session.custody,
          hhandles]
      obtain ⟨e | tensors, session'⟩ := r
      · exact ⟨hordered.insert, hsame⟩
      · exact ⟨hordered.insert, hsame⟩
  | inspect name =>
    simp only [program]
    rcases w.sessions.get? name with _ | session
    · exact ⟨hordered, hc⟩
    · exact ⟨hordered, hc⟩
  | destroy name =>
    simp only [program]
    rcases hsession : w.sessions.get? name with _ | session
    · exact ⟨hordered, hc⟩
    · rw [custodyFor_values hordered hsession] at hc
      simp only [Program.keeps_bind]
      exact (Session.destroy_keeps hc).mono fun _ c₁ h₁ => ⟨hordered.erase, h₁⟩

/-- A step keeps to the rules about lengths. -/
lemma program_obeys (w : World) (s : Step) : (w.program s).Obeys Lengths.watch := by
  cases s with
  | inject fault => exact fun _ => trivial
  | failDriver driver => exact fun _ => trivial
  | create name image drivers =>
    refine .bind (Session.create_obeys _ _ _) fun r => ?_
    rcases r with e | session
    · exact fun _ => trivial
    · simp only
      rcases w.sessions.get? name with _ | old
      · exact fun _ => trivial
      · exact .bind old.destroy_obeys fun _ _ => trivial
  | invoke name entry inputs =>
    simp only [program]
    rcases w.sessions.get? name with _ | session
    · exact fun _ => trivial
    rcases inputs with e | inputs
    · exact fun _ => trivial
    refine .bind (session.invoke_obeys entry inputs) fun r => ?_
    obtain ⟨e | tensors, session'⟩ := r <;> exact fun _ => trivial
  | inspect name =>
    simp only [program]
    rcases w.sessions.get? name with _ | session <;> exact fun _ => trivial
  | destroy name =>
    simp only [program]
    rcases w.sessions.get? name with _ | session
    · exact fun _ => trivial
    · exact .bind session.destroy_obeys fun _ _ => trivial

/-! ## Steps -/

/-- The moments of a step. -/
def moments (w : World) (s : Step) : List Moment := (w.program s).moments ⟨s.prepare w.memory, ∅⟩

/-- Between two steps, the runtime holds what the sessions hold. -/
structure Settled (w : World) : Prop where
  ordered : w.sessions.Ordered
  owned : ∃ s, Owned s w.sessions.values w.memory

namespace Settled

variable {w : World}

lemma start : Settled {} := ⟨Refines.start.ordered, {}, Refines.start.holds⟩

/-- To set a fault changes nothing that is held. -/
lemma prepare (h : Settled w) (s : Step) : ∃ t, Owned t w.sessions.values (s.prepare w.memory) := by
  obtain ⟨t, howned⟩ := h.owned
  cases s with
  | inject fault =>
    exact ⟨⟨(w.memory.inject fault).faults.toFinset, t.failing⟩, { howned with faults_eq := rfl }⟩
  | failDriver driver =>
    exact ⟨⟨t.faults, (w.memory.failDriver driver).failingDrivers.toFinset⟩,
      { howned with failing_eq := rfl }⟩
  | create name image drivers => exact ⟨t, howned⟩
  | invoke name entry inputs => exact ⟨t, howned⟩
  | inspect name => exact ⟨t, howned⟩
  | destroy name => exact ⟨t, howned⟩

/-- **One step**: its moments are sound, the last one is the one after the step, and then the
runtime holds again what the sessions hold. -/
theorem step (h : Settled w) (s : Step) :
    Settled (w.step s).2.1 ∧ Moment.SoundTo (w.moments s) (w.step s).2.1.memory := by
  obtain ⟨t, howned⟩ := h.prepare s
  obtain ⟨hsound, hordered, howned'⟩ :=
    run_sound (program_keeps h.ordered s rfl) (w.program_obeys s) howned
  rw [step_eq]
  exact ⟨⟨hordered, t, howned'⟩, hsound⟩

end Settled

/-! ## Scripts -/

/-- The world after a script. -/
def after (w : World) (script : List Step) : World := script.foldl (fun w s => (w.step s).2.1) w

/-- The steps of a script are those from the worlds after its beginnings. -/
lemma mem_steps {w : World} {script : List Step} {r : StepAnswer × World × List Notice}
    (h : r ∈ w.steps script) :
    ∃ before s rest, script = before ++ s :: rest ∧ r = (w.after before).step s := by
  induction script generalizing w with
  | nil => cases h
  | cons s rest ih =>
    rcases List.mem_cons.1 h with rfl | h
    · exact ⟨[], s, rest, rfl, rfl⟩
    · obtain ⟨before, s', rest', rfl, rfl⟩ := ih h
      exact ⟨s :: before, s', rest', rfl, rfl⟩

lemma Settled.after {w : World} (h : Settled w) (script : List Step) :
    Settled (w.after script) := by
  induction script generalizing w with
  | nil => exact h
  | cons s rest ih => exact ih (h.step s).1

/-! ## The end -/

/-- Destroys sessions one after the other. -/
def closing : List Session → Program Backend Unit
  | [] => pure ()
  | session :: rest => do
    session.destroy
    closing rest

/-- To finish is to destroy all sessions. -/
lemma finish_eq (w : World) :
    w.finish = ⟨((closing w.sessions.values).run handle w.memory).state, {}⟩ := by
  have hfold (sessions : List Session) (w : World) :
      sessions.foldl (fun w session => (w.discard session).1) w =
        ⟨((closing sessions).run handle w.memory).state, w.sessions⟩ := by
    induction sessions generalizing w with
    | nil => rfl
    | cons session rest ih =>
      rw [List.foldl_cons, ih, closing, Program.run_bind]
      rfl
  exact hfold _ _

lemma closing_keeps {sessions : List Session} {c : Custody} (hc : c.held = custodyFor sessions) :
    (closing sessions).Keeps (Custody.watch ⟨0, 0⟩) c fun _ c' => c'.held = custodyFor [] := by
  induction sessions generalizing c with
  | nil => exact hc
  | cons session rest ih =>
    simp only [closing, Program.keeps_bind]
    exact (Session.destroy_keeps hc).mono fun _ c₁ h₁ => ih h₁

lemma closing_obeys (sessions : List Session) : (closing sessions).Obeys Lengths.watch := by
  induction sessions with
  | nil => exact fun _ => trivial
  | cons session rest ih => exact .bind session.destroy_obeys fun _ => ih

/-! ## Nothing is left -/

/-- No rule has been broken, there are no lists and no views, and three handles are live for every
session. -/
structure Tidy (w : World) : Prop where
  intact : w.memory.defect? = none
  lists_eq : w.memory.lists = []
  views_eq : w.memory.views = []
  liveHandles_eq : w.memory.liveHandles = 3 * w.sessions.values.length

lemma Settled.tidy {w : World} (h : Settled w) : w.Tidy := by
  obtain ⟨s, howned⟩ := h.owned
  have hviews : w.memory.views = [] := howned.views_eq.trans viewTable_zero
  refine ⟨howned.intact, howned.lists_eq, hviews, ?_⟩
  have hlength (sessions : List Session) :
      (sessions.flatMap addresses).length = 3 * sessions.length := by
    induction sessions with
    | nil => rfl
    | cons session rest ih =>
      rw [List.flatMap_cons, List.length_append, ih, List.length_cons]
      show 3 + _ = _
      omega
  rw [liveHandles, hviews, howned.live_perm.length_eq, hlength, List.length_nil, add_zero]

/-- To destroy all sessions leaves nothing, by way of sound moments. -/
lemma Settled.finish {w : World} (h : Settled w) :
    w.finish.Settled ∧
      Moment.SoundTo ((closing w.sessions.values).moments ⟨w.memory, ∅⟩) w.finish.memory := by
  obtain ⟨s, howned⟩ := h.owned
  have hkeeps := (closing_keeps (c := ⟨custodyFor w.sessions.values, []⟩) rfl).mono
    fun _ _ hheld => And.intro trivial hheld
  obtain ⟨hsound, -, howned'⟩ := run_sound hkeeps (closing_obeys _) howned
  rw [finish_eq]
  exact ⟨⟨NameTable.ordered_empty, s, howned'⟩, hsound⟩

end World

/-- **Scripts leave nothing behind.**  After every step of every script, no rule of the runtime is
broken, there are no lists and no views, and three handles are live for every session.  Carrying out
a step is to run its program, and all moments of it are sound: no rule is broken, and the references
to a view are those in slots, and one more while it is in flight.  The same goes for the end, at
which all sessions are destroyed and no handle stays alive. -/
theorem script_tidy (script : List Step) :
    (∀ r ∈ ({} : World).steps script, r.2.1.Tidy) ∧
      let w := ({} : World).after script
      w.Tidy ∧
        (∀ s, w.step s = w.outcome s ∧ Moment.SoundTo (w.moments s) (w.step s).2.1.memory) ∧
          Moment.SoundTo ((World.closing w.sessions.values).moments ⟨w.memory, ∅⟩)
            w.finish.memory ∧ w.finish.Tidy ∧ w.finish.memory.liveHandles = 0 := by
  have hsettled (script : List Step) : (({} : World).after script).Settled :=
    World.Settled.start.after script
  refine ⟨fun r hr => ?_, (hsettled script).tidy, fun s => ?_, (hsettled script).finish.2,
    (hsettled script).finish.1.tidy, ?_⟩
  · obtain ⟨before, s, rest, rfl, rfl⟩ := World.mem_steps hr
    exact ((hsettled before).step s).1.tidy
  · exact ⟨World.step_eq _ s, ((hsettled script).step s).2⟩
  · rw [(hsettled script).finish.1.tidy.liveHandles_eq, World.finish_eq]
    rfl

/-- An input that is returned.  Its view is uploaded, pushed, put into the list of results as well,
read, and gone when both lists are given back. -/
example : ((({} : World).after (sampleScript.take 2)).moments
    (.invoke "left" "identity" (.ok [⟨.f16, [1], [3, 4]⟩]))).map
      (fun t => (t.memory.views.map (·.2.references), t.flight.card)) =
    [([], 0), ([], 0), ([], 0), ([1], 1), ([1], 0), ([2], 0), ([2], 0), ([2], 0), ([2], 0),
      ([2], 0), ([2], 0), ([2], 0), ([1], 0), ([], 0)] := by decide +kernel

end Memory

end TensorBridge
