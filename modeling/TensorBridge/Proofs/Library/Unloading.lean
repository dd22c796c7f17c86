import Mathlib
import TensorBridge.Proofs.Library.Calls
import TensorBridge.Proofs.Library.Process
import TensorBridge.Proofs.Native.Sessions

/-!
# Giving the library for general use up

What a process tells when it gives the library for general use up.  There is a warning if the
library is still held, and the number in it is that of the references: one for each that is kept
under a name, and four for each session.  So it is never the number of sessions.

* `Desk.Balanced`: as many native sessions of a library have been made and not been released as
  there are sessions on the library.  Every step keeps this (`Desk.step_balanced`).
* `Desk.Process.references_eq`: how often a library is held in a process.
* `Desk.runs_unload_iff`: what giving up the library does.
* `Desk.unload_warning`: all three together, for every process.
-/

namespace TensorBridge

open Program (Item)

/-- How many native sessions of a library an operation adds. -/
def HostOp.gain (id : Nat) : (op : HostOp) → op.Reply → Int
  | .native id' op, reply => if id' = id then op.gain reply else 0
  | _, _ => 0

/-- The operation calls no function of a library. -/
def HostOp.Silent : HostOp → Prop
  | .native .. => False
  | _ => True

lemma HostOp.gain_of_silent {id : Nat} {op : HostOp} (h : op.Silent) (reply : op.Reply) :
    op.gain id reply = 0 := by
  cases op <;> first | rfl | cases h

namespace Library

open HostOp (Silent)

lemma silent_of_handles {first next : Nat} {op : HostOp} (h : op.Handles first next) :
    op.Silent := by
  cases op <;> trivial

lemma attach_silent (id : Nat) (path : String) : (attach id path).Confined Silent :=
  (attach_within id path).confined.mono fun _ => silent_of_handles

lemma discover_silent (id : Nat) (search : LibrarySearch) : (discover id search).Confined Silent :=
  (discover_within id search).confined.mono fun _ => silent_of_handles

/-- What a program of a session adds, it adds to the library on which it runs. -/
lemma host_gains {α : Type} {library : Library} {p : Program Backend α} {g : α → Int} {id : Nat}
    {n : Int} (hp : p.Keeps (.tally BackendOp.gain) n fun a n' => n' = n + g a) :
    (library.host p).Keeps (.tally (HostOp.gain id)) n
      fun a n' => n' = n + if library.id = id then g a else 0 := by
  unfold host Host.ofNative
  by_cases hid : library.id = id
  · simp only [if_pos hid]
    have hnative := hp.expand_tally (Native.perform_gains library.rendersStatus)
    refine Program.Keeps.expand_tally (fun op n => ?_) hnative
    exact ⟨trivial, fun reply _ => congrArg (n + ·) (if_pos hid)⟩
  · simp only [if_neg hid, add_zero]
    clear hp
    induction p.expand (Native.perform library.rendersStatus) generalizing n with
    | done a => rfl
    | call op next ih =>
      refine ⟨trivial, fun reply _ => (ih reply).mono fun a n' h => ?_⟩
      calc n' = n + HostOp.gain id (.native library.id op) reply := h
        _ = n := (congrArg (n + ·) (if_neg hid)).trans (add_zero n)
    | note m next ih => exact ih

end Library

namespace Desk

variable {α β : Type} {id : Nat} {d d' : Desk} {n : Int} {library : Library} {name : String}

/-! ## What concerns no session -/

/-- The program leaves the sessions alone and neither makes nor releases native ones. -/
def Quiet (id : Nat) (p : DeskM α) : Prop :=
  ∀ d n, Keeps (.tally (HostOp.gain id)) p d n fun _ d' n' => d'.sessions = d.sessions ∧ n' = n

namespace Quiet

lemma pure (a : α) : Quiet id (pure a : DeskM α) := fun _ _ => ⟨rfl, rfl⟩

lemma get : Quiet id (get : DeskM Desk) := fun _ _ => ⟨rfl, rfl⟩

lemma modify {f : Desk → Desk} (hf : ∀ d, (f d).sessions = d.sessions) :
    Quiet id (modify f : DeskM Unit) := fun d _ => ⟨hf d, rfl⟩

lemma onHost {p : Program Host α} (hp : p.Confined HostOp.Silent) : Quiet id (onHost p) := by
  intro d n
  rw [keeps_onHost]
  exact ((hp.mono fun _ => HostOp.gain_of_silent).keeps_tally).mono fun _ _ h => ⟨rfl, h⟩

lemma bind {p : DeskM α} (hp : Quiet id p) {f : α → DeskM β} (hf : ∀ a, Quiet id (f a)) :
    Quiet id (p >>= f) := by
  intro d n
  rw [keeps_bind]
  refine (hp d n).mono fun a d₁ n₁ h₁ => (hf a d₁ n₁).mono fun b d₂ n₂ h₂ => ?_
  exact ⟨h₂.1.trans h₁.1, h₂.2.trans h₁.2⟩

lemma closeUnheld (library : Library) : Quiet id (closeUnheld library) := by
  refine bind get fun d => ?_
  cases d.holds library with
  | true => exact pure ()
  | false => exact bind (onHost (.notify _)) fun _ => onHost (.perform trivial)

lemma hold (library : Library) : Quiet id (hold library) := modify fun _ => rfl

lemma letGo (library : Library) : Quiet id (letGo library) :=
  bind (modify fun _ => by rfl) fun _ => closeUnheld library

lemma holdForSession (library : Library) : Quiet id (holdForSession library) :=
  bind (hold _) fun _ => bind (hold _) fun _ => bind (hold _) fun _ => hold _

lemma letGoOfSession (library : Library) : Quiet id (letGoOfSession library) :=
  bind (letGo _) fun _ => bind (letGo _) fun _ => bind (letGo _) fun _ => letGo _

lemma keep (name : Option String) (library : Library) : Quiet id (keep name library) := by
  refine bind (hold library) fun _ => ?_
  cases name with
  | none => exact letGo library
  | some name =>
    refine bind get fun d => bind (modify fun _ => by rfl) fun _ => ?_
    cases d.kept.get? name with
    | none => exact pure ()
    | some old => exact letGo old

lemma dropKept (name : String) : Quiet id (dropKept name) := by
  refine bind get fun d => ?_
  cases d.kept.get? name with
  | none => exact pure false
  | some library =>
    exact bind (modify fun _ => by rfl) fun _ => bind (letGo library) fun _ => pure true

lemma attach (path : String) : Quiet id (attach path) :=
  bind get fun _ => bind (modify fun _ => by rfl) fun _ => onHost (Library.attach_silent _ path)

lemma discover (search : LibrarySearch) : Quiet id (discover search) :=
  bind get fun _ => bind (modify fun _ => by rfl) fun _ => onHost (Library.discover_silent _ search)

lemma loadWith (search : LibrarySearch) : Quiet id (loadWith search) := by
  refine bind get fun d => ?_
  cases d.shared with
  | some library => exact pure _
  | none =>
    refine bind (discover search) fun r => ?_
    cases r with
    | ok library => exact bind (modify fun _ => by rfl) fun _ => pure _
    | error e => exact pure _

lemma runtime : Quiet id runtime := bind (bind get fun _ => pure _) fun _ => loadWith _

lemma load (path : Option String) : Quiet id (load path) := by
  refine bind (bind get fun _ => pure _) fun _ => bind (loadWith _) fun r => ?_
  cases r <;> exact pure _

lemma unload : Quiet id unload := by
  refine bind get fun d => ?_
  cases d.shared with
  | none => exact pure false
  | some library =>
    refine bind (modify fun _ => by rfl) fun _ => bind get fun d => ?_
    dsimp only
    split
    · exact bind (onHost (.notify _)) fun _ => bind (closeUnheld library) fun _ => pure true
    · exact bind (closeUnheld library) fun _ => pure true

lemma answerLibrary (name : Option String) (r : Except BridgeError Library) :
    Quiet id (answerLibrary name r) := by
  cases r with
  | ok library => exact bind (keep name library) fun _ => pure _
  | error e => exact pure _

end Quiet

/-! ## Sessions -/

/-- As many native sessions of a library have been made and not been released as there are sessions
on the library. -/
structure Balanced (id : Nat) (d : Desk) (n : Int) : Prop where
  /-- The sessions are in order. -/
  ordered : d.sessions.Ordered
  /-- The number of native sessions. -/
  count_eq : n = d.sessionsOn id

lemma Balanced.of_sessions_eq (h : Balanced id d n) (hsame : d'.sessions = d.sessions) :
    Balanced id d' n where
  ordered := hsame ▸ h.ordered
  count_eq := by rw [sessionsOn, hsame]; exact h.count_eq

lemma Quiet.balanced {p : DeskM α} (hp : Quiet id p) (h : Balanced id d n) :
    Keeps (.tally (HostOp.gain id)) p d n fun _ d' n' => Balanced id d' n' :=
  (hp d n).mono fun _ _ _ hsame => hsame.2 ▸ h.of_sessions_eq hsame.1

/-- What a session on a library adds to the number for one of them. -/
def share (id : Nat) (s : HostedSession) : Int := if s.library.id = id then 1 else 0

lemma sessionsOn_insert (name : String) (id : Nat) (h : d.sessions.Ordered) (s : HostedSession) :
    (sessionsOn { d with sessions := d.sessions.insert name s } id : Int) =
      sessionsOn { d with sessions := d.sessions.erase name } id + share id s := by
  simp [sessionsOn, share, h.countP_insert]

lemma sessionsOn_eq (id : Nat) (h : d.sessions.Ordered) {s : HostedSession}
    (hs : d.sessions.get? name = some s) :
    (d.sessionsOn id : Int) =
      sessionsOn { d with sessions := d.sessions.erase name } id + share id s := by
  simp [sessionsOn, share, h.countP_eq hs]

/-- How much an attempt to make a session on a library adds. -/
def shareOf (id : Nat) : Except BridgeError HostedSession → Int
  | .ok s => share id s
  | .error _ => 0

lemma createOn_gains (library : Library) (image : List UInt8) (drivers : List String) :
    Keeps (.tally (HostOp.gain id)) (createOn library image drivers) d n fun r d' n' =>
      d'.sessions = d.sessions ∧ n' = n + shareOf id r := by
  simp only [createOn, keeps_bind, keeps_onHost]
  refine (Library.host_gains (Session.create_gains _ image drivers)).mono fun r n₁ h => ?_
  cases r with
  | ok session =>
    rw [keeps_bind]
    refine (Quiet.holdForSession library d n₁).mono fun _ d' n' hquiet => ?_
    exact ⟨hquiet.1, hquiet.2.trans h⟩
  | error e => exact ⟨rfl, by simpa [Session.built, shareOf] using h⟩

lemma discard_gains (s : HostedSession) :
    Keeps (.tally (HostOp.gain id)) (discard s) d n fun _ d' n' =>
      d'.sessions = d.sessions ∧ n' = n - share id s := by
  simp only [discard, keeps_bind, keeps_onHost]
  have hdestroy : s.session.destroy.Keeps (.tally BackendOp.gain) n fun _ n' => n' = n + -1 :=
    (Session.destroy_gains s.session).mono fun _ _ h => h.trans (sub_eq_add_neg n 1)
  refine (Library.host_gains hdestroy).mono fun _ n₁ h₁ => ?_
  refine (Quiet.letGoOfSession s.library d n₁).mono fun _ d' n' h => ⟨h.1, ?_⟩
  rw [h.2, h₁, share]
  split_ifs <;> omega

/-- Naming a new session. -/
lemma addSession_balanced (h : Balanced id d n) (s : HostedSession) :
    Keeps (.tally (HostOp.gain id)) (addSession name s) d (n + share id s) fun _ d' n' =>
      Balanced id d' n' := by
  simp only [addSession, keeps_bind, keeps_get, keeps_modify]
  have hinsert := sessionsOn_insert name id h.ordered s
  cases hold : d.sessions.get? name with
  | none =>
    refine ⟨h.ordered.insert, ?_⟩
    rw [hinsert, NameTable.erase_of_get?_eq_none hold, h.count_eq]
  | some old =>
    -- The session that had the name is destroyed.
    have hcount := sessionsOn_eq id h.ordered hold
    refine (discard_gains old).mono fun _ d' n' hdiscard => ?_
    refine Balanced.of_sessions_eq ⟨h.ordered.insert, ?_⟩ hdiscard.1
    rw [hdiscard.2, hinsert, h.count_eq, hcount]
    omega

lemma destroySession_balanced (h : Balanced id d n) :
    Keeps (.tally (HostOp.gain id)) (destroySession name) d n fun _ d' n' => Balanced id d' n' := by
  simp only [destroySession, keeps_bind, keeps_get]
  cases hold : d.sessions.get? name with
  | none => exact h
  | some old =>
    have hcount := sessionsOn_eq id h.ordered hold
    simp only [keeps_bind, keeps_modify, keeps_pure]
    refine (discard_gains old).mono fun _ d' n' hdiscard => ?_
    refine Balanced.of_sessions_eq ⟨h.ordered.erase, ?_⟩ hdiscard.1
    rw [hdiscard.2, h.count_eq, hcount]
    omega

lemma invoke_balanced (h : Balanced id d n) {s : HostedSession}
    (hs : d.sessions.get? name = some s) (entry : String) (inputs : List Tensor) :
    Keeps (.tally (HostOp.gain id)) (invoke name entry s inputs) d n fun _ d' n' =>
      Balanced id d' n' := by
  simp only [invoke, keeps_bind, keeps_onHost, keeps_modify, keeps_pure]
  have hinvoke : (s.session.invoke entry inputs).Keeps (.tally BackendOp.gain) n
      fun _ n' => n' = n + 0 :=
    (Session.invoke_gains s.session entry inputs).mono fun _ _ h => h.trans (add_zero n).symm
  refine (Library.host_gains hinvoke).mono fun r n' h' => ?_
  rw [ite_self, add_zero] at h'
  -- The session stays on its library.
  have hinsert := sessionsOn_insert name id h.ordered { s with session := r.2 }
  have hcount := sessionsOn_eq id h.ordered hs
  refine ⟨h.ordered.insert, ?_⟩
  rw [hinsert, h', h.count_eq, hcount]
  rfl

lemma answerSession_balanced (h : Balanced id d n) (r : Except BridgeError HostedSession) :
    Keeps (.tally (HostOp.gain id)) (answerSession name r) d (n + shareOf id r) fun _ d' n' =>
      Balanced id d' n' := by
  cases r with
  | error e => exact (add_zero n).symm ▸ h
  | ok s =>
    simp only [answerSession, keeps_bind, keeps_pure]
    exact addSession_balanced h s

lemma create_balanced (h : Balanced id d n) (name : String) (library : Library)
    (image : List UInt8) (drivers : List String) :
    Keeps (.tally (HostOp.gain id)) (createOn library image drivers >>= answerSession name) d n
      fun _ d' n' => Balanced id d' n' := by
  rw [keeps_bind]
  refine (createOn_gains library image drivers).mono ?_
  rintro r d₁ _ ⟨hsame, rfl⟩
  exact answerSession_balanced (h.of_sessions_eq hsame) r

/-- **One step** keeps the number of native sessions that of the sessions. -/
theorem step_balanced (h : Balanced id d n) (st : Step) :
    Keeps (.tally (HostOp.gain id)) (step st) d n fun _ d' n' => Balanced id d' n' := by
  cases st with
  | attach path name =>
    exact (Quiet.bind (.attach path) fun r => .answerLibrary name r).balanced h
  | discover search name =>
    exact (Quiet.bind (.discover search) fun r => .answerLibrary name r).balanced h
  | loadWith search name =>
    exact (Quiet.bind (.loadWith search) fun r => .answerLibrary name r).balanced h
  | runtime name => exact (Quiet.bind .runtime fun r => .answerLibrary name r).balanced h
  | load path =>
    refine (Quiet.bind (.load path) fun r => ?_).balanced h
    cases r <;> exact .pure _
  | dropKept name => exact (Quiet.bind (.dropKept name) fun _ => .pure _).balanced h
  | unload => exact (Quiet.bind .unload fun _ => .pure _).balanced h
  | isLoaded => exact h
  | isAvailable =>
    refine (Quiet.bind (.bind .runtime fun r => ?_) fun _ => .pure _).balanced h
    cases r <;> exact .pure _
  | detail =>
    refine (Quiet.bind (.bind (.bind .get fun _ => .pure _) fun search => ?_) fun _ =>
      .pure _).balanced h
    exact .bind (.loadWith search) fun _ => .pure _
  | create name image =>
    simp only [step, createSession, keeps_bind]
    split_ifs with hempty
    · exact h
    rw [keeps_bind]
    refine (Quiet.runtime d n).mono ?_
    rintro r d₁ _ ⟨hsame, rfl⟩
    have h₁ := h.of_sessions_eq hsame
    cases r with
    | error e => exact h₁
    | ok library =>
      rw [← keeps_bind]
      exact create_balanced h₁ name library image defaultDrivers
  | createOn name kept image drivers =>
    simp only [step, keeps_bind, keeps_get]
    cases d.kept.get? kept with
    | none => exact h
    | some library => exact create_balanced h name library image _
  | invoke name entry inputs =>
    simp only [step, keeps_bind, keeps_get]
    cases hhosted : d.sessions.get? name with
    | none => exact h
    | some hosted =>
      cases inputs with
      | error e => exact h
      | ok inputs =>
        simp only [keeps_bind]
        refine (invoke_balanced h hhosted entry inputs).mono fun r d₁ n₁ h₁ => ?_
        cases r <;> exact h₁
  | inspect name =>
    simp only [step, keeps_bind, keeps_get]
    cases d.sessions.get? name <;> exact h
  | destroy name =>
    simp only [step, keeps_bind]
    exact (destroySession_balanced h).mono fun _ _ _ h₁ => h₁
  | setLibraryVariable value => exact h.of_sessions_eq rfl
  | setDisableVariable value => exact h.of_sessions_eq rfl
  | searchOf path => exact h

/-! ## Traces -/

/-- Whether something that happened is that a native session of a library was made. -/
def isMaking (id : Nat) : Item Host → Bool
  | .called (.native id' (.createSession ..)) ⟨none, some _⟩ => id' == id
  | _ => false

/-- Whether something that happened is that a native session of a library was released. -/
def isReleasing (id : Nat) : Item Host → Bool
  | .called (.native id' (.releaseSession _)) _ => id' == id
  | _ => false

/-- How many native sessions of a library were made. -/
def sessionsMade (id : Nat) (trace : List (Item Host)) : Nat := trace.countP (isMaking id)

/-- How many native sessions of a library were released. -/
def sessionsReleased (id : Nat) (trace : List (Item Host)) : Nat := trace.countP (isReleasing id)

lemma worth_eq (id : Nat) (item : Item Host) :
    item.worth (HostOp.gain id) =
      (if isMaking id item then 1 else 0) - if isReleasing id item then 1 else 0 := by
  rcases item with ⟨op, reply⟩ | n
  · cases op with
    | native id' op =>
      cases op with
      | createSession inst options device allocator =>
        rcases reply with ⟨_ | word, _ | address⟩ <;>
          simp [Item.worth, HostOp.gain, NativeOp.gain, isMaking, isReleasing]
      | releaseSession session =>
        by_cases hid : id' = id <;>
          simp [Item.worth, HostOp.gain, NativeOp.gain, isMaking, isReleasing, hid]
      | _ => simp [Item.worth, HostOp.gain, NativeOp.gain, isMaking, isReleasing]
    | _ => rfl
  · rfl

lemma total_gain (id : Nat) (trace : List (Item Host)) :
    Program.total (HostOp.gain id) trace = sessionsMade id trace - sessionsReleased id trace := by
  induction trace with
  | nil => rfl
  | cons item rest ih =>
    have hcons : Program.total (HostOp.gain id) (item :: rest) =
        item.worth (HostOp.gain id) + Program.total (HostOp.gain id) rest := rfl
    rw [hcons, ih, worth_eq, sessionsMade, sessionsReleased, sessionsMade, sessionsReleased,
      List.countP_cons, List.countP_cons]
    split_ifs <;> omega

lemma Process.balanced {files : Files} {trace : List (Item Host)} (h : Process files trace d)
    (id : Nat) : Balanced id d (Program.total (HostOp.gain id) trace) := by
  induction h with
  | start environment => exact ⟨NameTable.ordered_empty, rfl⟩
  | step before run bears ih =>
    rw [Program.total_append]
    exact Program.keeps_tally_iff.1 (step_balanced ih _) _ _ run

/-! ## The warning -/

/-- **How often a library is held** in a process: once for each reference that is kept, and four
times for each session. -/
theorem Process.references_eq {files : Files} {trace : List (Item Host)}
    (h : Process files trace d) (library : Library) :
    d.references library = d.keptOn library.id + 4 * d.sessionsOn library.id := by
  obtain ⟨_, -, hfits⟩ := h.exists_shelf
  exact hfits.references_eq library

/-- What happens when the library for general use is given up, and whether there was one. -/
inductive Unloading (d : Desk) : List (Item Host) → Bool → Prop where
  /-- There is none. -/
  | idle (hshared : d.shared = none) : Unloading d [] false
  /-- It is still held; the warning tells by how many references. -/
  | held {library : Library} (hshared : d.shared = some library)
      (hheld : 0 < d.references library) :
      Unloading d [.noted (.unloadWhileHeld library.path (d.references library))] true
  /-- Nothing holds it, so it is closed. -/
  | closed {library : Library} (hshared : d.shared = some library)
      (hfree : d.references library = 0) :
      Unloading d [.noted (.libraryUnloading library.path), .called (.closeLibrary library.id) ()]
        true

lemma closeUnheld_of_holds (h : d.holds library = true) :
    closeUnheld library d = .done ((), d) := by
  simp only [closeUnheld, bind_apply, get_apply, Program.done_bind, h, if_true, pure_apply]

lemma closeUnheld_of_free (hshared : d.shared = none) (h : d.references library = 0) :
    closeUnheld library d = .note (.libraryUnloading library.path)
      (.call (.closeLibrary library.id) fun _ => .done ((), d)) := by
  have hholds : d.holds library = false := by simp [holds, hshared, h]
  simp only [closeUnheld, bind_apply, get_apply, Program.done_bind, hholds, Bool.false_eq_true,
    if_false, onHost_apply, Program.notify, Program.perform, Program.note_bind, Program.call_bind]

lemma step_unload_of_none (h : d.shared = none) :
    step .unload d = .done (.unloaded false, { d with shared := none }) := by
  have hsame : { d with shared := none } = d := by rw [← h]
  simp only [step, unload, bind_apply, get_apply, Program.done_bind, h, pure_apply, hsame]

lemma step_unload_of_held (h : d.shared = some library) (hheld : 0 < d.references library) :
    step .unload d = .note (.unloadWhileHeld library.path (d.references library))
      (.done (.unloaded true, { d with shared := none })) := by
  have hsame : references { d with shared := none } library = d.references library := rfl
  have hholds : holds { d with shared := none } library = true := by simp [holds, hsame, hheld]
  simp only [step, unload, bind_apply, get_apply, modify_apply, Program.done_bind, h, hsame, hheld,
    if_true, onHost_apply, Program.notify, Program.note_bind, closeUnheld_of_holds hholds,
    pure_apply]

lemma unload_of_free (h : d.shared = some library) (hfree : d.references library = 0) :
    unload d = .note (.libraryUnloading library.path)
      (.call (.closeLibrary library.id) fun _ => .done (true, { d with shared := none })) := by
  have hsame : references { d with shared := none } library = 0 := hfree
  have hclose : closeUnheld library { d with shared := none } = _ := closeUnheld_of_free rfl hfree
  simp only [unload, bind_apply, get_apply, modify_apply, Program.done_bind, h, hsame, lt_irrefl,
    if_false, hclose, Program.note_bind, Program.call_bind, pure_apply]

lemma step_unload_of_free (h : d.shared = some library) (hfree : d.references library = 0) :
    step .unload d = .note (.libraryUnloading library.path)
      (.call (.closeLibrary library.id) fun _ =>
        .done (.unloaded true, { d with shared := none })) := by
  simp only [step, bind_apply, unload_of_free h hfree, Program.note_bind, Program.call_bind,
    Program.done_bind, pure_apply]

/-- **Giving the library for general use up.** -/
theorem runs_unload_iff {items : List (Item Host)} {answer : Answer} :
    (step .unload d).Runs items (answer, d') ↔
      ∃ b, Unloading d items b ∧ answer = .unloaded b ∧ d' = { d with shared := none } := by
  constructor
  · intro run
    cases hshared : d.shared with
    | none =>
      rw [step_unload_of_none hshared] at run
      obtain ⟨rfl, heq⟩ := Program.runs_done_iff.1 run
      cases heq
      exact ⟨false, .idle hshared, rfl, rfl⟩
    | some library =>
      rcases Nat.eq_zero_or_pos (d.references library) with hfree | hheld
      · rw [step_unload_of_free hshared hfree] at run
        obtain ⟨_, rfl, hcall⟩ := Program.runs_note_iff.1 run
        obtain ⟨_, _, rfl, hdone⟩ := Program.runs_call_iff.1 hcall
        obtain ⟨rfl, heq⟩ := Program.runs_done_iff.1 hdone
        cases heq
        exact ⟨true, .closed hshared hfree, rfl, rfl⟩
      · rw [step_unload_of_held hshared hheld] at run
        obtain ⟨_, rfl, hdone⟩ := Program.runs_note_iff.1 run
        obtain ⟨rfl, heq⟩ := Program.runs_done_iff.1 hdone
        cases heq
        exact ⟨true, .held hshared hheld, rfl, rfl⟩
  · rintro ⟨b, h, rfl, rfl⟩
    cases h with
    | idle hshared =>
      rw [step_unload_of_none hshared]
      exact .done _
    | held hshared hheld =>
      rw [step_unload_of_held hshared hheld]
      exact .note (.done _)
    | closed hshared hfree =>
      rw [step_unload_of_free hshared hfree]
      exact .note (.call (.done _))

/-- **The warning about a library that is still held** does not tell how many sessions there are.
In every process, as many native sessions of a library have been made and not been released as there
are sessions on it.  There is a warning when the library for general use is given up if there is a
session on it or a reference to it is kept, and the number in it counts every such reference once
and every session four times. -/
theorem unload_warning {files : Files} {trace : List (Item Host)} (h : Process files trace d) :
    (∀ id, sessionsMade id trace = sessionsReleased id trace + d.sessionsOn id) ∧
      (∀ items answer d', (step .unload d).Runs items (answer, d') ↔
        ∃ b, Unloading d items b ∧ answer = .unloaded b ∧ d' = { d with shared := none }) ∧
      ∀ library : Library,
        d.references library = d.keptOn library.id + 4 * d.sessionsOn library.id ∧
          (0 < d.references library → d.references library ≠ d.sessionsOn library.id) := by
  refine ⟨fun id => ?_, fun items answer d' => runs_unload_iff, fun library => ?_⟩
  · have hcount := (h.balanced id).count_eq
    rw [total_gain] at hcount
    omega
  · have hreferences := h.references_eq library
    exact ⟨hreferences, by omega⟩

/-- A native call on the library with its reply. -/
def answered (op : NativeOp) (reply : op.Reply) : Item Host := .called (.native 1 op) reply

/-- A session is made on the library. -/
def sampleMaking : List (Item Host) :=
  [answered (.fillInstanceOptions {}) ⟨true, false⟩,
    answered (.useAllDrivers ⟨true, false⟩) ⟨true, true⟩,
    answered (.createInstance ⟨true, true⟩ .system) ⟨none, some 1⟩,
    answered (.vmInstance 1) (some 9),
    answered (.registerTypes 9) none,
    answered (.resolveTypes 9) none,
    answered (.createDevice 1 "local-sync") ⟨none, some 2⟩,
    answered (.fillSessionOptions {}) ⟨true⟩,
    answered (.hostAllocator 1) .ofInstance,
    answered (.createSession 1 ⟨true⟩ 2 .ofInstance) ⟨none, some 3⟩,
    answered (.malloc .system 1) ⟨none, some 7⟩,
    answered (.appendModule 3 [7] .system) none,
    .noted (.moduleLoaded "IREE runtime at lib.so" "local-sync" 1)]

/-- The session. -/
def sampleHosted : HostedSession :=
  ⟨⟨⟨1⟩, ⟨2⟩, ⟨3⟩, "local-sync", .moduleLoaded, 0⟩, sampleLibrary⟩

/-- The desk with the session, while the library is also kept. -/
def sampleBusy : Desk :=
  { sampleDesk with sessions := ⟨[("s", sampleHosted)]⟩, holders := [1, 1, 1, 1, 1] }

/-- The desk with the session alone. -/
def sampleLone : Desk := { sampleBusy with kept := {}, holders := [1, 1, 1, 1] }

lemma loading_process : Process sampleFiles sampleLoading sampleDesk := by
  have hload : (step (.loadWith sampleSearch (some "mine")) {}).Runs sampleLoading
      (.library sampleLibrary, sampleDesk) := Program.runs_of_replay_eq rfl
  have hbears : ∀ item ∈ sampleLoading, sampleFiles.Bears item := by
    simp [sampleLoading, Files.Bears, Files.Says, sampleFiles]
  exact (Process.start {}).step hload hbears

lemma making_process : Process sampleFiles (sampleLoading ++ sampleMaking) sampleBusy := by
  have hcreate : (step (.createOn "s" "mine" [7] (some ["local-sync"])) sampleDesk).Runs
      sampleMaking
      (.basic (.session (sampleHosted.session.summary sampleLibrary.description)), sampleBusy) :=
    Program.runs_of_replay_eq rfl
  refine loading_process.step hcreate ?_
  simp [sampleMaking, answered, Files.Bears, Files.Says]

/-- With one session and one reference that is kept, the number is five. -/
theorem unload_warning_sample :
    Process sampleFiles (sampleLoading ++ sampleMaking) sampleBusy ∧
      sessionsMade 1 (sampleLoading ++ sampleMaking) =
        sessionsReleased 1 (sampleLoading ++ sampleMaking) + 1 ∧
      (step .unload sampleBusy).Runs [.noted (.unloadWhileHeld "lib.so" 5)]
        (.unloaded true, { sampleBusy with shared := none }) := by
  obtain ⟨hbalanced, hunload, -⟩ := unload_warning making_process
  refine ⟨making_process, hbalanced 1, (hunload _ _ _).2 ⟨true, ?_, rfl, rfl⟩⟩
  have hheld : 0 < sampleBusy.references sampleLibrary := by decide
  exact .held rfl hheld

/-- Without a session there is a warning if the library is kept, and with one session the number is
four. -/
theorem unload_counts_references :
    (Process sampleFiles sampleLoading sampleDesk ∧ sampleDesk.sessionsOn 1 = 0 ∧
        (step .unload sampleDesk).Runs [.noted (.unloadWhileHeld "lib.so" 1)]
          (.unloaded true, { sampleDesk with shared := none })) ∧
      Process sampleFiles (sampleLoading ++ sampleMaking) sampleLone ∧
        sampleLone.sessionsOn 1 = 1 ∧
        (step .unload sampleLone).Runs [.noted (.unloadWhileHeld "lib.so" 4)]
          (.unloaded true, { sampleLone with shared := none }) := by
  have hdrop : (step (.dropKept "mine") sampleBusy).Runs [] (.dropped true, sampleLone) :=
    Program.runs_of_replay_eq rfl
  have hlone := making_process.step hdrop (List.forall_mem_nil _)
  rw [List.append_nil] at hlone
  exact ⟨⟨loading_process, rfl, Program.runs_of_replay_eq rfl⟩, hlone, rfl,
    Program.runs_of_replay_eq rfl⟩

end Desk

end TensorBridge
