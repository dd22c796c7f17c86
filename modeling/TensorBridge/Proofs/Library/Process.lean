import Mathlib
import TensorBridge.Library.Script
import TensorBridge.Proofs.Library.Holders
import TensorBridge.Proofs.Program.Replay

/-!
# The life of a process

A process starts with nothing and carries out any steps, on files that stay the same; all that it
calls apart from opening libraries may reply anything.

* `Desk.Step.search?` tells the search with which a step asks for the library for general use.
* `Desk.step_settled`: what one step keeps, and what comes of it.
* `Desk.process_lifetime`: what holds of every process.
-/

namespace TensorBridge

open Program (Item)

namespace Desk

/-! ## What a step asks for -/

/-- The search with which a step asks for the library for general use, if it does so. -/
def Step.search? (d : Desk) : Step → Option LibrarySearch
  | .loadWith search _ => some search
  | .runtime _ | .isAvailable | .detail => some (.ofEnvironment d.environment)
  | .load path => some ((LibrarySearch.ofEnvironment d.environment).withExplicit path)
  | .create _ image => if image.isEmpty then none else some (.ofEnvironment d.environment)
  | _ => none

/-- The line about the library for general use. -/
def detailLine (available disabled : Bool) (path : String) : String :=
  s!"runtime={flagText available} disabled={flagText disabled} feature=true path={path}"

/-- The step has got the library that it asked for. -/
def Step.Served (d : Desk) (library : Library) (answer : Answer) (d' : Desk) : Step → Prop
  | .loadWith .. | .runtime _ => answer = .library library
  | .load _ => answer = .basic .done
  | .isAvailable => answer = .available true
  | .detail =>
    answer = .detail
      (detailLine true (LibrarySearch.ofEnvironment d.environment).disabled library.path)
  | .create name _ =>
    (∃ session, answer = .basic (.session (session.summary library.description)) ∧
        d'.sessions = d.sessions.insert name ⟨session, library⟩) ∨
      ∃ e, answer = .basic (.failed e) ∧ d'.sessions = d.sessions
  | _ => False

/-- The step has not got the library that it asked for. -/
def Step.Refused (d : Desk) (e : BridgeError) (answer : Answer) : Step → Prop
  | .loadWith .. | .runtime _ | .load _ | .create .. => answer = .basic (.failed e)
  | .isAvailable => answer = .available false
  | .detail =>
    answer = .detail (detailLine false (LibrarySearch.ofEnvironment d.environment).disabled "-")
  | _ => False

/-- The step answers by what it got when it asked for a library. -/
def Step.Tells (d : Desk) (r : Except BridgeError Library) (answer : Answer) (d' : Desk)
    (st : Step) : Prop :=
  match r with
  | .ok library => st.Served d library answer d'
  | .error e => st.Refused d e answer

/-- What a step may do.  One that asks for the library for general use opens libraries only if there
is none, and calls only the one it gets, or that of a session which it replaces. -/
def leaveFor (files : Files) (d : Desk) (st : Step) : Leave where
  opens := (st.search? d).isSome → d.shared = none
  calls id := ∀ search, st.search? d = some search →
    (∃ library, d.obtained files search = .ok library ∧ id = library.id) ∨
      ∃ name image old, st = .create name image ∧ d.sessions.get? name = some old ∧
        id = old.library.id

/-- What comes of a step. -/
structure Settles (files : Files) (d : Desk) (st : Step) (answer : Answer) (d' : Desk) : Prop where
  /-- A step that asks for the library for general use. -/
  asking : ∀ search, st.search? d = some search →
    d'.shared = (d.obtained files search).toOption ∧
      st.Tells d (d.obtained files search) answer d'
  /-- The step that gives it up. -/
  unloading : st = .unload → answer = .unloaded d.shared.isSome ∧ d'.shared = none
  /-- Any other step. -/
  other : st.search? d = none → st ≠ .unload → d'.shared = d.shared

variable {files : Files} {leave : Leave} {d d' : Desk} {s : Shelf} {library : Library}
  {name : String} {st : Step} {answer : Answer}

lemma leaveFor_opens (hst : st.search? d = none) : (leaveFor files d st).opens := fun hsome => by
  simp [hst] at hsome

lemma leaveFor_calls (hst : st.search? d = none) {id : Nat} : (leaveFor files d st).calls id :=
  fun search hsearch => by simp [hst] at hsearch

lemma Settles.of_shared_eq (hst : st.search? d = none) (hunload : st ≠ .unload)
    (h : d'.shared = d.shared) : Settles files d st answer d' where
  asking search hsearch := by simp [hst] at hsearch
  unloading heq := absurd heq hunload
  other _ _ := h

lemma Settles.of_search {search : LibrarySearch} {r : Except BridgeError Library}
    (hst : st.search? d = some search) (hr : r = d.obtained files search)
    (hshared : d'.shared = r.toOption) (htells : st.Tells d r answer d') :
    Settles files d st answer d' where
  asking search' hsearch := by
    obtain rfl : search = search' := Option.some.inj (hst.symm.trans hsearch)
    rw [← hr]
    exact ⟨hshared, htells⟩
  unloading heq := by
    subst heq
    simp [Step.search?] at hst
  other hnone := by simp [hst] at hnone

/-- A step leaves open what is held then, and does with the library for general use what it
should. -/
def Settled (files : Files) (d : Desk) (s : Shelf) (st : Step) : Prop :=
  Keeps (Host.watch files (leaveFor files d st)) (step st) d s fun a d' s' =>
    Fits d' ∅ 0 s' ∧ Settles files d st a d'

/-! ## Steps -/

/-- The answer with a library that was asked for. -/
def Answer.ofLibrary : Except BridgeError Library → Answer
  | .ok library => .library library
  | .error e => .basic (.failed e)

/-- Answering with a library that is in hand. -/
lemma answerLibrary_keeps {r : Except BridgeError Library} (h : Fits d (inHand r) 0 s)
    (name : Option String) :
    Keeps (Host.watch files leave) (answerLibrary name r) d s fun a d' s' =>
      Fits d' ∅ 0 s' ∧ d'.shared = d.shared ∧ a = .ofLibrary r := by
  cases r with
  | ok library =>
    simp only [answerLibrary, keeps_bind, keeps_pure]
    exact (keep_keeps h name).mono fun _ d' s' h' => ⟨h'.1, h'.2, rfl⟩
  | error e => exact ⟨h, rfl, rfl⟩

lemma runtime_keeps (hopens : d.shared = none → leave.opens) (h : Fits d ∅ 0 s) :
    Keeps (Host.watch files leave) runtime d s fun r d' s' =>
      r = d.obtained files (.ofEnvironment d.environment) ∧ Fits d' ∅ 0 s' ∧
        d'.shared = r.toOption ∧ d'.sessions = d.sessions := by
  simp only [runtime, search, keeps_bind, keeps_get, keeps_pure]
  exact loadWith_keeps _ hopens h

/-- Answering with the library for general use after asking for it. -/
lemma answerObtained_keeps {search : LibrarySearch} {r : Except BridgeError Library}
    (hst : st.search? d = some search) (hr : r = d.obtained files search) (h : Fits d' ∅ 0 s)
    (hshared : d'.shared = r.toOption) (htells : ∀ d'', st.Tells d r (.ofLibrary r) d'')
    (name : Option String) :
    Keeps (Host.watch files leave) (answerLibrary name r) d' s fun a d'' s' =>
      Fits d'' ∅ 0 s' ∧ Settles files d st a d'' := by
  refine (answerLibrary_keeps (h.of_shared_eq hshared) name).mono ?_
  rintro _ d'' s' ⟨hfits, hsame, rfl⟩
  exact ⟨hfits, .of_search hst hr (hsame.trans hshared) (htells d'')⟩

lemma settled_loadWith (h : Fits d ∅ 0 s) (search : LibrarySearch) (name : Option String) :
    Settled files d s (.loadWith search name) := by
  simp only [Settled, step, keeps_bind]
  refine (loadWith_keeps search (fun hnone _ => hnone) h).mono ?_
  rintro r d₁ s₁ ⟨hr, h₁, hshared, -⟩
  exact answerObtained_keeps rfl hr h₁ hshared (fun d'' => by cases r <;> rfl) name

lemma settled_runtime (h : Fits d ∅ 0 s) (name : Option String) :
    Settled files d s (.runtime name) := by
  simp only [Settled, step, keeps_bind]
  refine (runtime_keeps (fun hnone _ => hnone) h).mono ?_
  rintro r d₁ s₁ ⟨hr, h₁, hshared, -⟩
  exact answerObtained_keeps rfl hr h₁ hshared (fun d'' => by cases r <;> rfl) name

lemma settled_load (h : Fits d ∅ 0 s) (path : Option String) : Settled files d s (.load path) := by
  simp only [Settled, step, load, search, keeps_bind, keeps_get, keeps_pure]
  refine (loadWith_keeps _ (fun hnone _ => hnone) h).mono ?_
  rintro r d₁ s₁ ⟨hr, h₁, hshared, -⟩
  cases r <;> exact ⟨h₁, .of_search rfl hr hshared rfl⟩

lemma settled_isAvailable (h : Fits d ∅ 0 s) : Settled files d s .isAvailable := by
  simp only [Settled, step, isAvailable, keeps_bind]
  refine (runtime_keeps (fun hnone _ => hnone) h).mono ?_
  rintro r d₁ s₁ ⟨hr, h₁, hshared, -⟩
  cases r <;> exact ⟨h₁, .of_search rfl hr hshared rfl⟩

lemma settled_detail (h : Fits d ∅ 0 s) : Settled files d s .detail := by
  simp only [Settled, step, availabilityDetail, search, keeps_bind, keeps_get, keeps_pure]
  refine (loadWith_keeps _ (fun hnone _ => hnone) h).mono ?_
  rintro r d₁ s₁ ⟨hr, h₁, hshared, -⟩
  cases r <;> exact ⟨h₁, .of_search rfl hr hshared rfl⟩

/-- Making a session on the library for general use.  The library stays in its place even if there
can be no session on it. -/
lemma settled_create (h : Fits d ∅ 0 s) (name : String) (image : List UInt8) :
    Settled files d s (.create name image) := by
  simp only [Settled, step, createSession, keeps_bind]
  split_ifs with hempty
  · exact ⟨h, .of_shared_eq (by simp [Step.search?, hempty]) (by simp) rfl⟩
  have hst : (Step.create name image).search? d = some (.ofEnvironment d.environment) := by
    simp [Step.search?, hempty]
  rw [keeps_bind]
  refine (runtime_keeps (fun hnone _ => hnone) h).mono ?_
  rintro r d₁ s₁ ⟨hr, hfits, hshared, hsessions⟩
  cases r with
  | error e => exact ⟨hfits, .of_search hst hr hshared rfl⟩
  | ok library =>
    have hcalls : (leaveFor files d (.create name image)).calls library.id := by
      intro search' hsearch
      obtain rfl := Option.some.inj (hst.symm.trans hsearch)
      exact .inl ⟨library, hr.symm, rfl⟩
    have hid := mem_owned_of_shared hshared
    refine createOn_keeps hcalls hfits hid image defaultDrivers (fun session => ?_) fun e => ?_
    -- The session takes the place of the one with its name, which is destroyed.
    · simp only [answerSession, keeps_bind, keeps_pure]
      refine (addSession_keeps (hfits.hosting hid) fun old hold search' _ => ?_).mono ?_
      · change d₁.sessions.get? name = some old at hold
        rw [hsessions] at hold
        exact .inr ⟨name, image, old, rfl, hold, rfl⟩
      · rintro _ d₂ s₂ ⟨hfits₂, hshared₂, hsessions₂⟩
        refine ⟨hfits₂, .of_search hst hr (hshared₂.trans hshared) (.inl ⟨session, rfl, ?_⟩)⟩
        rw [hsessions₂, hosting, hsessions]
    · exact ⟨hfits, .of_search hst hr hshared (.inr ⟨e, rfl, hsessions⟩)⟩

lemma settled_createOn (h : Fits d ∅ 0 s) (name kept : String) (image : List UInt8)
    (drivers : Option (List String)) : Settled files d s (.createOn name kept image drivers) := by
  simp only [Settled, step, keeps_bind, keeps_get]
  cases hkept : d.kept.get? kept with
  | none => exact ⟨h, .of_shared_eq rfl (by simp) rfl⟩
  | some library =>
    have hid := mem_owned_of_kept h hkept
    simp only [keeps_bind]
    refine createOn_keeps (leaveFor_calls rfl) h hid image _ (fun session => ?_) fun e => ?_
    · simp only [answerSession, keeps_bind, keeps_pure]
      refine (addSession_keeps (h.hosting hid) fun _ _ => leaveFor_calls rfl).mono ?_
      rintro _ d₁ s₁ ⟨h₁, hshared, -⟩
      exact ⟨h₁, .of_shared_eq rfl (by simp) hshared⟩
    · exact ⟨h, .of_shared_eq rfl (by simp) rfl⟩

lemma settled_invoke (h : Fits d ∅ 0 s) (name entry : String)
    (inputs : Except TensorError (List Tensor)) :
    Settled files d s (.invoke name entry inputs) := by
  simp only [Settled, step, keeps_bind, keeps_get]
  cases hhosted : d.sessions.get? name with
  | none => exact ⟨h, .of_shared_eq rfl (by simp) rfl⟩
  | some hosted =>
    cases inputs with
    | error e => exact ⟨h, .of_shared_eq rfl (by simp) rfl⟩
    | ok inputs =>
      simp only [keeps_bind]
      refine (invoke_keeps h hhosted (leaveFor_calls rfl) entry inputs).mono fun r d₁ s₁ h₁ => ?_
      cases r <;> exact ⟨h₁.1, .of_shared_eq rfl (by simp) h₁.2⟩

/-- **One step** leaves open what is held then, and does with the library for general use what it
should. -/
theorem step_settled (h : Fits d ∅ 0 s) (st : Step) : Settled files d s st := by
  cases st with
  | attach path name =>
    simp only [Settled, step, keeps_bind]
    refine (attach_keeps (leaveFor_opens rfl) h path).mono fun r d₁ s₁ h₁ => ?_
    refine (answerLibrary_keeps h₁.1 name).mono fun a d₂ s₂ h₂ => ?_
    exact ⟨h₂.1, .of_shared_eq rfl (by simp) (h₂.2.1.trans h₁.2)⟩
  | discover search name =>
    simp only [Settled, step, keeps_bind]
    refine (discover_keeps (leaveFor_opens rfl) h search).mono ?_
    rintro r _ s₁ ⟨-, h₁, rfl⟩
    refine (answerLibrary_keeps h₁ name).mono fun a d₂ s₂ h₂ => ?_
    exact ⟨h₂.1, .of_shared_eq rfl (by simp) h₂.2.1⟩
  | loadWith search name => exact settled_loadWith h search name
  | runtime name => exact settled_runtime h name
  | load path => exact settled_load h path
  | dropKept name =>
    simp only [Settled, step, keeps_bind]
    exact (dropKept_keeps h name).mono fun _ d₁ s₁ h₁ => ⟨h₁.1, .of_shared_eq rfl (by simp) h₁.2⟩
  | unload =>
    simp only [Settled, step, keeps_bind]
    refine (unload_keeps h).mono ?_
    rintro _ d₁ s₁ ⟨rfl, hnone, h₁⟩
    exact ⟨h₁, fun search hsearch => by simp [Step.search?] at hsearch, fun _ => ⟨rfl, hnone⟩,
      fun _ hne => absurd rfl hne⟩
  | isLoaded => exact ⟨h, .of_shared_eq rfl (by simp) rfl⟩
  | isAvailable => exact settled_isAvailable h
  | detail => exact settled_detail h
  | create name image => exact settled_create h name image
  | createOn name kept image drivers => exact settled_createOn h name kept image drivers
  | invoke name entry inputs => exact settled_invoke h name entry inputs
  | inspect name =>
    simp only [Settled, step, keeps_bind, keeps_get]
    cases d.sessions.get? name with
    | none => exact ⟨h, .of_shared_eq rfl (by simp) rfl⟩
    | some hosted => exact ⟨h, .of_shared_eq rfl (by simp) rfl⟩
  | destroy name =>
    simp only [Settled, step, keeps_bind]
    refine (destroySession_keeps h fun _ _ => leaveFor_calls rfl).mono fun _ d₁ s₁ h₁ => ?_
    exact ⟨h₁.1, .of_shared_eq rfl (by simp) h₁.2⟩
  | setLibraryVariable value => exact ⟨h.with_environment _, .of_shared_eq rfl (by simp) rfl⟩
  | setDisableVariable value => exact ⟨h.with_environment _, .of_shared_eq rfl (by simp) rfl⟩
  | searchOf path => exact ⟨h, .of_shared_eq rfl (by simp) rfl⟩

/-! ## Processes -/

/-- A process on some files: the steps it has carried out have left a trace and a desk. -/
inductive Process (files : Files) : List (Item Host) → Desk → Prop where
  /-- Nothing has happened. -/
  | start (environment : Environment) : Process files [] { environment := environment }
  /-- One more step is carried out. -/
  | step {trace items : List (Item Host)} {d d' : Desk} {st : Step} {answer : Answer}
      (before : Process files trace d) (run : (Desk.step st d).Runs items (answer, d'))
      (bears : ∀ item ∈ items, files.Bears item) : Process files (trace ++ items) d'

/-- What a process has done with libraries. -/
structure Orderly (trace : List (Item Host)) (d : Desk) : Prop where
  /-- No library is opened twice. -/
  once : ∀ id, Shelf.openings id trace ≤ 1
  /-- A library that was opened has been closed if nothing holds it any more, and then once; while
  something holds it, it has not. -/
  closed : ∀ id, Shelf.openings id trace = Shelf.closings id trace + if id ∈ d.held then 1 else 0
  /-- Only libraries that are open are called and closed. -/
  standing : ∀ before op reply, before ++ [.called op reply] <+: trace → Shelf.Standing before op

/-- A step has called this library only, or that of a session which it replaces. -/
def CallsOnly (d : Desk) (st : Step) (library : Library) (items : List (Item Host)) : Prop :=
  ∀ id op reply, .called (.native id op) reply ∈ items → id = library.id ∨
    ∃ name image old, st = .create name image ∧ d.sessions.get? name = some old ∧
      id = old.library.id

/-- What a step has done with the library for general use. -/
structure Conducted (files : Files) (d : Desk) (st : Step) (items : List (Item Host))
    (answer : Answer) (d' : Desk) : Prop where
  /-- While there is one, a step that asks for it opens nothing and gets that very library, whatever
  its search. -/
  full : ∀ library search, d.shared = some library → st.search? d = some search →
    (∀ id path reply, .called (.openLibrary id path) reply ∉ items) ∧
      d'.shared = some library ∧ st.Served d library answer d' ∧ CallsOnly d st library items
  /-- While there is none, a step that asks for it gets what its search finds. -/
  found : ∀ library search, d.shared = none → st.search? d = some search →
    Library.discoverIn files d.nextLibrary search = .ok library →
      d'.shared = some library ∧ st.Served d library answer d' ∧ CallsOnly d st library items
  /-- If its search finds nothing, there is still none. -/
  missed : ∀ e search, d.shared = none → st.search? d = some search →
    Library.discoverIn files d.nextLibrary search = .error e →
      d'.shared = none ∧ st.Refused d e answer
  /-- Giving it up tells whether there was one, and leaves none. -/
  unloading : st = .unload → answer = .unloaded d.shared.isSome ∧ d'.shared = none
  /-- No other step changes it. -/
  other : st.search? d = none → st ≠ .unload → d'.shared = d.shared

section Runs

variable {items trace : List (Item Host)}

/-- What the run of a step keeps. -/
lemma step_runs (h : Fits d ∅ 0 s) (run : (step st d).Runs items (answer, d'))
    (bears : ∀ item ∈ items, files.Bears item) :
    Watch.PermitsAll (Host.watch files) s (items.map (leaveFor files d st, ·)) ∧
      Fits d' ∅ 0 (Watch.books (Host.watch files) s (items.map (leaveFor files d st, ·))) ∧
        Settles files d st answer d' :=
  Program.Keeps.of_runs (step_settled h st) run (files.admitsAll bears)

/-- Every call of a run is allowed on some shelf. -/
lemma exists_allows (h : Watch.PermitsAll (Host.watch files) s (items.map (leave, ·))) {op : HostOp}
    {reply : op.Reply} (hmem : .called op reply ∈ items) : ∃ s' : Shelf, s'.Allows leave op :=
  h.exists_of_mem (List.mem_map_of_mem hmem)

lemma callsOnly_of_obtained {search : LibrarySearch}
    (h : Watch.PermitsAll (Host.watch files) s (items.map (leaveFor files d st, ·)))
    (hsearch : st.search? d = some search) (hobtained : d.obtained files search = .ok library) :
    CallsOnly d st library items := by
  intro id op reply hmem
  obtain ⟨s', hcalls, -⟩ := exists_allows h hmem
  refine (hcalls search hsearch).imp_left ?_
  rintro ⟨library', hlibrary', rfl⟩
  rw [hobtained] at hlibrary'
  cases hlibrary'
  rfl

/-- **The run of a step** does with the library for general use what it should. -/
theorem conducted (h : Fits d ∅ 0 s) (run : (step st d).Runs items (answer, d'))
    (bears : ∀ item ∈ items, files.Bears item) : Conducted files d st items answer d' := by
  obtain ⟨hall, -, hsettles⟩ := step_runs h run bears
  refine ⟨?_, ?_, ?_, hsettles.unloading, hsettles.other⟩
  · intro library search hshared hsearch
    have hobtained : d.obtained files search = .ok library := by rw [obtained, hshared]
    obtain ⟨hafter, hserved⟩ := hsettles.asking search hsearch
    rw [hobtained] at hafter hserved
    refine ⟨fun id path reply hmem => ?_, hafter, hserved,
      callsOnly_of_obtained hall hsearch hobtained⟩
    -- The leave of the step does not let it open anything while there is a library.
    obtain ⟨s', hopens, -⟩ := exists_allows hall hmem
    have hnone := hopens (by rw [hsearch]; rfl)
    rw [hshared] at hnone
    cases hnone
  · intro library search hshared hsearch hfound
    have hobtained : d.obtained files search = .ok library := by rw [obtained, hshared, hfound]
    obtain ⟨hafter, hserved⟩ := hsettles.asking search hsearch
    rw [hobtained] at hafter hserved
    exact ⟨hafter, hserved, callsOnly_of_obtained hall hsearch hobtained⟩
  · intro e search hshared hsearch hmissed
    have hobtained : d.obtained files search = .error e := by rw [obtained, hshared, hmissed]
    obtain ⟨hafter, hrefused⟩ := hsettles.asking search hsearch
    rw [hobtained] at hafter hrefused
    exact ⟨hafter, hrefused⟩

/-- A process and the shelf behind it. -/
lemma Process.exists_shelf (h : Process files trace d) :
    ∃ s, Shelf.Recorded trace s ∧ Fits d ∅ 0 s := by
  induction h with
  | start environment => exact ⟨{}, .nil, .start environment⟩
  | step before run bears ih =>
    obtain ⟨s, hrecorded, hfits⟩ := ih
    obtain ⟨hall, hfits', -⟩ := step_runs hfits run bears
    exact ⟨_, hrecorded.append hall, hfits'⟩

end Runs

/-- **The life of a process.**  Whatever steps it carries out, and whatever the functions of the
libraries reply: a library is opened at most once under its number, called and closed only while it
is open, and closed in the step in which its last holder goes.  Every further step does with the
library for general use what it should, and a search comes to what the files say. -/
theorem process_lifetime {trace : List (Item Host)} (h : Process files trace d) :
    Orderly trace d ∧
      (∀ (st : Step) (items : List (Item Host)) (answer : Answer) (d' : Desk),
        (step st d).Runs items (answer, d') → (∀ item ∈ items, files.Bears item) →
          Conducted files d st items answer d') ∧
      ∀ (id : Nat) (search : LibrarySearch) (items : List (Item Host))
        (r : Except BridgeError Library), (Library.discover id search).run.Runs items r →
          (∀ item ∈ items, files.Bears item) → r = Library.discoverIn files id search := by
  obtain ⟨s, hrecorded, hfits⟩ := h.exists_shelf
  refine ⟨⟨fun id => ?_, fun id => ?_, hrecorded.standing⟩, ?_, ?_⟩
  · rw [hrecorded.openings_eq]
    split_ifs <;> simp
  · rw [hrecorded.balanced, hfits.holds.now_eq, Finset.empty_union, hfits.held_eq]
  · intro st items answer d' run bears
    exact conducted hfits run bears
  · intro id search items r run bears
    exact Library.discover_runs run bears

/-- There is one library. -/
def sampleFiles : Files := fun path =>
  if path = "lib.so" then .ok requiredSymbols else .error "no such file"

/-- The library. -/
def sampleLibrary : Library := ⟨1, "lib.so", false⟩

/-- A search that finds it at the second attempt. -/
def sampleSearch : LibrarySearch := { explicit := some "none.so", environment := some "lib.so" }

/-- The search. -/
def sampleLoading : List (Item Host) :=
  [.called (.openLibrary 0 "none.so") (.error "no such file"),
    .noted (.candidateRejected "none.so" (.loadFailed "none.so" "no such file")),
    .called (.openLibrary 1 "lib.so") (.ok requiredSymbols),
    .noted (.libraryLoaded "lib.so" (.ofPath "lib.so") false)]

/-- Giving the library up while it is kept, and dropping it. -/
def sampleLeaving : List (Item Host) :=
  [.noted (.unloadWhileHeld "lib.so" 1), .noted (.libraryUnloading "lib.so"),
    .called (.closeLibrary 1) ()]

/-- The desk after the search. -/
def sampleDesk : Desk where
  nextLibrary := 2
  shared := some sampleLibrary
  kept := ⟨[("mine", sampleLibrary)]⟩
  holders := [1]

theorem process_lifetime_sample :
    Process sampleFiles (sampleLoading ++ sampleLeaving) { nextLibrary := 2 } ∧
      Orderly (sampleLoading ++ sampleLeaving) { nextLibrary := 2 } ∧
      Conducted sampleFiles {} (.loadWith sampleSearch (some "mine")) sampleLoading
        (.library sampleLibrary) sampleDesk := by
  have hload : (step (.loadWith sampleSearch (some "mine")) {}).Runs sampleLoading
      (.library sampleLibrary, sampleDesk) := Program.runs_of_replay_eq rfl
  have hunload : (step .unload sampleDesk).Runs (sampleLeaving.take 1)
      (.unloaded true, { sampleDesk with shared := none }) := Program.runs_of_replay_eq rfl
  have hdrop : (step (.dropKept "mine") { sampleDesk with shared := none }).Runs
      (sampleLeaving.drop 1) (.dropped true, { nextLibrary := 2 }) := Program.runs_of_replay_eq rfl
  have hbears : ∀ item ∈ sampleLoading, sampleFiles.Bears item := by
    simp [sampleLoading, Files.Bears, Files.Says, sampleFiles]
  have hleft : ∀ item ∈ sampleLeaving, sampleFiles.Bears item := by
    simp [sampleLeaving, Files.Bears, Files.Says]
  have hloaded := (Process.start {}).step hload hbears
  have hunloaded := hloaded.step hunload fun item hitem => hleft item (List.mem_of_mem_take hitem)
  have hdropped := hunloaded.step hdrop fun item hitem => hleft item (List.mem_of_mem_drop hitem)
  exact ⟨hdropped, (process_lifetime hdropped).1,
    (process_lifetime (.start {})).2.1 _ _ _ _ hload hbears⟩

end Desk

end TensorBridge
