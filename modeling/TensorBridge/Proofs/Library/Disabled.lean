import Mathlib.Tactic.Common
import TensorBridge.Proofs.Library.Process

/-!
# Switching the runtime off

The disabling variable of the environment keeps libraries from being looked for.  It does not take
the library away that a process has already: asking for the library for general use goes by the
variable only if there is none.

* `Desk.Vacant` and `Desk.InUse` tell what the operations come to while the runtime is switched off,
  without and with a library for general use.
* `Desk.disabled_process`: every process that is switched off is in one of these two ways, and none
  of the operations opens a library.
* `Desk.SwitchedOff.shared_eq_none`: a process without a library does not get one while it is
  switched off.
-/

namespace TensorBridge

open Program (Item)

namespace Desk

/-- The environment switches the runtime off. -/
def Disabled (d : Desk) : Prop :=
  ∃ value, d.environment.disable = some value ∧ Environment.isDisabling value = true

/-- The failure of a search while the runtime is switched off. -/
def disabledError : BridgeError := .unavailable s!"disabled by {disableVariable}"

/-- The desk after a search that has come to nothing.  Numbers have been set aside for its
candidates. -/
def passOver (d : Desk) (search : LibrarySearch) : Desk :=
  { d with nextLibrary := d.nextLibrary + search.paths.length }

/-- There is no library for general use, and none can be got: the operations that ask for one call
nothing at all. -/
structure Vacant (d : Desk) : Prop where
  /-- The runtime is unavailable. -/
  isAvailable : step .isAvailable d =
    .done (.available false, d.passOver (.ofEnvironment d.environment))
  /-- No path loads a library. -/
  load : ∀ path, step (.load path) d = .done (.basic (.failed disabledError),
    d.passOver ((LibrarySearch.ofEnvironment d.environment).withExplicit path))
  /-- The line about the library tells that there is none. -/
  detail : step .detail d = .done (.detail "runtime=false disabled=true feature=true path=-",
    d.passOver (.ofEnvironment d.environment))
  /-- No module makes a session. -/
  create : ∀ name image, image ≠ [] → step (.create name image) d =
    .done (.basic (.failed disabledError), d.passOver (.ofEnvironment d.environment))

/-- The library for general use serves as if the runtime was not switched off. -/
structure InUse (d : Desk) (library : Library) : Prop where
  /-- The runtime is available. -/
  isAvailable : step .isAvailable d = .done (.available true, d)
  /-- Loading succeeds, whatever the path. -/
  load : ∀ path, step (.load path) d = .done (.basic .done, d)
  /-- The line about the library tells that there is one, and that the runtime is switched off. -/
  detail : step .detail d =
    .done (.detail s!"runtime=true disabled=true feature=true path={library.path}", d)
  /-- Sessions are made on the library. -/
  create : ∀ name image, image ≠ [] → step (.create name image) d =
    (createOn library image defaultDrivers >>= answerSession name) d

/-- The step asks for the library for general use by the search of the environment, with a path of
the caller or without. -/
def Step.Asks : Step → Prop
  | .isAvailable | .load _ | .detail | .create .. => True
  | _ => False

variable {files : Files} {d d' : Desk} {library : Library} {search : LibrarySearch} {st : Step}
  {answer : Answer} {trace items : List (Item Host)}

/-! ## Asking for the library for general use -/

lemma loadWith_of_none (hnone : d.shared = none) (hsearch : search.disabled = true) :
    loadWith search d = .done (.error disabledError, d.passOver search) := by
  have hdiscover (id : Nat) : (Library.discover id search).run = .done (.error disabledError) := by
    rw [Library.discover, if_pos hsearch]
    rfl
  simp only [loadWith, discover, bind_apply, get_apply, modify_apply, Program.done_bind, hnone,
    hdiscover, onHost_apply, pure_apply, passOver]

lemma loadWith_of_some (hsome : d.shared = some library) :
    loadWith search d = .done (.ok library, d) := by
  simp only [loadWith, bind_apply, get_apply, Program.done_bind, hsome, pure_apply]

lemma Disabled.ofEnvironment (h : Disabled d) :
    (LibrarySearch.ofEnvironment d.environment).disabled = true := by
  obtain ⟨value, hvalue, hdisabling⟩ := h
  simp [LibrarySearch.ofEnvironment, hvalue, hdisabling]

/-- **Without a library**, nothing can be done. -/
lemma Disabled.vacant (h : Disabled d) (hnone : d.shared = none) : Vacant d := by
  have hload := loadWith_of_none hnone h.ofEnvironment
  refine ⟨?_, fun path => ?_, ?_, fun name image himage => ?_⟩
  · simp only [step, isAvailable, runtime, Desk.search, bind_apply, get_apply, pure_apply,
      Program.done_bind, hload]
  · have hexplicit :
        loadWith ((LibrarySearch.ofEnvironment d.environment).withExplicit path) d = _ :=
      loadWith_of_none hnone h.ofEnvironment
    simp only [step, load, Desk.search, bind_apply, get_apply, pure_apply, Program.done_bind,
      hexplicit]
  · simp only [step, availabilityDetail, Desk.search, bind_apply, get_apply, pure_apply,
      Program.done_bind, hload, h.ofEnvironment]
    rfl
  · have hempty : image.isEmpty = false := by simpa using himage
    simp only [step, createSession, hempty, Bool.false_eq_true, if_false, runtime, Desk.search,
      bind_apply, get_apply, pure_apply, Program.done_bind, hload, answerSession]

/-- **With a library**, nothing is refused. -/
lemma Disabled.inUse (h : Disabled d) (hsome : d.shared = some library) : InUse d library := by
  have hload (search : LibrarySearch) : loadWith search d = _ := loadWith_of_some hsome
  refine ⟨?_, fun path => ?_, ?_, fun name image himage => ?_⟩
  · simp only [step, isAvailable, runtime, Desk.search, bind_apply, get_apply, pure_apply,
      Program.done_bind, hload]
  · simp only [step, load, Desk.search, bind_apply, get_apply, pure_apply, Program.done_bind, hload]
  · simp only [step, availabilityDetail, Desk.search, bind_apply, get_apply, pure_apply,
      Program.done_bind, hload, h.ofEnvironment]
    rfl
  · have hempty : image.isEmpty = false := by simpa using himage
    simp only [step, createSession, hempty, Bool.false_eq_true, if_false, runtime, Desk.search,
      bind_apply, get_apply, Program.done_bind, hload, pure_apply]

/-! ## Processes -/

/-- The run of a step that asks for the library opens nothing. -/
lemma Disabled.opens_nothing {s : Shelf} (h : Disabled d) (hfits : Fits d ∅ 0 s) (hasks : st.Asks)
    (run : (step st d).Runs items (answer, d')) (bears : ∀ item ∈ items, files.Bears item) :
    (∀ id path reply, .called (.openLibrary id path) reply ∉ items) ∧ d'.shared = d.shared := by
  by_cases hempty : ∃ name, st = .create name []
  · obtain ⟨name, rfl⟩ := hempty
    cases run
    exact ⟨fun _ _ _ => List.not_mem_nil, rfl⟩
  rcases hshared : d.shared with _ | library
  · have hvacant := h.vacant hshared
    have hdone : ∃ answer d', step st d = .done (answer, d') ∧ d'.shared = none := by
      cases st with
      | isAvailable => exact ⟨_, _, hvacant.isAvailable, hshared⟩
      | load path => exact ⟨_, _, hvacant.load path, hshared⟩
      | detail => exact ⟨_, _, hvacant.detail, hshared⟩
      | create name image =>
        have himage : image ≠ [] := fun heq => hempty ⟨name, heq ▸ rfl⟩
        exact ⟨_, _, hvacant.create name image himage, hshared⟩
      | _ => exact hasks.elim
    obtain ⟨answer', d'', hstep, hnone⟩ := hdone
    rw [hstep] at run
    cases run
    exact ⟨fun _ _ _ => List.not_mem_nil, hnone⟩
  · have hsearch : ∃ search, st.search? d = some search := by
      cases st with
      | isAvailable | load _ | detail => exact ⟨_, rfl⟩
      | create name image =>
        have himage : ¬image.isEmpty := fun heq => hempty ⟨name, by rw [List.isEmpty_iff.1 heq]⟩
        exact ⟨_, if_neg himage⟩
      | _ => exact hasks.elim
    obtain ⟨search, hsearch⟩ := hsearch
    have hfull := (conducted hfits run bears).full library search hshared hsearch
    exact ⟨hfull.1, hfull.2.1⟩

/-- **Switching the runtime off.**  In every process whose environment switches the runtime off,
nothing can be done if there is no library for general use, and nothing is refused if there is one.
Either way the operations that ask for it open no library and leave it as it is. -/
theorem disabled_process (h : Process files trace d) (hdisabled : Disabled d) :
    (d.shared = none → Vacant d) ∧
      (∀ library, d.shared = some library → InUse d library) ∧
      ∀ (st : Step) (items : List (Item Host)) (answer : Answer) (d' : Desk), st.Asks →
        (step st d).Runs items (answer, d') → (∀ item ∈ items, files.Bears item) →
          (∀ id path reply, .called (.openLibrary id path) reply ∉ items) ∧
            d'.shared = d.shared := by
  obtain ⟨s, -, hfits⟩ := h.exists_shelf
  exact ⟨hdisabled.vacant, fun _ => hdisabled.inUse,
    fun _ _ _ _ hasks run bears => hdisabled.opens_nothing hfits hasks run bears⟩

theorem disabled_process_sample :
    Process sampleFiles [] { environment := { disable := some " True\n" } } ∧
      Disabled { environment := { disable := some " True\n" } } ∧
      Vacant { environment := { disable := some " True\n" } } := by
  have hprocess : Process sampleFiles [] { environment := { disable := some " True\n" } } :=
    .start _
  have hdisabled : Disabled { environment := { disable := some " True\n" } } :=
    ⟨_, rfl, by decide⟩
  exact ⟨hprocess, hdisabled, (disabled_process hprocess hdisabled).1 rfl⟩

/-- A process that has a library for general use is available although it is switched off. -/
theorem disabled_in_use :
    Process sampleFiles sampleLoading { sampleDesk with environment := { disable := some "1" } } ∧
      Disabled { sampleDesk with environment := { disable := some "1" } } ∧
      step .isAvailable { sampleDesk with environment := { disable := some "1" } } =
        .done (.available true, { sampleDesk with environment := { disable := some "1" } }) := by
  have hload : (step (.loadWith sampleSearch (some "mine")) {}).Runs sampleLoading
      (.library sampleLibrary, sampleDesk) := Program.runs_of_replay_eq rfl
  have hset : (step (.setDisableVariable (some "1")) sampleDesk).Runs []
      (.basic .done, { sampleDesk with environment := { disable := some "1" } }) := .done _
  have hbears : ∀ item ∈ sampleLoading, sampleFiles.Bears item := by
    simp [sampleLoading, Files.Bears, Files.Says, sampleFiles]
  have hdisabled : Disabled { sampleDesk with environment := { disable := some "1" } } :=
    ⟨_, rfl, by decide⟩
  have hprocess := ((Process.start {}).step hload hbears).step hset (List.forall_mem_nil _)
  exact ⟨hprocess, hdisabled, (hdisabled.inUse rfl).isAvailable⟩

/-- A step that does not search in a way of its own searches as the environment says. -/
lemma Disabled.search? (h : Disabled d) (plain : ∀ search keep, st ≠ .loadWith search keep)
    (hsearch : st.search? d = some search) : search.disabled = true := by
  cases st with
  | loadWith search' keep => exact absurd rfl (plain search' keep)
  | runtime _ | isAvailable | detail | load _ =>
    cases hsearch
    exact h.ofEnvironment
  | create name image =>
    rw [Step.search?] at hsearch
    split_ifs at hsearch
    cases hsearch
    exact h.ofEnvironment
  | _ => cases hsearch

/-- A process that had no library at some time, and has been switched off since; it has not searched
in a way of its own. -/
inductive SwitchedOff (files : Files) : List (Item Host) → Desk → Prop where
  /-- There is no library. -/
  | start {trace : List (Item Host)} {d : Desk} (before : Process files trace d)
      (none : d.shared = none) : SwitchedOff files trace d
  /-- One more step is carried out. -/
  | step {trace items : List (Item Host)} {d d' : Desk} {st : Step} {answer : Answer}
      (before : SwitchedOff files trace d) (disabled : Disabled d)
      (plain : ∀ search keep, st ≠ .loadWith search keep)
      (run : (Desk.step st d).Runs items (answer, d'))
      (bears : ∀ item ∈ items, files.Bears item) : SwitchedOff files (trace ++ items) d'

lemma SwitchedOff.process (h : SwitchedOff files trace d) : Process files trace d := by
  induction h with
  | start before none => exact before
  | step before disabled plain run bears ih => exact ih.step run bears

/-- **While it is switched off**, a process gets no library. -/
theorem SwitchedOff.shared_eq_none (h : SwitchedOff files trace d) : d.shared = none := by
  induction h with
  | start before none => exact none
  | @step trace items d d' st answer before disabled plain run bears ih =>
    obtain ⟨s, -, hfits⟩ := before.process.exists_shelf
    have hconducted := conducted hfits run bears
    by_cases hunload : st = .unload
    · exact (hconducted.unloading hunload).2
    rcases hsearch : st.search? d with _ | search
    · rw [hconducted.other hsearch hunload, ih]
    -- The step searches as the environment says, so it finds nothing.
    · have hoff := disabled.search? plain hsearch
      have hmissed : Library.discoverIn files d.nextLibrary search = .error disabledError := by
        rw [Library.discoverIn, if_pos hoff, disabledError]
      exact (hconducted.missed _ search ih hsearch hmissed).1

end Desk

end TensorBridge
