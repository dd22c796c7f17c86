import TensorBridge.Proofs.CommandLine.Run

/-!
# What a run cleans up

Nothing that a run has made stays live, whatever fails.  Only a run that succeeds prints, and it
closes its library.

* `Command.Working.balance` and `Command.Making.balance`: no native handle stays live.
* `Command.Completion` has the parts of a run that succeeds; `Command.Completion.Holds` says that
  they belong together, and `Command.Completion.Tidy` that everything is put away.
* `Command.run_cleans_up`: what holds of every run.
-/

namespace TensorBridge

open Program (Item)

/-! ## Printing, opening and closing -/

namespace HostOp

/-- The operation does not print, and it opens and closes no library. -/
def IsDiscreet : HostOp → Prop
  | .native .. | .readFile _ | .pathExists _ => True
  | _ => False

lemma Reads.isDiscreet {op : HostOp} (h : op.Reads) : op.IsDiscreet := by
  cases op <;> trivial

lemma Calls.isDiscreet {id : Nat} {op : HostOp} (h : op.Calls id) : op.IsDiscreet := by
  cases op <;> trivial

lemma Reads.silent {op : HostOp} (h : op.Reads) : op.Silent := by
  cases op <;> trivial

end HostOp

namespace Notice

/-- The notice is no warning about a library that is given up while it is held. -/
def IsDiscreet : Notice → Prop
  | .unloadWhileHeld .. => False
  | _ => True

lemma IsBuilding.isDiscreet {n : Notice} (h : n.IsBuilding) : n.IsDiscreet := by
  cases n <;> trivial

end Notice

namespace Host

/-- The text that was printed. -/
def printed? : Item Host → Option String
  | .called (.print text) _ => some text
  | _ => none

/-- The texts that were printed. -/
def printed (items : List (Item Host)) : List String := items.filterMap printed?

/-- Nothing was printed, no library was opened or closed, and there was no warning about one that is
held. -/
def Discreet (items : List (Item Host)) : Prop :=
  ∀ item ∈ items, item.Within HostOp.IsDiscreet Notice.IsDiscreet

variable {item : Item Host} {items items' : List (Item Host)} {live : Live}

@[simp] lemma printed_nil : printed [] = [] := rfl

@[simp] lemma printed_cons : printed (item :: items) = (printed? item).toList ++ printed items := by
  cases h : printed? item <;> simp [printed, h]

@[simp] lemma printed_append : printed (items ++ items') = printed items ++ printed items' :=
  List.filterMap_append

/-- Where no operation prints, nothing is printed. -/
lemma printed_eq_nil {P : HostOp → Prop} {N : Notice → Prop} (hprint : ∀ text, ¬P (.print text))
    (h : ∀ item ∈ items, item.Within P N) : printed items = [] := by
  refine List.filterMap_eq_nil_iff.2 fun item hitem => ?_
  have hwithin := h item hitem
  rcases item with ⟨op, reply⟩ | n
  · cases op with
    | print text => exact (hprint text hwithin).elim
    | _ => rfl
  · rfl

/-- What a search does prints nothing. -/
lemma printed_eq_nil_of_handles {first next : Nat} {N : Notice → Prop}
    (h : ∀ item ∈ items, item.Within (HostOp.Handles first next) N) : printed items = [] :=
  printed_eq_nil (fun _ => id) h

namespace Discreet

lemma printed_eq_nil (h : Discreet items) : printed items = [] :=
  Host.printed_eq_nil (fun _ => id) h

lemma countP_eq_zero (h : Discreet items) {f : Item Host → Bool}
    (hcalled : ∀ op reply, op.IsDiscreet → f (.called op reply) = false)
    (hnoted : ∀ n, f (.noted n) = false) : items.countP f = 0 := by
  refine List.countP_eq_zero.2 fun item hitem => Bool.not_eq_true _ ▸ ?_
  have hwithin := h item hitem
  rcases item with ⟨op, reply⟩ | n
  · exact hcalled op reply hwithin
  · exact hnoted n

lemma append (h : Discreet items) (h' : Discreet items') : Discreet (items ++ items') :=
  List.forall_mem_append.2 ⟨h, h'⟩

end Discreet

namespace Balance

/-- Where no function is called, nothing changes. -/
lemma of_silent {N : Notice → Prop} (h : ∀ item ∈ items, item.Within HostOp.Silent N) :
    Balance live items live := by
  have hnone : items.filterMap made? = [] ∧ items.filterMap released? = [] := by
    refine ⟨List.filterMap_eq_nil_iff.2 fun item hitem => ?_,
      List.filterMap_eq_nil_iff.2 fun item hitem => ?_⟩
    all_goals
      have hwithin := h item hitem
      rcases item with ⟨op, reply⟩ | n
      · cases op <;> trivial
      · rfl
  exact .silent (congrArg _ hnone.1) (congrArg _ hnone.2)

end Balance

end Host

open Host (Balance Discreet)

namespace Command

variable {format : ReportFormat} {plan : RunPlan} {library : Library} {image : List UInt8}
  {environment : Environment} {session session' : Session} {d d' : Desk} {items : List (Item Host)}
  {r : Except CommandError Unit} {e : CommandError}

/-! ## The parts of a run -/

lemma discreet_of_reads (h : ∀ item ∈ items, item.Within HostOp.Reads fun _ => False) :
    Discreet items :=
  fun item hitem => (h item hitem).mono (fun _ => HostOp.Reads.isDiscreet) fun _ => False.elim

lemma balance_of_reads (h : ∀ item ∈ items, item.Within HostOp.Reads fun _ => False) :
    Balance 0 items 0 :=
  .of_silent (N := fun _ => False) fun item hitem =>
    (h item hitem).mono (fun _ => HostOp.Reads.silent) fun _ => id

lemma discreet_of_starting {config : Option String} {file : Except RunFileError RunFile}
    (start : (startingFile config).Runs items file) : Discreet items :=
  discreet_of_reads ((startingFile_within config).of_runs start)

lemma discreet_of_planning {file : RunFile} {planned : Except RunPlanError RunPlan}
    (plan : (RunPlan.ofRunFile file).Runs items planned) : Discreet items :=
  discreet_of_reads ((ofRunFile_within file).of_runs plan)

lemma discreet_of_make {made : Except BridgeError Session}
    (make : (library.host (Session.create library.description image defaultDrivers).run).Runs items
      made) : Discreet items :=
  ((Library.host_within (Session.create_within _ _ _)).mono (fun _ => HostOp.Calls.isDiscreet)
    fun _ => Notice.IsBuilding.isDiscreet).of_runs make

lemma discreet_of_invoke {entry : String} {inputs : List Tensor}
    {result : Except BridgeError (List Tensor)}
    (invoke : (library.host (session.invoke entry inputs)).Runs items (result, session')) :
    Discreet items :=
  ((Library.host_within (Session.invoke_within _ _ _)).mono (fun _ => HostOp.Calls.isDiscreet)
    fun _ => False.elim).of_runs invoke

lemma discreet_ending (session : Session) (library : Library) :
    Discreet (session.ending library) := by
  simp [Discreet, Session.ending, Item.Within, HostOp.IsDiscreet]

/-- An invocation leaves what is given back at the end of a session as it is. -/
lemma ending_eq_of_invoke {entry : String} {inputs : List Tensor}
    {result : Except BridgeError (List Tensor)}
    (invoke : (library.host (session.invoke entry inputs)).Runs items (result, session')) :
    session'.ending library = session.ending library := by
  have hhandles := (Session.invoke_balance invoke).2
  simp only [Session.handles, List.cons.injEq, Handle.any_inj, and_true] at hhandles
  obtain ⟨hsession, hdevice, hinst⟩ := hhandles
  rw [Session.ending, hsession, hdevice, hinst, Session.ending]

lemma balance_ending : Balance (session.liveOn library) (session.ending library) 0 :=
  Session.destroy_balance (u := ()) (Library.runs_destroy_iff.2 rfl)

/-! ## What stays live and what is printed -/

/-- **A session of a run** and whatever else is made on the library is gone in the end. -/
theorem Working.balance (h : Working format plan library image d items r d') :
    Balance 0 items 0 := by
  cases h with
  | refused make => exact Session.create_balance make
  | failed make invoke =>
    -- What is destroyed is the session as the invocation leaves it, with the handles it was made
    -- with.
    rw [ending_eq_of_invoke invoke]
    exact (Session.create_balance make).append
      ((Session.invoke_balance invoke).1.append balance_ending)
  | @done making invoking session _ results make invoke =>
    have hprint : Balance (session.liveOn library)
        [.called (.print (reportResults format results)) ()] (session.liveOn library) :=
      .silent rfl rfl
    have hclosing : Balance 0 (closing library) 0 := .silent rfl rfl
    rw [ending_eq_of_invoke invoke]
    exact (Session.create_balance make).append ((Session.invoke_balance invoke).1.append
      (hprint.append (balance_ending.append hclosing)))

/-- **Whatever a planned run makes** is gone in the end. -/
theorem Making.balance (h : Making format plan environment items r d') : Balance 0 items 0 := by
  have hloading {loading : List (Item Host)} {loaded : Except BridgeError Unit} {d' : Desk}
      (load : (Desk.load plan.library { environment := environment }).Runs loading (loaded, d')) :
      Balance 0 loading 0 := by
    obtain ⟨_, hwithin⟩ := within_of_load load
    exact .of_silent fun item hitem =>
      (hwithin item hitem).mono (fun _ => Library.silent_of_handles)
      fun _ => id
  have hread (content : Except FileFault (List UInt8)) :
      Balance 0 [.called (.readFile plan.modulePath) content] 0 := .silent rfl rfl
  cases h with
  | unloaded load => exact hloading load
  | unreadable load => exact (hloading load).append (hread _)
  | working load work => exact (hloading load).append ((hread _).append work.balance)

/-- A run that fails behind the reading of its module prints nothing. -/
lemma Working.printed_eq_nil (h : Working format plan library image d items (.error e) d') :
    Host.printed items = [] := by
  cases h with
  | refused make => exact (discreet_of_make make).printed_eq_nil
  | failed make invoke =>
    exact ((discreet_of_make make).append
      ((discreet_of_invoke invoke).append (discreet_ending _ _))).printed_eq_nil

/-- A planned run that fails prints nothing. -/
lemma Making.printed_eq_nil (h : Making format plan environment items (.error e) d') :
    Host.printed items = [] := by
  cases h with
  | unloaded load =>
    obtain ⟨_, hwithin⟩ := within_of_load load
    exact Host.printed_eq_nil_of_handles hwithin
  | unreadable load =>
    obtain ⟨_, hwithin⟩ := within_of_load load
    rw [Host.printed_append, Host.printed_eq_nil_of_handles hwithin]
    rfl
  | working load work =>
    obtain ⟨_, hwithin⟩ := within_of_load load
    rw [Host.printed_append, Host.printed_eq_nil_of_handles hwithin]
    exact work.printed_eq_nil

/-! ## Runs that succeed -/

/-- The parts of a run that succeeds. -/
structure Completion where
  /-- The run file that the run starts from. -/
  file : RunFile
  /-- The plan. -/
  plan : RunPlan
  /-- The library that is loaded. -/
  library : Library
  /-- The module. -/
  image : List UInt8
  /-- The session. -/
  session : Session
  /-- What the invocation returns. -/
  results : List Tensor
  /-- What happens while the run file is read. -/
  starting : List (Item Host)
  /-- What happens while the run is planned. -/
  planning : List (Item Host)
  /-- What happens while the library is loaded. -/
  loading : List (Item Host)
  /-- What happens while the session is made. -/
  making : List (Item Host)
  /-- What happens while it is invoked. -/
  invoking : List (Item Host)

namespace Completion

variable {config : Option String} {flags : RunFile} {c : Completion}

/-- What happens up to the end of the session. -/
def body (format : ReportFormat) (c : Completion) : List (Item Host) :=
  c.starting ++ (c.planning ++ (c.loading ++ .called (.readFile c.plan.modulePath) (.ok c.image) ::
    (c.making ++ (c.invoking ++ .called (.print (reportResults format c.results)) () ::
      c.session.ending c.library))))

/-- What happens in the run. -/
def trace (format : ReportFormat) (c : Completion) : List (Item Host) :=
  c.body format ++ closing c.library

/-- The parts belong together. -/
structure Holds (config : Option String) (flags : RunFile) (environment : Environment)
    (c : Completion) : Prop where
  /-- The run file is read. -/
  started : (startingFile config).Runs c.starting (.ok c.file)
  /-- The plan is that of the run file with the flags. -/
  planned : (RunPlan.ofRunFile (c.file.merge flags)).Runs c.planning (.ok c.plan)
  /-- The library is the one for general use after it has been loaded. -/
  loaded :
    ∃ d, (Desk.load c.plan.library { environment := environment }).Runs c.loading (.ok (), d) ∧
    d.shared = some c.library
  /-- The session is made with the module on this library. -/
  made : (c.library.host (Session.create c.library.description c.image defaultDrivers).run).Runs
    c.making (.ok c.session)
  /-- It is this session that returns the results. -/
  invoked :
    ∃ session', (c.library.host (c.session.invoke c.plan.entry c.plan.inputs)).Runs c.invoking
    (.ok c.results, session')

/-- Everything is put away. -/
structure Tidy (format : ReportFormat) (c : Completion) : Prop where
  /-- The results are printed, once, and nothing else is. -/
  printed_eq : Host.printed (c.trace format) = [reportResults format c.results]
  /-- Nothing is opened but while the library is loaded. -/
  opened : ∀ id path reply, .called (.openLibrary id path) reply ∈ c.trace format →
    .called (.openLibrary id path) reply ∈ c.loading
  /-- One library with all required symbols is opened. -/
  completeOpenings_eq : Library.completeOpenings (c.trace format) = 1
  /-- It is the library of the session. -/
  openings_eq : Shelf.openings c.library.id (c.trace format) = 1
  /-- This library is closed once. -/
  closings_eq : Shelf.closings c.library.id (c.trace format) = 1
  /-- When it is closed, all handles that have been made have been released. -/
  balance : Balance 0 (c.body format) 0
  /-- There is no warning about a library that is given up while it is held. -/
  unheld : ∀ path holders, .noted (.unloadWhileHeld path holders) ∉ c.trace format

/-- What happens, by its kinds. -/
lemma Holds.mem_trace (h : c.Holds config flags environment) {item : Item Host}
    (hmem : item ∈ c.trace format) : item ∈ c.loading ∨
      item.Within HostOp.IsDiscreet Notice.IsDiscreet ∨
      item = .called (.print (reportResults format c.results)) () ∨ item ∈ closing c.library := by
  obtain ⟨_, invoke⟩ := h.invoked
  simp only [trace, body, List.mem_append, List.mem_cons] at hmem
  rcases hmem with (hmem | hmem | hmem | rfl | hmem | hmem | hmem | hmem) | hmem
  · exact .inr (.inl (discreet_of_starting h.started _ hmem))
  · exact .inr (.inl (discreet_of_planning h.planned _ hmem))
  · exact .inl hmem
  · exact .inr (.inl trivial)
  · exact .inr (.inl (discreet_of_make h.made _ hmem))
  · exact .inr (.inl (discreet_of_invoke invoke _ hmem))
  · exact .inr (.inr (.inl hmem))
  · exact .inr (.inl (discreet_ending _ _ _ hmem))
  · exact .inr (.inr (.inr hmem))

/-- What is not discreet happens while the library is loaded, while the results are printed, or in
the end. -/
lemma Holds.countP_trace (h : c.Holds config flags environment) (format : ReportFormat)
    (f : Item Host → Bool)
    (hcalled : ∀ op reply, op.IsDiscreet → f (.called op reply) = false)
    (hnoted : ∀ n, f (.noted n) = false) (hprint : ∀ text, f (.called (.print text) ()) = false) :
    (c.trace format).countP f = c.loading.countP f + (closing c.library).countP f := by
  obtain ⟨_, invoke⟩ := h.invoked
  have hread : f (.called (.readFile c.plan.modulePath) (.ok c.image)) = false :=
    hcalled _ _ trivial
  simp [trace, body, hread, hprint, (discreet_of_starting h.started).countP_eq_zero hcalled hnoted,
    (discreet_of_planning h.planned).countP_eq_zero hcalled hnoted,
    (discreet_of_make h.made).countP_eq_zero hcalled hnoted,
    (discreet_of_invoke invoke).countP_eq_zero hcalled hnoted,
    (discreet_ending c.session c.library).countP_eq_zero hcalled hnoted]

/-- **A run that succeeds** puts everything away. -/
theorem Holds.tidy (h : c.Holds config flags environment)
    (hbalance : Balance 0 (c.trace format) 0) :
    c.Tidy format := by
  obtain ⟨_, load, hshared⟩ := h.loaded
  obtain ⟨_, _, rfl, hopened⟩ := opened_of_load load
  obtain rfl := Option.some.inj hshared
  obtain ⟨_, hloading⟩ := within_of_load load
  obtain ⟨_, invoke⟩ := h.invoked
  -- What counts as an opening or a closing stands in the loading or at the very end.
  refine ⟨?_, fun id path reply hmem => ?_, ?_, ?_, ?_, hbalance.of_append rfl rfl,
    fun path holders hmem => ?_⟩
  · simp [trace, body, Host.printed?, closing, Host.printed_eq_nil_of_handles hloading,
      (discreet_of_starting h.started).printed_eq_nil,
      (discreet_of_planning h.planned).printed_eq_nil,
      (discreet_of_make h.made).printed_eq_nil, (discreet_of_invoke invoke).printed_eq_nil,
      (discreet_ending c.session c.library).printed_eq_nil]
  · rcases h.mem_trace hmem with hmem | hwithin | heq | hmem
    · exact hmem
    · cases hwithin
    · cases heq
    · simp [closing] at hmem
  · have hcount := h.countP_trace format Library.isComplete
      (fun op _ hop => by cases op <;> trivial) (fun _ => rfl) fun _ => rfl
    have hload := hopened.completeOpenings_eq
    exact hcount.trans (congrArg (· + 0) hload)
  · have hcount := h.countP_trace format (Shelf.isOpening c.library.id)
      (fun op _ hop => by cases op <;> trivial) (fun _ => rfl) fun _ => rfl
    exact hcount.trans (congrArg (· + 0) (hopened.openings_eq _ rfl))
  · have hcount := h.countP_trace format (Shelf.isClosing c.library.id)
      (fun op _ hop => by cases op <;> trivial) (fun _ => rfl) fun _ => rfl
    have hclosing : Shelf.closings c.library.id (closing c.library) = 1 := by
      simp [Shelf.closings, Shelf.isClosing, closing]
    exact hcount.trans (congrArg₂ (· + ·) (hopened.closings_eq _ rfl) hclosing)
  · rcases h.mem_trace hmem with hmem | hwithin | heq | hmem
    · exact hloading _ hmem
    · exact hwithin
    · cases heq
    · simp [closing] at hmem

end Completion

/-- A planned run that succeeds has all its parts, and the process has nothing loaded behind it. -/
lemma Making.exists_completion {config : Option String} {flags file : RunFile}
    {starting planning : List (Item Host)}
    (hfile : (startingFile config).Runs starting (.ok file))
    (hplan : (RunPlan.ofRunFile (file.merge flags)).Runs planning (.ok plan))
    (h : Making format plan environment items (.ok ()) d') :
    (∃ nextLibrary, d' = { environment := environment, nextLibrary := nextLibrary }) ∧
      ∃ c : Completion, c.Holds config flags environment ∧
        starting ++ (planning ++ items) = c.trace format := by
  cases h with
  | @working loading _ library nextLibrary image _ _ load work =>
    cases work with
    | @done making invoking session session' results make invoke =>
      refine ⟨⟨nextLibrary, rfl⟩, ⟨file, plan, library, image, session, results, starting, planning,
        loading, making, invoking⟩, ⟨hfile, hplan, ⟨_, load, rfl⟩, make, ⟨session', invoke⟩⟩, ?_⟩
      simp [Completion.trace, Completion.body, ending_eq_of_invoke invoke]

/-- **Every run cleans up.**  Whatever the run file, the flags, the environment and the replies of
the host are, each instance, device, session and list that a run makes is released before it ends,
and none is released that is not live.  A run that fails prints nothing.  A run that succeeds prints
its results, once, and nothing else.  Its session is made on the library that has been loaded, which
is the only usable one that is opened.  This library is closed once, after everything that was made
has been released and without a warning, and the process has nothing loaded any more. -/
theorem run_cleans_up (format : ReportFormat) (config : Option String) (flags : RunFile)
    (environment : Environment) {items : List (Item Host)} {r : Except CommandError Unit}
    {d' : Desk}
    (run : (perform format (.run config flags) { environment := environment }).Runs items (r, d')) :
    Balance 0 items 0 ∧
      (∀ e, r = .error e → Host.printed items = []) ∧
      (r = .ok () →
        (∃ nextLibrary, d' = { environment := environment, nextLibrary := nextLibrary }) ∧
          ∃ c : Completion, items = c.trace format ∧ c.Holds config flags environment ∧
            c.Tidy format) := by
  rcases runs_run_cases run with ⟨e, rfl, rfl, hreads⟩ |
    ⟨starting, planning, making, file, plan, rfl, hfile, hplan, hmaking⟩
  · -- Without a plan, files have been looked at and nothing else has happened.
    exact ⟨balance_of_reads hreads, fun _ _ => (discreet_of_reads hreads).printed_eq_nil, nofun⟩
  have hmaking := making_of_runs hmaking
  have hbalance : Balance 0 (starting ++ (planning ++ making)) 0 :=
    (balance_of_reads ((startingFile_within _).of_runs hfile)).append
      ((balance_of_reads ((ofRunFile_within _).of_runs hplan)).append hmaking.balance)
  refine ⟨hbalance, ?_, ?_⟩
  · rintro e rfl
    rw [Host.printed_append, Host.printed_append, hmaking.printed_eq_nil,
      (discreet_of_starting hfile).printed_eq_nil, (discreet_of_planning hplan).printed_eq_nil]
    rfl
  · rintro rfl
    obtain ⟨hempty, c, holds, heq⟩ := hmaking.exists_completion hfile hplan
    exact ⟨hempty, c, heq, holds, holds.tidy (heq ▸ hbalance)⟩

open Desk (answered sampleLoading)

/-- A library that can be used. -/
def sampleEnvironment : Environment := { library := some "lib.so" }

/-- Flags with a library that does not open. -/
def sampleFlags : RunFile :=
  { library := some "none.so", modulePath := some "m.vmfb", entry := some "m.main" }

/-- A run up to the reply to the call of its entry point. -/
def sampleCalling (status : Option StatusWord) : List (Item Host) :=
  [.called (.pathExists "m.vmfb") true, .called (.pathExists "none.so") true] ++ sampleLoading ++
    [.called (.readFile "m.vmfb") (.ok [7]),
      answered (.fillInstanceOptions {}) ⟨true, false⟩,
      answered (.useAllDrivers ⟨true, false⟩) ⟨true, true⟩,
      answered (.createInstance ⟨true, true⟩ .system) ⟨none, some 1⟩,
      answered (.vmInstance 1) (some 9),
      answered (.registerTypes 9) none,
      answered (.resolveTypes 9) none,
      answered (.createDevice 1 "local-task") ⟨none, some 2⟩,
      answered (.fillSessionOptions {}) ⟨true⟩,
      answered (.hostAllocator 1) .ofInstance,
      answered (.createSession 1 ⟨true⟩ 2 .ofInstance) ⟨none, some 3⟩,
      answered (.malloc .system 1) ⟨none, some 7⟩,
      answered (.appendModule 3 [7] .system) none,
      .noted (.moduleLoaded "IREE runtime at lib.so" "local-task" 1),
      answered (.createList 0 0 .system) ⟨none, some 4⟩,
      answered (.createList 0 4 .system) ⟨none, some 5⟩,
      answered (.callByName 3 "m.main" 4 5) status]

/-- The session is given back. -/
def sampleEnding : List (Item Host) :=
  [answered (.releaseSession 3) (), answered (.releaseDevice 2) (),
    answered (.releaseInstance 1) ()]

/-- The entry point returns one number. -/
def sampleSuccess : List (Item Host) :=
  sampleCalling none ++
    [answered (.listSize 5) 1,
      answered (.viewAt 5 0) (some 6),
      answered (.viewCode 6) ElementType.i32.toNative,
      answered (.viewRank 6) 0,
      answered (.viewDims 6) none,
      answered (.viewByteLength 6) 4,
      answered (.viewBuffer 6) (some 8),
      answered (.readBuffer 8 0 4) (none, ⟨[7, 0, 0, 0], rfl⟩),
      answered (.releaseList 5) (),
      answered (.releaseList 4) (),
      .called (.print "result[0]: i32=7") ()] ++
    sampleEnding ++ [.noted (.libraryUnloading "lib.so"), .called (.closeLibrary 1) ()]

/-- The call of the entry point fails. -/
def sampleFailure : List (Item Host) :=
  sampleCalling (some 5) ++
    [answered (.freeStatus 5) (), answered (.releaseList 5) (), answered (.releaseList 4) ()] ++
    sampleEnding

lemma exists_runs_of_replay (trace : List (Item Host)) (r : Except CommandError Unit)
    (h : ((perform .text (.run none sampleFlags) { environment := sampleEnvironment }).replay
      trace).map Prod.fst = some r) :
    ∃ d, (perform .text (.run none sampleFlags) { environment := sampleEnvironment }).Runs trace
      (r, d) := by
  obtain ⟨⟨_, d⟩, hreplay, rfl⟩ := Option.map_eq_some_iff.1 h
  exact ⟨d, Program.runs_of_replay_eq hreplay⟩

/-- A run that succeeds, and one whose entry point fails: in both all that was made is released. -/
theorem run_cleans_up_sample :
    (∃ d, (perform .text (.run none sampleFlags) { environment := sampleEnvironment }).Runs
        sampleSuccess (.ok (), d) ∧
      Balance 0 sampleSuccess 0 ∧ d.shared = none ∧
      ∃ c : Completion, sampleSuccess = c.trace .text ∧
        c.Holds none sampleFlags sampleEnvironment ∧ c.Tidy .text) ∧
    ∃ d e, (perform .text (.run none sampleFlags) { environment := sampleEnvironment }).Runs
        sampleFailure (.error (.invocation "m.main" e), d) ∧
      Balance 0 sampleFailure 0 ∧ Host.printed sampleFailure = [] := by
  obtain ⟨d, hsuccess⟩ := exists_runs_of_replay sampleSuccess (.ok ()) (by decide +kernel)
  obtain ⟨d', hfailure⟩ := exists_runs_of_replay sampleFailure
    (.error (.invocation "m.main" (.status "iree_runtime_session_call_by_name" .notFound
      "IREE status error"))) (by decide +kernel)
  obtain ⟨hbalance, -, hdone⟩ := run_cleans_up .text none sampleFlags sampleEnvironment hsuccess
  obtain ⟨⟨_, hempty⟩, c, htrace, holds, htidy⟩ := hdone rfl
  obtain ⟨hbalance', hprinted, -⟩ := run_cleans_up .text none sampleFlags sampleEnvironment hfailure
  exact ⟨⟨d, hsuccess, hbalance, congrArg Desk.shared hempty, c, htrace, holds, htidy⟩,
    d', _, hfailure, hbalance', hprinted _ rfl⟩

end Command

end TensorBridge
