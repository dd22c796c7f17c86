import TensorBridge.Proofs.CommandLine.Probe
import TensorBridge.Proofs.Library.Hosting

/-!
# The ways of a run

What happens when the command `run` is carried out in a process that has nothing loaded.  The run is
planned, the library is loaded, the file of the module is read, and a session is made, invoked and
destroyed; each of these can fail.

* `Command.Making` and `Command.Working` tell what happens in a planned run, one constructor for
  each way in which it can end.
* `Command.making_of_runs` and `Command.runs_run_cases`: a run goes one of these ways, or there is
  no plan.
* `Command.opened_of_load`: a library that is loaded was opened once, and it is the only one with
  all required symbols that was opened.
-/

namespace TensorBridge

open Program (Item)

/-! ## Planning -/

/-- The operation only looks at files. -/
def HostOp.Reads : HostOp → Prop
  | .readFile _ | .pathExists _ => True
  | _ => False

namespace Command

open HostOp (Reads)

lemma startingFile_within (config : Option String) :
    (startingFile config).Within Reads fun _ => False := by
  cases config with
  | none => exact .done _
  | some path =>
    refine .bind (.perform trivial) fun read => ?_
    cases read <;> exact .done _

lemma ofRunFile_within (file : RunFile) : (RunPlan.ofRunFile file).Within Reads fun _ => False := by
  have hexists (path : String) :
      (ExceptT.run (liftM (Program.perform (I := Host) (.pathExists path)) :
        ExceptT RunPlanError (Program Host) Bool)).Within Reads fun _ => False :=
    ⟨trivial, fun _ => trivial⟩
  have hinputs (library : Option String) (modulePath entry : String) : (ExceptT.run do
      let inputs ← ExceptT.mk (pure (RunPlan.readInputs 0 file.inputs))
      pure (⟨library, modulePath, entry, inputs⟩ : RunPlan) :
      Program Host (Except RunPlanError RunPlan)).Within Reads fun _ => False :=
    .bindExcept (.done _) fun _ => .done _
  unfold RunPlan.ofRunFile
  cases file.modulePath with
  | none => exact .done _
  | some modulePath =>
    refine .bindExcept (hexists _) fun there => ?_
    cases there with
    | false => exact .done _
    | true =>
      cases file.entry with
      | none => exact .done _
      | some entry =>
        simp only [if_true]
        split_ifs with hqualified
        · cases file.library with
          | none => exact hinputs _ _ _
          | some library =>
            refine .bindExcept (hexists _) fun there => ?_
            cases there with
            | false => exact .done _
            | true => exact hinputs _ _ _
        · exact .done _

/-! ## The ways of a run -/

/-- What happens when a library is closed that nothing holds any more. -/
def closing (library : Library) : List (Item Host) :=
  [.noted (.libraryUnloading library.path), .called (.closeLibrary library.id) ()]

/-- What happens in a run when the file of the module has been read, the result, and what the
process has afterwards. -/
inductive Working (format : ReportFormat) (plan : RunPlan) (library : Library) (image : List UInt8)
    (d : Desk) : List (Item Host) → Except CommandError Unit → Desk → Prop where
  /-- There is no session. -/
  | refused {making : List (Item Host)} {e : BridgeError}
      (make :
        (library.host (Session.create library.description image defaultDrivers).run).Runs making
          (.error e)) :
      Working format plan library image d making (.error (.session plan.modulePath e)) d
  /-- The entry point gives no results; the session is destroyed. -/
  | failed {making invoking : List (Item Host)} {session session' : Session} {e : BridgeError}
      (make :
        (library.host (Session.create library.description image defaultDrivers).run).Runs making
          (.ok session))
      (invoke : (library.host (session.invoke plan.entry plan.inputs)).Runs invoking
        (.error e, session')) :
      Working format plan library image d (making ++ (invoking ++ session'.ending library))
        (.error (.invocation plan.entry e)) d
  /-- The results are printed, the session is destroyed, and the library is given up and closed. -/
  | done {making invoking : List (Item Host)} {session session' : Session} {results : List Tensor}
      (make :
        (library.host (Session.create library.description image defaultDrivers).run).Runs making
          (.ok session))
      (invoke : (library.host (session.invoke plan.entry plan.inputs)).Runs invoking
        (.ok results, session')) :
      Working format plan library image d
        (making ++ (invoking ++ .called (.print (reportResults format results)) () ::
          (session'.ending library ++ closing library))) (.ok ()) { d with shared := none }

/-- The process with a library for general use and nothing else. -/
def withLibrary (environment : Environment) (nextLibrary : Nat) (library : Library) : Desk where
  environment := environment
  nextLibrary := nextLibrary
  shared := some library

/-- The process with a session of a run as well. -/
def withSession (environment : Environment) (nextLibrary : Nat) (library : Library) (s : Session) :
    Desk :=
  { withLibrary environment nextLibrary library with
    sessions := ⟨[(runSession, ⟨s, library⟩)]⟩
    holders := List.replicate 4 library.id }

/-- What happens when a planned run is made in a process that has nothing loaded, the result, and
what the process has afterwards. -/
inductive Making (format : ReportFormat) (plan : RunPlan) (environment : Environment) :
    List (Item Host) → Except CommandError Unit → Desk → Prop where
  /-- The library cannot be loaded. -/
  | unloaded {loading : List (Item Host)} {e : BridgeError} {d' : Desk}
      (load : (Desk.load plan.library { environment := environment }).Runs loading (.error e, d')) :
      Making format plan environment loading (.error (.runtime e)) d'
  /-- The file of the module cannot be read. -/
  | unreadable {loading : List (Item Host)} {fault : FileFault} {d' : Desk}
      (load : (Desk.load plan.library { environment := environment }).Runs loading (.ok (), d')) :
      Making format plan environment
        (loading ++ [.called (.readFile plan.modulePath) (.error fault)])
        (.error (.moduleUnreadable plan.modulePath fault)) d'
  /-- The run goes on with the library that has been loaded and the module that has been read. -/
  | working {loading working : List (Item Host)} {library : Library} {nextLibrary : Nat}
      {image : List UInt8} {r : Except CommandError Unit} {d' : Desk}
      (load : (Desk.load plan.library { environment := environment }).Runs loading
        (.ok (), withLibrary environment nextLibrary library))
      (work : Working format plan library image (withLibrary environment nextLibrary library)
        working r d') :
      Making format plan environment
        (loading ++ .called (.readFile plan.modulePath) (.ok image) :: working) r d'

variable {format : ReportFormat} {plan : RunPlan} {d d' : Desk} {items : List (Item Host)}
  {r : Except CommandError Unit} {library : Library} {image : List UInt8}

/-- The rest of a run when the file of the module has been read. -/
def work (format : ReportFormat) (plan : RunPlan) (image : List UInt8) :
    DeskM (Except CommandError Unit) := do
  match ← Desk.createSession image with
  | .error e => return .error (.session plan.modulePath e)
  | .ok session =>
    Desk.addSession runSession session
    match ← Desk.invoke runSession plan.entry session plan.inputs with
    | .error e =>
      let _ ← Desk.destroySession runSession
      return .error (.invocation plan.entry e)
    | .ok results =>
      print (reportResults format results)
      let _ ← Desk.destroySession runSession
      let _ ← Desk.unload
      return .ok ()

lemma performPlan_eq : performPlan format plan = (do
    match ← Desk.load plan.library with
    | .error e => return .error (.runtime e)
    | .ok () =>
      match ← Desk.onHost (Program.perform (I := Host) (.readFile plan.modulePath)) with
      | .error fault => return .error (.moduleUnreadable plan.modulePath fault)
      | .ok image => work format plan image) := rfl

section Steps

variable {environment : Environment} {nextLibrary : Nat} {s : Session}

lemma runs_addSession_iff {u : Unit} :
    (Desk.addSession runSession ⟨s, library⟩
        ((withLibrary environment nextLibrary library).hosting library)).Runs items (u, d') ↔
      items = [] ∧ d' = withSession environment nextLibrary library s := by
  rw [Desk.addSession_of_fresh rfl, Program.runs_done_iff, Prod.mk_inj]
  exact and_congr_right fun _ => and_iff_right rfl

lemma runs_invoke_iff {entry : String} {inputs : List Tensor}
    {r : Except BridgeError (List Tensor)} :
    (Desk.invoke runSession entry ⟨s, library⟩ inputs
        (withSession environment nextLibrary library s)).Runs items (r, d') ↔
      ∃ s', d' = withSession environment nextLibrary library s' ∧
        (library.host (s.invoke entry inputs)).Runs items (r, s') :=
  Desk.runs_invoke_iff

lemma runs_destroySession_iff {b : Bool} :
    (Desk.destroySession runSession (withSession environment nextLibrary library s)).Runs items
        (b, d') ↔
      items = s.ending library ∧ b = true ∧ d' = withLibrary environment nextLibrary library := by
  have hceding : Desk.ceding { withSession environment nextLibrary library s with
      sessions := (withSession environment nextLibrary library s).sessions.erase runSession }
      library = withLibrary environment nextLibrary library := by
    simp [Desk.ceding, withSession, withLibrary, NameTable.erase, List.replicate]
  rw [Desk.runs_destroySession_iff (s := ⟨s, library⟩) rfl rfl, hceding]

lemma runs_unload_iff {b : Bool} :
    (Desk.unload (withLibrary environment nextLibrary library)).Runs items (b, d') ↔
      items = closing library ∧ b = true ∧
        d' = { environment := environment, nextLibrary := nextLibrary } := by
  rw [Desk.unload_of_free rfl rfl]
  constructor
  · intro run
    obtain ⟨_, rfl, hcall⟩ := Program.runs_note_iff.1 run
    obtain ⟨_, _, rfl, hdone⟩ := Program.runs_call_iff.1 hcall
    obtain ⟨rfl, heq⟩ := Program.runs_done_iff.1 hdone
    obtain ⟨rfl, rfl⟩ := Prod.mk_inj.1 heq
    exact ⟨rfl, rfl, rfl⟩
  · rintro ⟨rfl, rfl, rfl⟩
    exact .note (.call (.done _))

/-- **The rest of a run** in a process with a library and nothing else. -/
theorem working_of_runs
    (run : (work format plan image (withLibrary environment nextLibrary library)).Runs items
      (r, d')) :
    Working format plan library image (withLibrary environment nextLibrary library) items r d' := by
  obtain ⟨making, rest, made, d₁, rfl, hmake, hrest⟩ := Desk.runs_bind_iff.1 run
  obtain ⟨made, rfl, rfl, make⟩ := (Desk.runs_createSession_iff rfl).1 hmake
  cases made with
  | error e =>
    obtain ⟨rfl, rfl, rfl⟩ := Desk.runs_pure_iff.1 hrest
    rw [List.append_nil]
    exact .refused make
  | ok session =>
    obtain ⟨_, afterAdding, _, _, rfl, hadd, hworking⟩ := Desk.runs_bind_iff.1 hrest
    obtain ⟨rfl, rfl⟩ := runs_addSession_iff.1 hadd
    obtain ⟨invoking, ending, result, _, rfl, hinvoke, hending⟩ := Desk.runs_bind_iff.1 hworking
    obtain ⟨session', rfl, invoke⟩ := runs_invoke_iff.1 hinvoke
    cases result with
    | error e =>
      obtain ⟨_, _, _, _, rfl, hdestroy, hdone⟩ := Desk.runs_bind_iff.1 hending
      obtain ⟨rfl, -, rfl⟩ := runs_destroySession_iff.1 hdestroy
      obtain ⟨rfl, rfl, rfl⟩ := Desk.runs_pure_iff.1 hdone
      rw [List.append_nil]
      exact .failed make invoke
    | ok results =>
      obtain ⟨_, _, _, _, rfl, hprint, hdestroying⟩ := Desk.runs_bind_iff.1 hending
      obtain ⟨rfl, rfl⟩ := runs_print_iff.1 hprint
      -- The library is still held for general use when the session ends, so only the end closes it.
      obtain ⟨_, _, _, _, rfl, hdestroy, hunloading⟩ := Desk.runs_bind_iff.1 hdestroying
      obtain ⟨rfl, -, rfl⟩ := runs_destroySession_iff.1 hdestroy
      obtain ⟨_, _, _, _, rfl, hunload, hdone⟩ := Desk.runs_bind_iff.1 hunloading
      obtain ⟨rfl, -, rfl⟩ := runs_unload_iff.1 hunload
      obtain ⟨rfl, rfl, rfl⟩ := Desk.runs_pure_iff.1 hdone
      rw [List.append_nil]
      exact .done make invoke

/-- While the library is loaded, libraries are opened and closed, and that is all. -/
lemma within_of_load {path : Option String} {u : Except BridgeError Unit}
    (load : (Desk.load path { environment := environment }).Runs items (u, d')) :
    ∃ next, ∀ item ∈ items, item.Within (HostOp.Handles 0 next) Notice.IsSearching := by
  obtain ⟨_, -, hload⟩ := Desk.runs_load_iff.1 load
  obtain ⟨run, -⟩ := (Desk.runs_loadWith_of_none_iff rfl).1 hload
  exact ⟨_, (Library.discover_within _ _).of_runs run⟩

/-- **A library that is loaded** was opened once and is open, and it is the only one with all
required symbols that was opened. -/
theorem opened_of_load {path : Option String}
    (load : (Desk.load path { environment := environment }).Runs items (.ok (), d')) :
    ∃ library nextLibrary, d' = withLibrary environment nextLibrary library ∧
      Library.Opened 0 items (some library) := by
  obtain ⟨r, hr, hload⟩ := Desk.runs_load_iff.1 load
  -- A process that has nothing loaded makes a search.
  obtain ⟨run, rfl⟩ := (Desk.runs_loadWith_of_none_iff rfl).1 hload
  cases r with
  | error e => cases hr
  | ok library => exact ⟨library, _, rfl, Library.discover_opened run⟩

/-- **A planned run** goes one of the ways. -/
theorem making_of_runs
    (run : (performPlan format plan { environment := environment }).Runs items (r, d')) :
    Making format plan environment items r d' := by
  rw [performPlan_eq] at run
  obtain ⟨loading, _, loaded, _, rfl, load, hreading⟩ := Desk.runs_bind_iff.1 run
  cases loaded with
  | error e =>
    obtain ⟨rfl, rfl, rfl⟩ := Desk.runs_pure_iff.1 hreading
    rw [List.append_nil]
    exact .unloaded load
  | ok =>
    obtain ⟨_, _, content, _, rfl, hcontent, hworking⟩ := Desk.runs_bind_iff.1 hreading
    obtain ⟨hread, rfl⟩ := Desk.runs_onHost_iff.1 hcontent
    obtain rfl := Program.runs_perform_iff.1 hread
    cases content with
    | error fault =>
      obtain ⟨rfl, rfl, rfl⟩ := Desk.runs_pure_iff.1 hworking
      rw [List.append_nil]
      exact .unreadable load
    | ok image =>
      obtain ⟨library, nextLibrary, rfl, -⟩ := opened_of_load load
      exact .working load (working_of_runs hworking)

/-- **A run** has no plan, or it is made as planned. -/
theorem runs_run_cases {config : Option String} {flags : RunFile}
    (run : (perform format (.run config flags) d).Runs items (r, d')) :
    (∃ e, r = .error e ∧ d' = d ∧ ∀ item ∈ items, item.Within Reads fun _ => False) ∨
      ∃ reading planning making file plan, items = reading ++ (planning ++ making) ∧
        (startingFile config).Runs reading (.ok file) ∧
        (RunPlan.ofRunFile (file.merge flags)).Runs planning (.ok plan) ∧
        (performPlan format plan d).Runs making (r, d') := by
  obtain ⟨reading, rest, file, _, rfl, hstarting, hplanning⟩ := Desk.runs_bind_iff.1 run
  obtain ⟨hfile, rfl⟩ := Desk.runs_onHost_iff.1 hstarting
  have hreading := (startingFile_within config).of_runs hfile
  cases file with
  | error e =>
    obtain ⟨rfl, rfl, rfl⟩ := Desk.runs_pure_iff.1 hplanning
    rw [List.append_nil]
    exact .inl ⟨_, rfl, rfl, hreading⟩
  | ok file =>
    obtain ⟨planning, making, plan, _, rfl, hplanned, hmaking⟩ := Desk.runs_bind_iff.1 hplanning
    obtain ⟨hplan, rfl⟩ := Desk.runs_onHost_iff.1 hplanned
    cases plan with
    | error e =>
      obtain ⟨rfl, rfl, rfl⟩ := Desk.runs_pure_iff.1 hmaking
      rw [List.append_nil]
      exact .inl ⟨_, rfl, rfl, List.forall_mem_append.2
        ⟨hreading, (ofRunFile_within _).of_runs hplan⟩⟩
    | ok plan => exact .inr ⟨reading, planning, making, file, plan, rfl, hfile, hplan, hmaking⟩

end Steps

end Command

end TensorBridge
