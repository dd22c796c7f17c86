import TensorBridge.Proofs.Session.Invocation
import TensorBridge.Proofs.Session.Construction
import TensorBridge.Proofs.Session.Refusal

/-!
# Failures of a runtime that has been opened

Some failures say that the runtime could not be opened at all (`BridgeError.isUnavailable`).  A
session works on a runtime that has been opened, and yet it can fail in this way: when it is made
without any driver to try.  That is the only way.  All other failures of a construction and all
failures of an invocation are reported by the runtime, with a status code, or they are about
arguments and results.

* `Session.Reported`: a reply of the runtime reports the failure.
* `Session.create_failure` and `Session.invoke_failure` tell where the failures come from.
* `Memory.statusCode_of_handle` and `Native.statusCode_of_perform`: what the two runtimes report
  carries a status code.
* `Session.stays_available` puts this together; `Session.unavailable_without_drivers` is a session
  without drivers.
-/

namespace TensorBridge

open Program (Item)

/-- A failure with a status code comes from a runtime that has been opened. -/
lemma BridgeError.isUnavailable_of_statusCode {e : BridgeError} (h : e.statusCode?.isSome = true) :
    e.isUnavailable = false := by
  cases e <;> first | rfl | cases h

namespace Session

variable {description : String} {image : List UInt8} {drivers : List String}
  {inst : Handle .runtimeInstance} {session : Handle .session} {list : Handle .list}
  {entry : String} {inputs : List Tensor} {cs : List (Item Backend)} {e : BridgeError}

/-! ## Where failures come from -/

/-- A reply of the runtime reports the failure. -/
def Reported (e : BridgeError) (trace : List (Item Backend)) : Prop :=
  ∃ op reply, .called op reply ∈ trace ∧ op.failure? reply = some e

lemma Reported.mono {trace trace' : List (Item Backend)} (h : Reported e trace)
    (hsub : trace ⊆ trace') : Reported e trace' := by
  obtain ⟨op, reply, hmem, he⟩ := h
  exact ⟨op, reply, hsub hmem, he⟩

/-- The failure of a session that is made without drivers. -/
def driverless : BridgeError := .unavailable "no device drivers configured"

lemma Selected.failure (h : Selected inst drivers cs (.error e)) :
    Reported e cs ∨ drivers = [] ∧ e = driverless := by
  cases h with
  | @missing refused hdrivers =>
    rcases refused.eq_nil_or_concat with rfl | ⟨refused, last, rfl⟩
    · exact .inr ⟨hdrivers, rfl⟩
    · refine .inl ⟨.createDevice inst last.1, .error last.2, ?_, ?_⟩
      · simp [misses]
      · simp [BackendOp.failure?, errorOf?, lastRefusal]

/-- **A construction that fails** has no module or no driver, or the runtime reports the failure. -/
theorem create_failure (h : (create description image drivers).run.Makes cs (.error e)) :
    Reported e cs ∨ (image = [] ∧ e = .invalidArgument "module" "module image is empty") ∨
      image ≠ [] ∧ drivers = [] ∧ e = driverless := by
  obtain ⟨attempts, releases, hclimb, rfl⟩ := makes_create_error_iff.1 h
  cases hclimb with
  | refused himage => exact .inr (.inl ⟨himage, rfl⟩)
  | noInstance => exact .inl ⟨.createInstance, .error e, by simp, rfl⟩
  | noDevice himage selected =>
    rcases selected.failure with hreported | ⟨hdrivers, rfl⟩
    · exact .inl (hreported.mono fun item hitem => by simp [hitem])
    · exact .inr (.inr ⟨himage, hdrivers, rfl⟩)
  | @noSession inst device => exact .inl ⟨.createSession inst device, .error e, by simp, rfl⟩
  | @noModule _ _ _ session => exact .inl ⟨.appendModule session image, .error e, by simp, rfl⟩

lemma Pushing.failure (h : Pushing session list inputs cs (.error e)) : Reported e cs := by
  cases h with
  | @notCopied given t =>
    exact ⟨.uploadView session (Marshal.nativeDims t.shape) t.elementType.toNative t.data, .error e,
      by simp [copied], rfl⟩
  | @notMoved given t after view =>
    exact ⟨.pushView list view, .error e, by simp [moved], rfl⟩

/-- What is wrong with an output is reported by the runtime, or it shows what the host cannot
hold. -/
lemma failure_of_reading {index : Nat} {output : Option Marshal.Shown}
    (h : Marshal.Reading list index output cs (.error e)) :
    Reported e cs ∨ e.isUnavailable = false := by
  cases h with
  | noView | noType | rank | dimension | length => exact .inr rfl
  | @unread s t _ hcode hrank hdims hlength hbytes =>
    exact .inl ⟨.readView s.view s.byteLength.toNat, s.bytes, by simp [Marshal.Shown.calls],
      errorOf?_eq_some_iff.2 hbytes⟩

lemma failure_of_gathering {outputs : List (Option Marshal.Shown)}
    (h : Marshal.Gathering list outputs cs (.error e)) :
    Reported e cs ∨ e.isUnavailable = false := by
  cases h with
  | tooMany => exact .inr rfl
  | reading _ from_first =>
    cases from_first with
    | stopped _ _ fault =>
      refine (failure_of_reading fault).imp_left fun h => h.mono fun item hitem => ?_
      simp [hitem]

lemma Exchanged.failure {inputList outputList : Handle .list}
    (h : Exchanged session entry inputs inputList outputList cs (.error e)) :
    Reported e cs ∨ e.isUnavailable = false := by
  cases h with
  | notPushed pushing => exact .inl pushing.failure
  | notCalled =>
    exact .inl ⟨.call session entry inputList outputList, .error e, by simp, rfl⟩
  | called _ gathering =>
    refine (failure_of_gathering gathering).imp_left fun h => h.mono fun item hitem => ?_
    simp [hitem]

/-- **An invocation that fails** does so over its arguments or results, or the runtime reports the
failure. -/
theorem invoke_failure {s s' : Session} (h : (s.invoke entry inputs).Makes cs (.error e, s')) :
    Reported e cs ∨ e.isUnavailable = false := by
  obtain ⟨steps, releases, hinvocation, rfl⟩ := exists_invocation h
  cases hinvocation with
  | noEntry | badInput => exact .inr rfl
  | noInputList => exact .inl ⟨.createList inputs.length, .error e, by simp, rfl⟩
  | noOutputList => exact .inl ⟨.createList 4, .error e, by simp, rfl⟩
  | exchanged _ _ used =>
    refine used.failure.imp_left fun h => h.mono fun item hitem => ?_
    simp [hitem]

/-- Without drivers an instance is made and given back, and nothing else. -/
lemma runs_create_driverless_iff {trace : List (Item Backend)} {r : Except BridgeError Session}
    (himage : image ≠ []) :
    (create description image []).run.Runs trace r ↔
      (∃ e, r = .error e ∧ trace = [.called .createInstance (.error e)]) ∨
        ∃ inst, r = .error driverless ∧
          trace = [.called .createInstance (.ok inst), .called (.releaseInstance inst) ()] := by
  have hempty : image.isEmpty = false := by simpa using himage
  simp only [create, hempty, Bool.false_eq_true, if_false]
  constructor
  · intro h
    rcases Action.runs_guarded_iff.1 h with
      ⟨e, rfl, hmake⟩ | ⟨first, second, third, inst, rfl, hmake, hselect, hrelease⟩
    · obtain rfl := Program.runs_perform_iff.1 hmake
      exact .inl ⟨e, rfl, rfl⟩
    · obtain ⟨rfl, rfl⟩ := Program.runs_done_iff.1 hselect
      obtain rfl := Program.runs_perform_iff.1 hmake
      obtain rfl := Program.runs_perform_iff.1 hrelease
      exact .inr ⟨inst, rfl, rfl⟩
  · rintro (⟨e, rfl, rfl⟩ | ⟨inst, rfl, rfl⟩)
    · exact Action.runs_guarded_iff.2 (.inl ⟨e, rfl, Program.runs_perform_iff.2 rfl⟩)
    · refine Action.runs_guarded_iff.2 (.inr ⟨[_], [], [_], inst, rfl, ?_, .done _, ?_⟩)
      · exact Program.runs_perform_iff.2 rfl
      · exact Program.runs_perform_iff.2 rfl

/-! ## Carrying the operations out -/

section Carried

variable {I : Interface} {perform : (op : BackendOp) → Program I op.Reply}
  {Possible : List (Item I) → Prop}

/-- The failures that the operations report when they are carried out have a status code, as long as
the traces are as they can be. -/
def ReportsStatuses (perform : (op : BackendOp) → Program I op.Reply)
    (Possible : List (Item I) → Prop) : Prop :=
  ∀ trace part op reply e, Possible trace → part ⊆ trace → (perform op).Runs part reply →
    op.failure? reply = some e → e.statusCode?.isSome = true

lemma Reported.isUnavailable_eq {outer : List (Item Backend)} {inner : List (Item I)}
    (h : Reported e outer) (hperform : ReportsStatuses perform Possible)
    (hexpands : Program.Expands perform outer inner) (possible : Possible inner) :
    e.isUnavailable = false := by
  obtain ⟨op, reply, hmem, he⟩ := h
  obtain ⟨part, hpart, run⟩ := hexpands.exists_of_mem hmem
  exact BridgeError.isUnavailable_of_statusCode (hperform _ part op reply e possible hpart run he)

/-- Sessions whose operations are carried out by such programs do not fail as if the runtime could
not be opened, as long as the traces are as they can be and there are drivers to try. -/
structure StaysAvailable (perform : (op : BackendOp) → Program I op.Reply)
    (Possible : List (Item I) → Prop) : Prop where
  /-- An attempt to make a session that fails in this way has a module and no drivers. -/
  create : ∀ description image drivers trace e,
    ((Session.create description image drivers).run.expand perform).Runs trace (.error e) →
      Possible trace → e.isUnavailable = true → image ≠ [] ∧ drivers = [] ∧ e = driverless
  /-- Without drivers the attempt makes an instance at most, which is given back. -/
  create_driverless : ∀ description image trace r, image ≠ [] →
    (((Session.create description image []).run.expand perform).Runs trace r ↔
      (∃ e, r = .error e ∧ (perform .createInstance).Runs trace (.error e)) ∨
        ∃ inst first second, r = .error driverless ∧ trace = first ++ second ∧
          (perform .createInstance).Runs first (.ok inst) ∧
          (perform (.releaseInstance inst)).Runs second ())
  /-- An invocation never fails in this way. -/
  invoke : ∀ (s : Session) entry inputs trace e s',
    ((s.invoke entry inputs).expand perform).Runs trace (.error e, s') → Possible trace →
      e.isUnavailable = false

lemma StaysAvailable.of_reportsStatuses (hperform : ReportsStatuses perform Possible) :
    StaysAvailable perform Possible where
  create description image drivers trace e run possible hunavailable := by
    obtain ⟨outer, houter, hexpands⟩ := Program.runs_expand_iff.1 run
    rcases create_failure ⟨outer, houter, rfl⟩ with hreported | ⟨-, rfl⟩ | hdriverless
    · have hreported := hreported.mono (List.filter_subset_self outer)
      rw [hreported.isUnavailable_eq hperform hexpands possible] at hunavailable
      cases hunavailable
    · cases hunavailable
    · exact hdriverless
  create_driverless description image trace r himage := by
    simp only [Program.runs_expand_iff, runs_create_driverless_iff himage]
    constructor
    · rintro ⟨_, ⟨e, rfl, rfl⟩ | ⟨inst, rfl, rfl⟩, hexpands⟩
      · exact .inl ⟨e, rfl, Program.expands_singleton_iff.1 hexpands⟩
      · obtain ⟨first, second, rfl, hmake, hrelease⟩ := Program.expands_called_iff.1 hexpands
        exact .inr ⟨inst, first, second, rfl, rfl, hmake, Program.expands_singleton_iff.1 hrelease⟩
    · rintro (⟨e, rfl, hmake⟩ | ⟨inst, first, second, rfl, rfl, hmake, hrelease⟩)
      · exact ⟨_, .inl ⟨e, rfl, rfl⟩, Program.expands_singleton_iff.2 hmake⟩
      · refine ⟨_, .inr ⟨inst, rfl, rfl⟩, Program.expands_called_iff.2 ?_⟩
        exact ⟨first, second, rfl, hmake, Program.expands_singleton_iff.2 hrelease⟩
  invoke s entry inputs trace e s' run possible := by
    obtain ⟨outer, houter, hexpands⟩ := Program.runs_expand_iff.1 run
    rcases invoke_failure ⟨outer, houter, rfl⟩ with hreported | hother
    · exact (hreported.mono (List.filter_subset_self outer)).isUnavailable_eq hperform hexpands
        possible
    · exact hother

end Carried

end Session

/-! ## The runtime in memory -/

namespace Memory

lemma statusCode_of_createUnless {m : Memory} {event : MemoryEvent} {fault : Option MemoryFault}
    {call : String} {e : BridgeError} (h : (m.createUnless event fault call).1 = .error e) :
    e.statusCode?.isSome = true := by
  unfold createUnless at h
  dsimp only at h
  split_ifs at h
  cases h
  rfl

lemma statusCode_of_evaluate {m : Memory} {entry : String} {inputs : Nat} {e : BridgeError}
    (h : (m.evaluate entry inputs).1 = .error e) : e.statusCode?.isSome = true := by
  unfold evaluate at h
  dsimp only at h
  split_ifs at h
  cases h
  rfl

/-- **The runtime in memory** reports failures with a status code only. -/
theorem statusCode_of_handle {m : Memory} {op : BackendOp} {e : BridgeError}
    (h : op.failure? (handle op m).1 = some e) : e.statusCode?.isSome = true := by
  cases op with
  | createInstance | createSession _ _ =>
    exact statusCode_of_createUnless (error_of_handled (errorOf?_eq_some_iff.1 h))
  | createDevice _ _ | appendModule _ _ | uploadView _ _ _ _ | pushView _ _ | readView _ _ =>
    simp only [BackendOp.failure?, handle, errorOf?_eq_some_iff] at h
    split_ifs at h
    cases h
    rfl
  | call session entry inputs outputs =>
    simp only [BackendOp.failure?, handle, errorOf?_eq_some_iff] at h
    split_ifs at h
    · cases h
      rfl
    · split at h
      · cases h
      · rename_i heval
        cases h
        exact statusCode_of_evaluate (congrArg Prod.fst heval)
  | createList _ | releaseInstance _ | releaseDevice _ | releaseSession _ | releaseList _
  | listLength _ | viewAt _ _ | viewDims _ | viewCode _ | viewByteLength _ => cases h

lemma reportsStatuses (m : Memory) :
    Session.ReportsStatuses (fun op => .perform (I := Backend) op) m.Answers := by
  intro trace part op reply e hanswers hpart run he
  obtain rfl := Program.runs_perform_iff.1 run
  obtain ⟨m', hreply⟩ := Watch.Throughout.exists_of_mem hanswers
    (List.mem_map_of_mem (hpart (List.mem_singleton_self _)))
  obtain rfl : reply = (handle op m').1 := hreply
  exact statusCode_of_handle he

end Memory

/-! ## The native runtime -/

/-- The action fails only with failures that have a status code. -/
def Action.FailsWithStatus {I : Interface} {α : Type} (x : Action I α) : Prop :=
  ∀ trace e, x.run.Runs trace (.error e) → e.statusCode?.isSome = true

namespace Action.FailsWithStatus

variable {I : Interface} {α β : Type} {x : Action I α}

lemma pure (a : α) : (pure a : Action I α).FailsWithStatus := fun _ _ run => by
  cases (runs_pure_iff.1 run).2

lemma throw {e : BridgeError} (h : e.statusCode?.isSome = true) :
    (throw e : Action I α).FailsWithStatus := fun _ _ run => by
  cases (Program.runs_done_iff.1 run).2
  exact h

lemma always (p : Program I α) : (Action.always p).FailsWithStatus := fun _ _ run => by
  obtain ⟨_, he, -⟩ := runs_always_iff.1 run
  cases he

lemma bind (hx : x.FailsWithStatus) {f : α → Action I β} (hf : ∀ a, (f a).FailsWithStatus) :
    (x >>= f).FailsWithStatus := fun _ e run => by
  rcases runs_bind_iff.1 run with ⟨_, he, hfirst⟩ | ⟨_, _, a, _, _, hsecond⟩
  · cases he
    exact hx _ e hfirst
  · exact hf a _ e hsecond

lemma onFailure (hx : x.FailsWithStatus) {release : Program I Unit} :
    (x.onFailure release).FailsWithStatus := fun _ e run => by
  rcases runs_onFailure_iff.1 run with ⟨_, he, _⟩ | ⟨_, _, _, he, _, hfirst, _⟩
  · cases he
  · cases he
    exact hx _ e hfirst

lemma errorOf (hx : x.FailsWithStatus) {trace : List (Item I)} {r : Except BridgeError α}
    {e : BridgeError} (run : x.run.Runs trace r) (he : errorOf? r = some e) :
    e.statusCode?.isSome = true := by
  obtain rfl := errorOf?_eq_some_iff.1 he
  exact hx _ e run

end Action.FailsWithStatus

namespace Native

open TensorBridge.Action (FailsWithStatus)

variable (renders : Bool)

lemma check_failsWithStatus (symbol : String) (status : Option StatusWord) :
    FailsWithStatus (check renders symbol status) := by
  cases status with
  | none => exact .pure ()
  | some word => exact .bind (.always _) fun _ => .bind (.always _) fun _ => .throw rfl

lemma attempt_failsWithStatus (op : NativeOp) (p : Program Native (Option StatusWord)) :
    FailsWithStatus (attempt renders op p) :=
  .bind (.always p) fun _ => check_failsWithStatus _ _ _

lemma obtain_failsWithStatus {symbol : String} {missing : BridgeError}
    {p : Program Native Produced} (h : missing.statusCode?.isSome = true) :
    FailsWithStatus (obtain renders symbol missing p) := by
  refine .bind (.always p) fun produced => .bind (check_failsWithStatus _ _ _) fun _ => ?_
  cases produced.address with
  | none => exact .throw h
  | some address => exact .pure address

lemma createInstance_failsWithStatus : FailsWithStatus (createInstance renders) := by
  refine .bind (.always _) fun _ => .bind (.always _) fun options => ?_
  refine .bind (obtain_failsWithStatus _ rfl) fun inst => .bind (.onFailure ?_) fun _ => .pure _
  refine .bind (.always _) fun vm => ?_
  cases vm with
  | none => exact .throw rfl
  | some vm =>
    exact .bind (attempt_failsWithStatus _ _ _) fun _ => attempt_failsWithStatus _ _ _

lemma appendModule_failsWithStatus (session : Handle .session) (image : List UInt8) :
    FailsWithStatus (appendModule renders session image) := by
  refine .bind (.always _) fun produced => .bind (.always _) fun checked => ?_
  rcases checked with e | _
  · exact .throw rfl
  · cases produced.address with
    | none => exact .throw rfl
    | some address => exact attempt_failsWithStatus _ _ _

lemma pushView_failsWithStatus (list : Handle .list) (view : Handle .view) :
    FailsWithStatus (pushView renders list view) := by
  refine .bind (.always _) fun reference => .bind (.always _) fun pushed => ?_
  obtain ⟨status, address⟩ := pushed
  cases status with
  | none => exact check_failsWithStatus renders _ none
  | some word =>
    cases address with
    | none => exact check_failsWithStatus renders _ (some word)
    | some left => exact .bind (.always _) fun _ => check_failsWithStatus renders _ (some word)

lemma readView_failsWithStatus (view : Handle .view) (length : Nat) :
    FailsWithStatus (readView renders view length) := by
  unfold readView
  split_ifs
  · exact .pure _
  · refine .bind (.always _) fun buffer => ?_
    cases buffer with
    | none => exact .throw rfl
    | some buffer =>
      exact .bind (.always _) fun read => .bind (check_failsWithStatus _ _ _) fun _ => .pure _

/-- **The native runtime** reports failures with a status code only. -/
theorem statusCode_of_perform {op : BackendOp} {trace : List (Item Native)} {reply : op.Reply}
    {e : BridgeError} (run : (perform renders op).Runs trace reply)
    (he : op.failure? reply = some e) : e.statusCode?.isSome = true := by
  cases op with
  | createInstance => exact (createInstance_failsWithStatus renders).errorOf run he
  | createDevice inst driver =>
    exact FailsWithStatus.errorOf
      (.bind (obtain_failsWithStatus renders rfl) fun _ => .pure _) run he
  | createSession inst device =>
    refine FailsWithStatus.errorOf (.bind (.always _) fun _ => .bind (.always _) fun _ => ?_) run he
    exact .bind (obtain_failsWithStatus renders rfl) fun _ => .pure _
  | appendModule session image =>
    exact (appendModule_failsWithStatus renders session image).errorOf run he
  | createList capacity =>
    exact FailsWithStatus.errorOf
      (.bind (obtain_failsWithStatus renders rfl) fun _ => .pure _) run he
  | uploadView session dims code data =>
    refine FailsWithStatus.errorOf (.bind (.always _) fun _ => .bind (.always _) fun _ => ?_) run he
    exact .bind (obtain_failsWithStatus renders rfl) fun _ => .pure _
  | pushView list view => exact (pushView_failsWithStatus renders list view).errorOf run he
  | call session entry inputs outputs =>
    exact (attempt_failsWithStatus renders _ _).errorOf run he
  | readView view length => exact (readView_failsWithStatus renders view length).errorOf run he
  | releaseInstance _ | releaseDevice _ | releaseSession _ | releaseList _ | listLength _
  | viewAt _ _ | viewDims _ | viewCode _ | viewByteLength _ => cases he

end Native

namespace Session

/-- **A runtime that has been opened stays available.**  On the runtime in memory, from any state
on, and on the native runtime, whatever the native functions reply, no session fails as if the
runtime could not be opened, except that one that is made with a module and without drivers does,
once it has an instance. -/
theorem stays_available (m : Memory) (renders : Bool) :
    StaysAvailable (fun op => .perform (I := Backend) op) m.Answers ∧
      StaysAvailable (Native.perform renders) fun _ => True :=
  ⟨.of_reportsStatuses m.reportsStatuses, .of_reportsStatuses fun _ _ _ _ _ _ _ run he =>
    Native.statusCode_of_perform renders run he⟩

/-- Without drivers a session fails as if the runtime could not be opened. -/
theorem unavailable_without_drivers :
    ∃ (trace : List (Item Backend)) (e : BridgeError),
      (create Memory.description [1] []).run.Runs trace (.error e) ∧
        Memory.Answers {} trace ∧ e.isUnavailable = true := by
  let p := (create Memory.description [1] []).run
  have hvalue : (p.run Memory.handle {}).value = .error driverless := by decide
  have hruns := p.runs_transcript Memory.handle {}
  rw [hvalue] at hruns
  exact ⟨_, _, hruns, Memory.answers_transcript p {}, rfl⟩

end Session

end TensorBridge
