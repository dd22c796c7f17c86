import TensorBridge.Proofs.Session.Confinement
import TensorBridge.Proofs.Session.Discipline

/-!
# Construction and teardown

Which calls the construction of a session makes, and which calls its end makes.  Construction tries
one thing after the other until one fails: an instance, the drivers in order up to the first one
that has a device, a native session on that device, and the module.  What has been made so far is
then given back, the newest first, before the failure is returned.

* `Selected` tells the calls in search of a device, and `Climb` those of a whole construction,
  together with the calls that give back what it has made.
* `makes_create_iff`: a construction makes these calls and no others.
* `construction_and_teardown` is the result.  It says of a session that has been built that nothing
  is given back before the session is destroyed, whatever it is invoked with until then.
-/

namespace TensorBridge

open Program (Item)

namespace Session

variable {description : String} {image : List UInt8} {drivers : List String}
  {inst : Handle .runtimeInstance} {cs : List (Item Backend)}

/-! ## The search for a device -/

/-- Drivers were tried and had no device. -/
def misses (inst : Handle .runtimeInstance) (refused : List (String × BridgeError)) :
    List (Item Backend) :=
  refused.map fun r => .called (.createDevice inst r.1) (.error r.2)

/-- The failure that stands if no driver has a device: the last one. -/
def lastRefusal (refused : List (String × BridgeError)) : BridgeError :=
  (refused.getLast?.map Prod.snd).getD (.unavailable "no device drivers configured")

/-- The calls in search of a device, and the result. -/
inductive Selected (inst : Handle .runtimeInstance) (drivers : List String) :
    List (Item Backend) → Except BridgeError (Handle .device × String) → Prop where
  /-- The first drivers have none, and then one has. -/
  | found {refused : List (String × BridgeError)} {driver : String} {rest : List String}
      {device : Handle .device} (hdrivers : drivers = refused.map Prod.fst ++ driver :: rest) :
      Selected inst drivers
        (misses inst refused ++ [.called (.createDevice inst driver) (.ok device)])
        (.ok (device, driver))
  /-- None has a device. -/
  | missing {refused : List (String × BridgeError)} (hdrivers : drivers = refused.map Prod.fst) :
      Selected inst drivers (misses inst refused) (.error (lastRefusal refused))

lemma makes_createDevice_iff {driver : String} {r : Except BridgeError (Handle .device)} :
    (Backend.createDevice inst driver).Makes cs r ↔ cs = [.called (.createDevice inst driver) r] :=
  Program.makes_perform_iff

lemma lastRefusal_cons (r : String × BridgeError) {refused : List (String × BridgeError)}
    (h : refused ≠ []) : lastRefusal (r :: refused) = lastRefusal refused := by
  rw [lastRefusal, lastRefusal, List.getLast?_cons_of_ne_nil h]

lemma selected_cons_iff {driver next : String} {rest : List String}
    {r : Except BridgeError (Handle .device × String)} :
    Selected inst (driver :: next :: rest) cs r ↔
      (∃ device, cs = [.called (.createDevice inst driver) (.ok device)] ∧
          r = .ok (device, driver)) ∨
        ∃ e later, cs = .called (.createDevice inst driver) (.error e) :: later ∧
          Selected inst (next :: rest) later r := by
  constructor
  · intro h
    cases h with
    | @found refused driver' rest' device hdrivers =>
      cases refused with
      | nil =>
        obtain ⟨rfl, rfl⟩ := List.cons_eq_cons.1 hdrivers
        exact .inl ⟨device, rfl, rfl⟩
      | cons first refused =>
        obtain ⟨rfl, hrest⟩ := List.cons_eq_cons.1 hdrivers
        exact .inr ⟨first.2, _, rfl, .found hrest⟩
    | @missing refused hdrivers =>
      cases refused with
      | nil => cases hdrivers
      | cons first refused =>
        obtain ⟨rfl, hrest⟩ := List.cons_eq_cons.1 hdrivers
        have hne : refused ≠ [] := by
          rintro rfl
          cases hrest
        rw [lastRefusal_cons first hne]
        exact .inr ⟨first.2, _, rfl, .missing hrest⟩
  · rintro (⟨device, rfl, rfl⟩ | ⟨e, later, rfl, h⟩)
    · have hdrivers : driver :: next :: rest = ([] : List (String × BridgeError)).map Prod.fst ++
          driver :: next :: rest := rfl
      exact .found hdrivers
    · cases h with
      | @found refused driver' rest' device hdrivers =>
        have hdrivers' : driver :: next :: rest =
            ((driver, e) :: refused).map Prod.fst ++ driver' :: rest' := by
          rw [hdrivers]
          rfl
        exact .found hdrivers'
      | @missing refused hdrivers =>
        have hne : refused ≠ [] := by
          rintro rfl
          cases hdrivers
        have hdrivers' : driver :: next :: rest = ((driver, e) :: refused).map Prod.fst := by
          rw [hdrivers]
          rfl
        rw [← lastRefusal_cons (driver, e) hne]
        exact .missing hdrivers'

lemma selected_nil_iff {r : Except BridgeError (Handle .device × String)} :
    Selected inst [] cs r ↔ cs = [] ∧ r = .error (.unavailable "no device drivers configured") := by
  constructor
  · intro h
    cases h with
    | found hdrivers => simp at hdrivers
    | missing hdrivers =>
      obtain rfl := List.map_eq_nil_iff.1 hdrivers.symm
      exact ⟨rfl, rfl⟩
  · rintro ⟨rfl, rfl⟩
    exact .missing (List.map_nil (f := Prod.fst)).symm

lemma selected_singleton_iff {driver : String} {r : Except BridgeError (Handle .device × String)} :
    Selected inst [driver] cs r ↔
      ∃ reply, cs = [.called (.createDevice inst driver) reply] ∧
        r = reply.map (·, driver) := by
  constructor
  · intro h
    cases h with
    | @found refused driver' rest' device hdrivers =>
      cases refused with
      | nil =>
        obtain ⟨rfl, -⟩ := List.cons_eq_cons.1 hdrivers
        exact ⟨.ok device, rfl, rfl⟩
      | cons first refused =>
        simp at hdrivers
    | @missing refused hdrivers =>
      obtain ⟨⟨_, e⟩, rfl, rfl⟩ := List.map_eq_singleton_iff.1 hdrivers.symm
      exact ⟨.error e, rfl, rfl⟩
  · rintro ⟨e | device, rfl, rfl⟩
    · have hdrivers : [driver] = [(driver, e)].map Prod.fst := rfl
      exact .missing hdrivers
    · have hdrivers : [driver] = ([] : List (String × BridgeError)).map Prod.fst ++ [driver] := rfl
      exact .found hdrivers

/-- **The search for a device** goes through the drivers up to the first one that has one. -/
theorem makes_selectDevice_iff {r : Except BridgeError (Handle .device × String)} :
    (selectDevice inst drivers).run.Makes cs r ↔ Selected inst drivers cs r := by
  induction drivers generalizing cs with
  | nil =>
    rw [selected_nil_iff]
    exact Program.makes_done_iff
  | cons driver rest ih =>
    cases rest with
    | nil =>
      rw [selected_singleton_iff]
      constructor
      · intro h
        rcases Action.makes_bind_iff.1 h with ⟨e, rfl, hfirst⟩ | ⟨_, _, device, rfl, hfirst, hdone⟩
        · exact ⟨.error e, makes_createDevice_iff.1 hfirst, rfl⟩
        · obtain rfl := makes_createDevice_iff.1 hfirst
          obtain ⟨rfl, rfl⟩ := Program.makes_done_iff.1 hdone
          exact ⟨.ok device, rfl, rfl⟩
      · rintro ⟨e | device, rfl, rfl⟩
        · exact Action.makes_bind_iff.2 (.inl ⟨e, rfl, makes_createDevice_iff.2 rfl⟩)
        · refine Action.makes_bind_iff.2 (.inr ⟨[_], [], device, rfl, ?_, ?_⟩)
          · exact makes_createDevice_iff.2 rfl
          · exact Program.makes_done_iff.2 ⟨rfl, rfl⟩
    | cons next rest =>
      rw [selected_cons_iff]
      constructor
      · intro h
        obtain ⟨first, later, reply, rfl, hfirst, hlater⟩ := Program.makes_bind_iff.1 h
        obtain rfl := makes_createDevice_iff.1 hfirst
        cases reply with
        | ok device =>
          obtain ⟨rfl, rfl⟩ := Program.makes_done_iff.1 hlater
          exact .inl ⟨device, rfl, rfl⟩
        | error e =>
          obtain ⟨_, later, _, rfl, hnote, hrest⟩ := Program.makes_bind_iff.1 hlater
          obtain rfl := Program.makes_notify_iff.1 hnote
          exact .inr ⟨e, later, rfl, ih.1 hrest⟩
      · rintro (⟨device, rfl, rfl⟩ | ⟨e, later, rfl, h⟩)
        · refine Program.makes_bind_iff.2 ⟨_, [], .ok device, ?_, makes_createDevice_iff.2 rfl, ?_⟩
          · rfl
          · exact Program.makes_done_iff.2 ⟨rfl, rfl⟩
        · refine Program.makes_bind_iff.2
            ⟨[_], later, .error e, rfl, makes_createDevice_iff.2 rfl, ?_⟩
          exact Program.makes_bind_iff.2
            ⟨[], later, (), rfl, Program.makes_notify_iff.2 rfl, ih.2 h⟩

/-! ## Construction -/

/-- The calls of a construction up to its end or its first failing step, the calls that give back
what has been made, and the result. -/
inductive Climb (image : List UInt8) (drivers : List String) :
    (attempts releases : List (Item Backend)) → Except BridgeError Session → Prop where
  /-- There is no module. -/
  | refused (himage : image = []) :
      Climb image drivers [] [] (.error (.invalidArgument "module" "module image is empty"))
  /-- There is no instance. -/
  | noInstance {e : BridgeError} (himage : image ≠ []) :
      Climb image drivers [.called .createInstance (.error e)] [] (.error e)
  /-- No driver has a device. -/
  | noDevice {inst : Handle .runtimeInstance} {search : List (Item Backend)} {e : BridgeError}
      (himage : image ≠ []) (selected : Selected inst drivers search (.error e)) :
      Climb image drivers (.called .createInstance (.ok inst) :: search)
        [.called (.releaseInstance inst) ()] (.error e)
  /-- There is no native session. -/
  | noSession {inst : Handle .runtimeInstance} {device : Handle .device} {driver : String}
      {search : List (Item Backend)} {e : BridgeError} (himage : image ≠ [])
      (selected : Selected inst drivers search (.ok (device, driver))) :
      Climb image drivers
        (.called .createInstance (.ok inst) :: search ++
          [.called (.createSession inst device) (.error e)])
        [.called (.releaseDevice device) (), .called (.releaseInstance inst) ()] (.error e)
  /-- The module is not accepted. -/
  | noModule {inst : Handle .runtimeInstance} {device : Handle .device} {driver : String}
      {session : Handle .session} {search : List (Item Backend)} {e : BridgeError}
      (himage : image ≠ []) (selected : Selected inst drivers search (.ok (device, driver))) :
      Climb image drivers
        (.called .createInstance (.ok inst) :: search ++
          [.called (.createSession inst device) (.ok session),
            .called (.appendModule session image) (.error e)])
        [.called (.releaseSession session) (), .called (.releaseDevice device) (),
          .called (.releaseInstance inst) ()] (.error e)
  /-- The session is built. -/
  | built {inst : Handle .runtimeInstance} {device : Handle .device} {driver : String}
      {session : Handle .session} {search : List (Item Backend)} (himage : image ≠ [])
      (selected : Selected inst drivers search (.ok (device, driver))) :
      Climb image drivers
        (.called .createInstance (.ok inst) :: search ++
          [.called (.createSession inst device) (.ok session),
            .called (.appendModule session image) (.ok ())])
        [.called (.releaseSession session) (), .called (.releaseDevice device) (),
          .called (.releaseInstance inst) ()]
        (.ok ⟨inst, device, session, driver, .moduleLoaded, 0⟩)

/-- What a construction gives back itself: everything if it fails, and nothing otherwise. -/
def unwinding (releases : List (Item Backend)) : Except BridgeError Session → List (Item Backend)
  | .ok _ => []
  | .error _ => releases

lemma makes_createInstance_iff {r : Except BridgeError (Handle .runtimeInstance)} :
    Backend.createInstance.run.Makes cs r ↔ cs = [.called .createInstance r] :=
  Program.makes_perform_iff

lemma makes_createSession_iff {device : Handle .device}
    {r : Except BridgeError (Handle .session)} :
    (Backend.createSession inst device).run.Makes cs r ↔
      cs = [.called (.createSession inst device) r] :=
  Program.makes_perform_iff

lemma makes_releaseInstance_iff {u : Unit} :
    (Backend.releaseInstance inst).Makes cs u ↔ cs = [.called (.releaseInstance inst) ()] :=
  Program.makes_perform_iff

lemma makes_releaseDevice_iff {device : Handle .device} {u : Unit} :
    (Backend.releaseDevice device).Makes cs u ↔ cs = [.called (.releaseDevice device) ()] :=
  Program.makes_perform_iff

lemma makes_releaseSession_iff {session : Handle .session} {u : Unit} :
    (Backend.releaseSession session).Makes cs u ↔ cs = [.called (.releaseSession session) ()] :=
  Program.makes_perform_iff

section Load

variable {device : Handle .device} {driver : String} {session : Handle .session} {stage : Stage}

lemma makes_loadModule_iff {r : Except BridgeError Session} :
    (loadModule description image inst device driver session stage).run.Makes cs r ↔
      ∃ reply, cs = [.called (.appendModule session image) reply] ∧
        r = reply.map fun _ => ⟨inst, device, session, driver, stage.advance, 0⟩ := by
  unfold loadModule
  constructor
  · intro h
    rcases Action.makes_bind_iff.1 h with ⟨e, rfl, happend⟩ | ⟨_, rest, _, rfl, happend, hrest⟩
    · exact ⟨.error e, Program.makes_perform_iff.1 happend, rfl⟩
    · obtain rfl := Program.makes_perform_iff.1 happend
      rcases Action.makes_bind_iff.1 hrest with ⟨e, -, hnote⟩ | ⟨_, last, _, rfl, hnote, hdone⟩
      · obtain ⟨_, he, -⟩ := Action.makes_always_iff.1 hnote
        cases he
      · obtain ⟨_, -, hnote⟩ := Action.makes_always_iff.1 hnote
        obtain rfl := Program.makes_notify_iff.1 hnote
        obtain ⟨rfl, rfl⟩ := Program.makes_done_iff.1 hdone
        exact ⟨.ok (), rfl, rfl⟩
  · rintro ⟨e | _, rfl, rfl⟩
    · exact Action.makes_bind_iff.2 (.inl ⟨e, rfl, Program.makes_perform_iff.2 rfl⟩)
    · refine Action.makes_bind_iff.2
        (.inr ⟨[_], [], (), rfl, Program.makes_perform_iff.2 rfl, ?_⟩)
      refine Action.makes_bind_iff.2
        (.inr ⟨[], [], (), rfl, ?_, Program.makes_done_iff.2 ⟨rfl, rfl⟩⟩)
      exact Action.makes_always_iff.2 ⟨(), rfl, Program.makes_notify_iff.2 rfl⟩

lemma makes_loadModule_ok_iff {s : Session} :
    (loadModule description image inst device driver session stage).run.Makes cs (.ok s) ↔
      cs = [.called (.appendModule session image) (.ok ())] ∧
        s = ⟨inst, device, session, driver, stage.advance, 0⟩ := by
  rw [makes_loadModule_iff]
  constructor
  · rintro ⟨e | _, rfl, hs⟩
    · cases hs
    · cases hs
      exact ⟨rfl, rfl⟩
  · rintro ⟨rfl, rfl⟩
    exact ⟨.ok (), rfl, rfl⟩

lemma makes_loadModule_error_iff {e : BridgeError} :
    (loadModule description image inst device driver session stage).run.Makes cs (.error e) ↔
      cs = [.called (.appendModule session image) (.error e)] := by
  rw [makes_loadModule_iff]
  constructor
  · rintro ⟨e' | _, rfl, he⟩
    · cases he
      rfl
    · cases he
  · rintro rfl
    exact ⟨.error e, rfl, rfl⟩

end Load

lemma makes_create_nil {r : Except BridgeError Session} :
    (create description [] drivers).run.Makes cs r ↔
      cs = [] ∧ r = .error (.invalidArgument "module" "module image is empty") :=
  Program.makes_done_iff

lemma makes_create_ok_iff {s : Session} :
    (create description image drivers).run.Makes cs (.ok s) ↔
      ∃ releases, Climb image drivers cs releases (.ok s) := by
  constructor
  · intro h
    by_cases himage : image = []
    · subst himage
      obtain ⟨-, hs⟩ := makes_create_nil.1 h
      cases hs
    · unfold create at h
      rw [if_neg (by simpa using himage)] at h
      simp only [Action.makes_guarded_ok_iff, makes_loadModule_ok_iff, makes_createInstance_iff,
        makes_selectDevice_iff, makes_createSession_iff] at h
      obtain ⟨_, _, inst, rfl, rfl, search, _, ⟨device, driver⟩, rfl, selected, _, _, session,
        rfl, rfl, rfl, rfl⟩ := h
      exact ⟨_, .built himage selected⟩
  · rintro ⟨releases, h⟩
    cases h with
    | @built inst device driver session search himage selected =>
      unfold create
      rw [if_neg (by simpa using himage)]
      simp only [Action.makes_guarded_ok_iff, makes_loadModule_ok_iff, makes_createInstance_iff,
        makes_selectDevice_iff, makes_createSession_iff]
      exact ⟨[_], _, inst, rfl, rfl, search, [_, _], (device, driver), rfl, selected, [_], [_],
        session, rfl, rfl, rfl, rfl⟩

lemma makes_create_error_iff {e : BridgeError} :
    (create description image drivers).run.Makes cs (.error e) ↔
      ∃ attempts releases, Climb image drivers attempts releases (.error e) ∧
        cs = attempts ++ releases := by
  constructor
  · intro h
    by_cases himage : image = []
    · obtain rfl := himage
      obtain ⟨rfl, he⟩ := makes_create_nil.1 h
      cases he
      exact ⟨[], [], .refused rfl, rfl⟩
    · unfold create at h
      rw [if_neg (by simpa using himage)] at h
      simp only [Action.makes_guarded_error_iff, makes_loadModule_error_iff,
        makes_createInstance_iff, makes_selectDevice_iff, makes_createSession_iff,
        makes_releaseInstance_iff, makes_releaseDevice_iff, makes_releaseSession_iff] at h
      obtain rfl | ⟨_, _, _, inst, rfl, rfl, hdevice, rfl⟩ := h
      · exact ⟨_, _, .noInstance himage, rfl⟩
      obtain selected | ⟨search, _, _, ⟨device, driver⟩, rfl, selected, hsession, rfl⟩ := hdevice
      · exact ⟨_, _, .noDevice himage selected, rfl⟩
      obtain rfl | ⟨_, _, _, session, rfl, rfl, rfl, rfl⟩ := hsession
      · exact ⟨_, _, .noSession himage selected, by simp⟩
      · have climb := @Climb.noModule _ _ inst device driver session search e himage selected
        exact ⟨_, _, climb, by simp⟩
  · rintro ⟨attempts, releases, h, rfl⟩
    by_cases himage : image = []
    · obtain rfl := himage
      cases h with
      | refused => exact makes_create_nil.2 ⟨rfl, rfl⟩
      | noInstance himage => exact absurd rfl himage
      | noDevice himage => exact absurd rfl himage
      | noSession himage => exact absurd rfl himage
      | noModule himage => exact absurd rfl himage
    unfold create
    rw [if_neg (by simpa using himage)]
    simp only [Action.makes_guarded_error_iff, makes_loadModule_error_iff,
      makes_createInstance_iff, makes_selectDevice_iff, makes_createSession_iff,
      makes_releaseInstance_iff, makes_releaseDevice_iff, makes_releaseSession_iff]
    cases h with
    | refused hempty => exact absurd hempty himage
    | noInstance => exact .inl rfl
    | @noDevice inst search e _ selected =>
      exact .inr ⟨[_], search, [_], inst, rfl, rfl, .inl selected, rfl⟩
    | @noSession inst device driver search e _ selected =>
      refine .inr ⟨[_], search ++ ([_] ++ [_]), [_], inst, ?_, rfl, .inr ⟨search, [_], [_],
        (device, driver), rfl, selected, .inl rfl, rfl⟩, rfl⟩
      simp
    | @noModule inst device driver session search e _ selected =>
      refine .inr ⟨[_], search ++ (([_] ++ ([_] ++ [_])) ++ [_]), [_], inst, ?_, rfl,
        .inr ⟨search, [_] ++ ([_] ++ [_]), [_], (device, driver), rfl, selected,
          .inr ⟨[_], [_], [_], session, rfl, rfl, rfl, rfl⟩, rfl⟩, rfl⟩
      simp

/-- **A construction** goes on to its first failing step, and if there is one, gives back what has
been made until then. -/
theorem makes_create_iff {r : Except BridgeError Session} :
    (create description image drivers).run.Makes cs r ↔
      ∃ attempts releases, Climb image drivers attempts releases r ∧
        cs = attempts ++ unwinding releases r := by
  cases r with
  | ok s =>
    rw [makes_create_ok_iff]
    constructor
    · rintro ⟨releases, h⟩
      exact ⟨cs, releases, h, (List.append_nil cs).symm⟩
    · rintro ⟨attempts, releases, h, rfl⟩
      rw [unwinding, List.append_nil]
      exact ⟨releases, h⟩
  | error e => exact makes_create_error_iff

/-! ## Until the end -/

/-- From a session to the session after any number of invocations, with all that happened. -/
inductive Invoked (s : Session) : List (Item Backend) → Session → Prop where
  /-- It was not invoked. -/
  | never : Invoked s [] s
  /-- It was invoked once more. -/
  | again {s' s'' : Session} {trace next : List (Item Backend)} {entry : String}
      {inputs : List Tensor} {result : Except BridgeError (List Tensor)}
      (h : Invoked s trace s') (run : (s'.invoke entry inputs).Runs next (result, s'')) :
      Invoked s (trace ++ next) s''

lemma exists_invocations_of_runs {s s' : Session} {trace : List (Item Backend)} {entry : String}
    {inputs : List Tensor} {result : Except BridgeError (List Tensor)}
    (run : (s.invoke entry inputs).Runs trace (result, s')) :
    ∃ n, s' = { s with invocations := n } := by
  unfold invoke at run
  split at run
  · obtain ⟨-, h⟩ := Program.runs_done_iff.1 run
    cases h
    exact ⟨s.invocations, rfl⟩
  · obtain ⟨_, _, r, -, -, hdone⟩ := Program.runs_bind_iff.1 run
    cases r with
    | ok results =>
      obtain ⟨-, h⟩ := Program.runs_done_iff.1 hdone
      cases h
      exact ⟨s.invocations + 1, rfl⟩
    | error e =>
      obtain ⟨-, h⟩ := Program.runs_done_iff.1 hdone
      cases h
      exact ⟨s.invocations, rfl⟩

/-- Invocations change nothing about a session but their number. -/
lemma Invoked.exists_invocations {s s' : Session} {trace : List (Item Backend)}
    (h : Invoked s trace s') : ∃ n, s' = { s with invocations := n } := by
  induction h with
  | never => exact ⟨s.invocations, rfl⟩
  | again _ run ih =>
    obtain ⟨n, rfl⟩ := ih
    obtain ⟨k, rfl⟩ := exists_invocations_of_runs run
    exact ⟨k, rfl⟩

lemma Invoked.spares {s s' : Session} {trace : List (Item Backend)} (h : Invoked s trace s')
    {op : BackendOp} {reply : op.Reply} (hmem : .called op reply ∈ trace) : op.Spares := by
  induction h with
  | never => cases hmem
  | again _ run ih =>
    rcases List.mem_append.1 hmem with hmem | hmem
    · exact ih hmem
    · exact (invoke_within _ _ _).confined.of_runs run hmem

/-- The calls that give back a session, the newest first. -/
def farewell (s : Session) : List (Item Backend) :=
  [.called (.releaseSession s.session) (), .called (.releaseDevice s.device) (),
    .called (.releaseInstance s.inst) ()]

lemma makes_destroy_iff {s : Session} : s.destroy.Makes cs () ↔ cs = s.farewell := by
  unfold destroy
  simp only [Program.makes_bind_iff, makes_releaseSession_iff, makes_releaseDevice_iff,
    makes_releaseInstance_iff]
  constructor
  · rintro ⟨_, _, _, rfl, rfl, _, _, _, rfl, rfl, rfl⟩
    rfl
  · rintro rfl
    exact ⟨[_], [_, _], (), rfl, rfl, [_], [_], (), rfl, rfl, rfl⟩

/-- What a construction would have to give back is what the session that it built is made of. -/
lemma Climb.built_eq {attempts releases : List (Item Backend)} {s : Session}
    (h : Climb image drivers attempts releases (.ok s)) :
    s.stage = .moduleLoaded ∧ s.farewell = releases := by
  cases h
  exact ⟨rfl, rfl⟩

/-- **Construction and teardown.**  The calls of a construction go up to its first failing step; if
there is one, what has been made is given back, the newest first, and the failure of that step is
returned.  Otherwise just this is given back when the session is destroyed and not before, whatever
it is invoked with, and until then its module stays loaded. -/
theorem construction_and_teardown (description : String) (image : List UInt8)
    (drivers : List String) :
    (∀ cs r, (create description image drivers).run.Makes cs r ↔
      ∃ attempts releases, Climb image drivers attempts releases r ∧
        cs = attempts ++ unwinding releases r) ∧
    ∀ attempts releases s, Climb image drivers attempts releases (.ok s) →
      ∀ trace s', Invoked s trace s' →
        s'.stage = .moduleLoaded ∧
        (∀ op reply, .called op reply ∈ trace → op.isLifecycle = false) ∧
        ∀ cs, s'.destroy.Makes cs () ↔ cs = releases := by
  refine ⟨fun cs r => makes_create_iff, ?_⟩
  intro attempts releases s climb trace s' invoked
  obtain ⟨hstage, hreleases⟩ := climb.built_eq
  obtain ⟨n, rfl⟩ := invoked.exists_invocations
  refine ⟨hstage, fun op reply hmem => invoked.spares hmem, fun cs => ?_⟩
  rw [makes_destroy_iff, ← hreleases]
  rfl

/-- The second driver has a device; the session fails once and is destroyed. -/
theorem construction_and_teardown_sample :
    (create "runtime" [7] ["vulkan", "local-sync"]).run.Makes (Program.calls sampleCreation)
        (.ok sampleSession) ∧
      sampleSession.stage = .moduleLoaded ∧
      (∀ op reply, .called op reply ∈ sampleInvocation → op.isLifecycle = false) ∧
      ∀ cs, sampleSession.destroy.Makes cs () ↔ cs = sampleSession.farewell := by
  have selected : Selected ⟨1⟩ ["vulkan", "local-sync"]
      [answered (.createDevice ⟨1⟩ "vulkan") (.error (.unavailable "no device")),
        answered (.createDevice ⟨1⟩ "local-sync") (.ok ⟨2⟩)] (.ok (⟨2⟩, "local-sync")) :=
    @Selected.found _ _ [("vulkan", .unavailable "no device")] _ [] _ rfl
  have himage : [(7 : UInt8)] ≠ [] := by decide
  have climb : Climb [7] ["vulkan", "local-sync"] (Program.calls sampleCreation)
      sampleSession.farewell (.ok sampleSession) :=
    @Climb.built _ _ ⟨1⟩ ⟨2⟩ "local-sync" ⟨3⟩ _ himage selected
  have run : (sampleSession.invoke "main" []).Runs sampleInvocation
      (.error (.unavailable "no list"), sampleSession) := by decide
  have invoked : Invoked sampleSession sampleInvocation sampleSession := .again .never run
  obtain ⟨hmakes, hrest⟩ :=
    construction_and_teardown "runtime" [7] ["vulkan", "local-sync"]
  refine ⟨(hmakes _ _).2 ⟨_, _, climb, (List.append_nil _).symm⟩, ?_⟩
  exact hrest _ _ sampleSession climb sampleInvocation sampleSession invoked

end Session

end TensorBridge
