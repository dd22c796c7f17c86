import TensorBridge.Proofs.Session.Construction

/-!
# Falling back to another driver

What the search for a device does at which position of the list of drivers, the notices included.
Every driver is tried in its turn until one has a device; a driver that has none is told about just
if there is another one behind it.

* `Session.Searched` tells what happens in a search by the positions of the list, a position for
  every failure.
* `Session.runs_selectDevice_iff`: a search goes in these ways and no others.
* `Session.driver_fallback` puts the search into the construction of a session: of all that happens
  there, the attempts and the notices about them are those of one search, and without a device the
  instance is all that was there to give back.
-/

namespace TensorBridge

open Program (Item)

/-- Whether something belongs to a search for a device: an attempt, or the notice that it failed. -/
def Program.Item.isSearch : Item Backend → Bool
  | .called (.createDevice ..) _ => true
  | .noted (.driverUnavailable ..) => true
  | _ => false

namespace Session

variable {description : String} {image : List UInt8} {drivers : List String}
  {inst : Handle .runtimeInstance} {trace : List (Item Backend)}

/-! ## The search by positions -/

/-- The driver at a position has no device.  If there is a driver at the next position, the failure
is told. -/
def miss (inst : Handle .runtimeInstance) (drivers : List String) (e : BridgeError)
    (position : Nat) : List (Item Backend) :=
  match drivers[position]?, drivers[position + 1]? with
  | some driver, some next =>
    [.called (.createDevice inst driver) (.error e), .noted (.driverUnavailable driver next e)]
  | some driver, none => [.called (.createDevice inst driver) (.error e)]
  | none, _ => []

/-- The drivers at the first positions have no device, each for an error of its own. -/
def missAll (inst : Handle .runtimeInstance) (drivers : List String) (errors : List BridgeError) :
    List (Item Backend) :=
  errors.zipIdx.flatMap fun (e, position) => miss inst drivers e position

/-- What happens in a search for a device, and its result. -/
inductive Searched (inst : Handle .runtimeInstance) (drivers : List String) :
    List (Item Backend) → Except BridgeError (Handle .device × String) → Prop where
  /-- The drivers in front of a position have no device, and the driver there has one. -/
  | found {errors : List BridgeError} {driver : String} {device : Handle .device}
      (hdriver : drivers[errors.length]? = some driver) :
      Searched inst drivers
        (missAll inst drivers errors ++ [.called (.createDevice inst driver) (.ok device)])
        (.ok (device, driver))
  /-- No driver has a device.  The last error stands, or the one for an empty list. -/
  | exhausted {errors : List BridgeError} (hlength : errors.length = drivers.length) :
      Searched inst drivers (missAll inst drivers errors)
        (.error (errors.getLast?.getD (.unavailable "no device drivers configured")))

lemma missAll_cons {driver : String} {rest : List String} {e : BridgeError}
    {errors : List BridgeError} :
    missAll inst (driver :: rest) (e :: errors) =
      miss inst (driver :: rest) e 0 ++ missAll inst rest errors := by
  rw [missAll, List.zipIdx_cons, List.flatMap_cons, List.zipIdx_succ, List.flatMap_map]
  rfl

/-- The last error is that of the driver at the last position. -/
lemma lastError_cons {e none : BridgeError} {errors : List BridgeError} {rest : List String}
    (hlength : errors.length = rest.length) :
    (e :: errors).getLast?.getD none = if rest = [] then e else errors.getLast?.getD none := by
  cases errors with
  | nil => rw [if_pos (List.length_eq_zero_iff.1 hlength.symm)]; rfl
  | cons second errors =>
    rw [List.getLast?_cons_cons, if_neg (List.ne_nil_of_length_eq_add_one hlength.symm)]

lemma searched_nil_iff {r : Except BridgeError (Handle .device × String)} :
    Searched inst [] trace r ↔
      trace = [] ∧ r = .error (.unavailable "no device drivers configured") := by
  constructor
  · intro h
    cases h with
    | found hdriver => cases hdriver
    | exhausted hlength =>
      obtain rfl := List.length_eq_zero_iff.1 hlength
      exact ⟨rfl, rfl⟩
  · rintro ⟨rfl, rfl⟩
    exact @Searched.exhausted _ _ [] rfl

/-- The first driver has a device, or it has none and the search goes on behind it. -/
lemma searched_cons_iff {driver : String} {rest : List String}
    {r : Except BridgeError (Handle .device × String)} :
    Searched inst (driver :: rest) trace r ↔
      (∃ device, trace = [.called (.createDevice inst driver) (.ok device)] ∧
          r = .ok (device, driver)) ∨
        ∃ e later r', trace = miss inst (driver :: rest) e 0 ++ later ∧
          Searched inst rest later r' ∧ r = if rest = [] then .error e else r' := by
  constructor
  · intro h
    cases h with
    | @found errors driver' device hdriver =>
      cases errors with
      | nil =>
        cases hdriver
        exact .inl ⟨device, rfl, rfl⟩
      | cons e errors =>
        have hrest : rest ≠ [] := by
          rintro rfl
          cases hdriver
        refine .inr ⟨e, _, _, ?_, .found hdriver, (if_neg hrest).symm⟩
        rw [missAll_cons, List.append_assoc]
    | @exhausted errors hlength =>
      obtain ⟨e, errors, rfl⟩ := List.exists_cons_of_length_eq_add_one hlength
      have hrest : errors.length = rest.length := Nat.succ.inj hlength
      refine .inr ⟨e, _, _, missAll_cons, .exhausted hrest, ?_⟩
      rw [lastError_cons hrest, apply_ite Except.error]
  · rintro (⟨device, rfl, rfl⟩ | ⟨e, later, r', rfl, h, rfl⟩)
    · exact @Searched.found _ _ [] _ device rfl
    · cases h with
      | @found errors driver' device hdriver =>
        have hrest : rest ≠ [] := by
          rintro rfl
          cases hdriver
        rw [if_neg hrest, ← List.append_assoc, ← missAll_cons]
        exact @Searched.found _ _ (e :: errors) _ _ hdriver
      | @exhausted errors hlength =>
        have hlength' : (e :: errors).length = (driver :: rest).length := congrArg Nat.succ hlength
        rw [← missAll_cons, ← apply_ite Except.error, ← lastError_cons hlength]
        exact .exhausted hlength'

/-- The error of the last driver is that of the search, and nothing is told of it. -/
lemma runs_selectDevice_last {driver : String} {r : Except BridgeError (Handle .device × String)} :
    (selectDevice inst [driver]).run.Runs trace r ↔
      (∃ device, trace = [.called (.createDevice inst driver) (.ok device)] ∧
          r = .ok (device, driver)) ∨
        ∃ e, trace = [.called (.createDevice inst driver) (.error e)] ∧ r = .error e := by
  constructor
  · intro h
    rcases Action.runs_bind_iff.1 h with ⟨e, rfl, hfirst⟩ | ⟨_, _, device, rfl, hfirst, hdone⟩
    · obtain rfl := Program.runs_perform_iff.1 hfirst
      exact .inr ⟨e, rfl, rfl⟩
    · obtain rfl := Program.runs_perform_iff.1 hfirst
      obtain ⟨rfl, rfl⟩ := Program.runs_done_iff.1 hdone
      exact .inl ⟨device, rfl, rfl⟩
  · rintro (⟨device, rfl, rfl⟩ | ⟨e, rfl, rfl⟩)
    · refine Action.runs_bind_iff.2 (.inr ⟨[_], [], device, rfl, ?_, ?_⟩)
      · exact Program.runs_perform_iff.2 rfl
      · exact Program.runs_done_iff.2 ⟨rfl, rfl⟩
    · exact Action.runs_bind_iff.2 (.inl ⟨e, rfl, Program.runs_perform_iff.2 rfl⟩)

/-- The error of any other driver is told, with the driver to come, and the search goes on there. -/
lemma runs_selectDevice_next {driver next : String} {rest : List String}
    {r : Except BridgeError (Handle .device × String)} :
    (selectDevice inst (driver :: next :: rest)).run.Runs trace r ↔
      (∃ device, trace = [.called (.createDevice inst driver) (.ok device)] ∧
          r = .ok (device, driver)) ∨
        ∃ e later, trace = .called (.createDevice inst driver) (.error e) ::
            .noted (.driverUnavailable driver next e) :: later ∧
          (selectDevice inst (next :: rest)).run.Runs later r := by
  constructor
  · intro h
    obtain ⟨first, later, reply, rfl, hfirst, hlater⟩ := Program.runs_bind_iff.1 h
    obtain rfl := Program.runs_perform_iff.1 hfirst
    cases reply with
    | ok device =>
      obtain ⟨rfl, rfl⟩ := Program.runs_done_iff.1 hlater
      exact .inl ⟨device, rfl, rfl⟩
    | error e =>
      obtain ⟨_, later, _, rfl, hnote, hrest⟩ := Program.runs_bind_iff.1 hlater
      obtain rfl := Program.runs_notify_iff.1 hnote
      exact .inr ⟨e, later, rfl, hrest⟩
  · rintro (⟨device, rfl, rfl⟩ | ⟨e, later, rfl, h⟩)
    · refine Program.runs_bind_iff.2 ⟨[_], [], .ok device, rfl, ?_, ?_⟩
      · exact Program.runs_perform_iff.2 rfl
      · exact Program.runs_done_iff.2 ⟨rfl, rfl⟩
    · refine Program.runs_bind_iff.2 ⟨[_], _ :: later, .error e, rfl, ?_, ?_⟩
      · exact Program.runs_perform_iff.2 rfl
      · exact Program.runs_bind_iff.2 ⟨[_], later, (), rfl, Program.runs_notify_iff.2 rfl, h⟩

/-- **The search for a device**, with all that it tells. -/
theorem runs_selectDevice_iff {r : Except BridgeError (Handle .device × String)} :
    (selectDevice inst drivers).run.Runs trace r ↔ Searched inst drivers trace r := by
  induction drivers generalizing trace r with
  | nil =>
    rw [searched_nil_iff]
    exact Program.runs_done_iff
  | cons driver rest ih =>
    rw [searched_cons_iff]
    cases rest with
    | nil =>
      refine runs_selectDevice_last.trans (or_congr_right ?_)
      simp only [searched_nil_iff, if_pos]
      constructor
      · rintro ⟨e, rfl, rfl⟩
        exact ⟨e, [], _, rfl, ⟨rfl, rfl⟩, rfl⟩
      · rintro ⟨e, _, _, rfl, ⟨rfl, rfl⟩, rfl⟩
        exact ⟨e, rfl, rfl⟩
    | cons next rest =>
      refine runs_selectDevice_next.trans (or_congr_right ?_)
      simp only [ih, if_neg (List.cons_ne_nil next rest)]
      constructor
      · rintro ⟨e, later, rfl, h⟩
        exact ⟨e, later, r, rfl, h, rfl⟩
      · rintro ⟨e, later, r', rfl, h, rfl⟩
        exact ⟨e, later, rfl, h⟩

/-! ## What belongs to a search -/

/-- An attempt without success belongs to the search, and hands out and gives back nothing. -/
lemma mem_miss {e : BridgeError} {position : Nat} {item : Item Backend}
    (h : item ∈ miss inst drivers e position) :
    item.isSearch = true ∧ item.obtains? = none ∧ item.givesBack? = none := by
  unfold miss at h
  split at h
  · simp only [List.mem_cons, List.not_mem_nil, or_false] at h
    rcases h with rfl | rfl <;> exact ⟨rfl, rfl, rfl⟩
  · obtain rfl := List.mem_singleton.1 h
    exact ⟨rfl, rfl, rfl⟩
  · cases h

lemma mem_missAll {errors : List BridgeError} {item : Item Backend}
    (h : item ∈ missAll inst drivers errors) :
    item.isSearch = true ∧ item.obtains? = none ∧ item.givesBack? = none := by
  obtain ⟨⟨e, position⟩, -, hitem⟩ := List.mem_flatMap.1 h
  exact mem_miss hitem

/-- A search is all search. -/
lemma Searched.filter_eq {found : Except BridgeError (Handle .device × String)}
    (h : Searched inst drivers trace found) : trace.filter Item.isSearch = trace := by
  refine List.filter_eq_self.2 fun item hitem => ?_
  cases h with
  | found hdriver =>
    rcases List.mem_append.1 hitem with hmiss | hlast
    · exact (mem_missAll hmiss).1
    · obtain rfl := List.mem_singleton.1 hlast
      rfl
  | exhausted hlength => exact (mem_missAll hitem).1

/-- A search that finds no device is handed nothing, and gives nothing back. -/
lemma Searched.handles_eq_nil {e : BridgeError} (h : Searched inst drivers trace (.error e)) :
    trace.filterMap Item.obtains? = [] ∧ trace.filterMap Item.givesBack? = [] := by
  cases h with
  | exhausted hlength =>
    exact ⟨List.filterMap_eq_nil_iff.2 fun item hitem => (mem_missAll hitem).2.1,
      List.filterMap_eq_nil_iff.2 fun item hitem => (mem_missAll hitem).2.2⟩

/-! ## After the search -/

/-- The program has nothing to do with a search. -/
def Searchless {α : Type} (p : Program Backend α) : Prop :=
  ∀ trace a, p.Runs trace a → trace.filter Item.isSearch = []

lemma searchless_perform {op : BackendOp}
    (hop : ∀ reply, Item.isSearch (.called op reply) = false) :
    Searchless (Program.perform (I := Backend) op) := by
  intro trace reply h
  obtain rfl := Program.runs_perform_iff.1 h
  rw [List.filter_singleton, hop]
  rfl

/-- The action is done with the search: the sessions that it makes are on a device of the driver. -/
def FitsOut (driver : String) (x : Action Backend Session) : Prop :=
  ∀ trace r, x.run.Runs trace r →
    trace.filter Item.isSearch = [] ∧ ∀ s, r = .ok s → s.driver = driver

namespace FitsOut

variable {α : Type} {driver : String}

lemma pure {s : Session} (h : s.driver = driver) : FitsOut driver (pure s) := by
  intro trace r run
  obtain ⟨rfl, rfl⟩ := Action.runs_pure_iff.1 run
  exact ⟨rfl, fun s' hs => by cases hs; exact h⟩

lemma tell {n : Notice} (hn : Item.isSearch (.noted n) = false) {f : Unit → Action Backend Session}
    (hf : FitsOut driver (f ())) : FitsOut driver (.always (.notify n) >>= f) := by
  intro trace r run
  obtain ⟨later, rfl, hlater⟩ := Action.runs_tell_iff.1 run
  rw [List.filter_cons_of_neg (by simp [hn])]
  exact hf later r hlater

lemma bind {x : Action Backend α} (hx : Searchless x.run) {f : α → Action Backend Session}
    (hf : ∀ a, FitsOut driver (f a)) : FitsOut driver (x >>= f) := by
  intro trace r run
  rcases Action.runs_bind_iff.1 run with ⟨e, rfl, hfirst⟩ | ⟨_, _, a, rfl, hfirst, hsecond⟩
  · exact ⟨hx _ _ hfirst, fun s hs => by cases hs⟩
  · obtain ⟨hlater, hdriver⟩ := hf a _ _ hsecond
    rw [List.filter_append, hx _ _ hfirst, hlater]
    exact ⟨rfl, hdriver⟩

lemma onFailure {x : Action Backend Session} (hx : FitsOut driver x)
    {release : Program Backend Unit} (hrelease : Searchless release) :
    FitsOut driver (x.onFailure release) := by
  intro trace r run
  rcases Action.runs_onFailure_iff.1 run with ⟨s, rfl, hfirst⟩ | ⟨e, _, _, rfl, rfl, hfirst, hlast⟩
  · exact hx _ _ hfirst
  · rw [List.filter_append, (hx _ _ hfirst).1, hrelease _ _ hlast]
    exact ⟨rfl, fun s hs => by cases hs⟩

end FitsOut

lemma loadModule_fitsOut {device : Handle .device} {driver : String} {session : Handle .session}
    {stage : Stage} :
    FitsOut driver (loadModule description image inst device driver session stage) := by
  have happend : Searchless (Backend.appendModule session image).run :=
    searchless_perform fun _ => rfl
  exact .bind happend fun _ => .tell rfl (.pure rfl)

lemma fitOut_fitsOut {device : Handle .device} {driver : String} {stage : Stage} :
    FitsOut driver ((Backend.createSession inst device >>= fun session =>
      (loadModule description image inst device driver session stage).onFailure
        (Backend.releaseSession session)).onFailure (Backend.releaseDevice device)) := by
  have hsession : Searchless (Backend.createSession inst device).run :=
    searchless_perform fun _ => rfl
  have hreleaseSession (session : Handle .session) : Searchless (Backend.releaseSession session) :=
    searchless_perform fun _ => rfl
  have hreleaseDevice : Searchless (Backend.releaseDevice device) :=
    searchless_perform fun _ => rfl
  exact .onFailure (.bind hsession fun session =>
    .onFailure loadModule_fitsOut (hreleaseSession session)) hreleaseDevice

/-! ## The search in a construction -/

lemma runs_create (himage : image ≠ []) {r : Except BridgeError Session}
    (h : (create description image drivers).run.Runs trace r) :
    (∃ e, trace = [.called .createInstance (.error e)] ∧ r = .error e) ∨
      ∃ inst search found later, trace = .called .createInstance (.ok inst) :: (search ++ later) ∧
        Searched inst drivers search found ∧ later.filter Item.isSearch = [] ∧
        (∀ device driver, found = .ok (device, driver) → ∀ s, r = .ok s → s.driver = driver) ∧
        ∀ e, found = .error e → r = .error e ∧ later = [.called (.releaseInstance inst) ()] := by
  unfold create at h
  rw [if_neg (by simpa using himage)] at h
  rcases Action.runs_guarded_iff.1 h with
    ⟨e, rfl, hinst⟩ | ⟨_, second, third, inst, rfl, hinst, hsecond, hrelease⟩
  · exact .inl ⟨e, Program.runs_perform_iff.1 hinst, rfl⟩
  obtain rfl := Program.runs_perform_iff.1 hinst
  refine .inr ⟨inst, ?_⟩
  rcases Action.runs_bind_iff.1 hsecond with
    ⟨e, rfl, hsearch⟩ | ⟨search, rest, ⟨device, driver⟩, rfl, hsearch, hrest⟩
  -- Without a device only the instance is given back.
  · obtain rfl := Program.runs_perform_iff.1 hrelease
    refine ⟨second, .error e, _, rfl, runs_selectDevice_iff.1 hsearch, rfl, ?_, ?_⟩
    · intro _ _ hfound
      cases hfound
    · rintro _ ⟨⟩
      exact ⟨rfl, rfl⟩
  · obtain ⟨hsearchless, hdriver⟩ := fitOut_fitsOut rest r hrest
    have hthird : third.filter Item.isSearch = [] := by
      cases r with
      | ok s => rw [hrelease]; rfl
      | error e => exact searchless_perform (fun _ => rfl) _ _ hrelease
    refine ⟨search, .ok (device, driver), rest ++ third, ?_, runs_selectDevice_iff.1 hsearch, ?_,
      ?_, ?_⟩
    · rw [List.append_assoc]
      rfl
    · rw [List.filter_append, hsearchless, hthird]
      rfl
    · rintro _ _ ⟨⟩
      exact hdriver
    · intro _ hfound
      cases hfound

/-- **Falling back to another driver.**  A search tries the drivers by their positions up to the
first one that has a device.  What a construction shows of attempts and of notices about them is one
search, behind the creation of its instance; the session that comes out of it has the driver of the
device for as long as it lives.  If no driver has a device, the error of the search is that of the
construction, and the instance is all that was handed out and all that is given back. -/
theorem driver_fallback (description : String) (image : List UInt8) (drivers : List String) :
    (∀ inst trace found,
      (selectDevice inst drivers).run.Runs trace found ↔ Searched inst drivers trace found) ∧
    ∀ trace r, image ≠ [] → (create description image drivers).run.Runs trace r →
      (∃ e, trace = [.called .createInstance (.error e)] ∧ r = .error e) ∨
      ∃ inst search found later, trace = .called .createInstance (.ok inst) :: (search ++ later) ∧
        trace.filter Item.isSearch = search ∧ Searched inst drivers search found ∧
        (∀ device driver, found = .ok (device, driver) → ∀ s, r = .ok s →
          ∀ more s', Invoked s more s' → s'.driver = driver) ∧
        ∀ e, found = .error e →
          r = .error e ∧ later = [.called (.releaseInstance inst) ()] ∧
          trace.filterMap Item.obtains? = [inst.any] ∧
          trace.filterMap Item.givesBack? = [inst.any] := by
  refine ⟨fun inst trace found => runs_selectDevice_iff, fun trace r himage run => ?_⟩
  obtain h | ⟨inst, search, found, later, rfl, searched, hlater, hdriver, hmissing⟩ :=
    runs_create himage run
  · exact .inl h
  refine .inr ⟨inst, search, found, later, rfl, ?_, searched, ?_, ?_⟩
  · change (search ++ later).filter Item.isSearch = search
    rw [List.filter_append, searched.filter_eq, hlater, List.append_nil]
  · intro device driver hfound s hs more s' invoked
    obtain ⟨n, rfl⟩ := invoked.exists_invocations
    exact hdriver device driver hfound s hs
  · rintro e rfl
    obtain ⟨rfl, rfl⟩ := hmissing e rfl
    obtain ⟨hobtains, hgivesBack⟩ := searched.handles_eq_nil
    refine ⟨rfl, rfl, ?_, ?_⟩
    · rw [← List.singleton_append, List.filterMap_append, List.filterMap_append, hobtains]
      rfl
    · rw [← List.singleton_append, List.filterMap_append, List.filterMap_append, hgivesBack]
      rfl

/-- One driver is named twice and has no device either time. -/
def sampleRefusal : List (Item Backend) :=
  [answered .createInstance (.ok ⟨1⟩),
    answered (.createDevice ⟨1⟩ "vulkan") (.error (.unavailable "busy")),
    .noted (.driverUnavailable "vulkan" "vulkan" (.unavailable "busy")),
    answered (.createDevice ⟨1⟩ "vulkan") (.error (.unavailable "gone")),
    answered (.releaseInstance ⟨1⟩) ()]

theorem driver_fallback_twice :
    [(7 : UInt8)] ≠ [] ∧
      (create "runtime" [7] ["vulkan", "vulkan"]).run.Runs sampleRefusal
        (.error (.unavailable "gone")) ∧
      Searched ⟨1⟩ ["vulkan", "vulkan"] (sampleRefusal.filter Item.isSearch)
        (.error (.unavailable "gone")) ∧
      sampleRefusal.filterMap Item.obtains? = [(⟨1⟩ : Handle .runtimeInstance).any] ∧
      sampleRefusal.filterMap Item.givesBack? = [(⟨1⟩ : Handle .runtimeInstance).any] := by
  have himage : [(7 : UInt8)] ≠ [] := by decide
  have run : (create "runtime" [7] ["vulkan", "vulkan"]).run.Runs sampleRefusal
      (.error (.unavailable "gone")) := by decide
  have search : (selectDevice ⟨1⟩ ["vulkan", "vulkan"]).run.Runs
      (sampleRefusal.filter Item.isSearch) (.error (.unavailable "gone")) := by decide
  obtain ⟨hsearches, hruns⟩ := driver_fallback "runtime" [7] ["vulkan", "vulkan"]
  refine ⟨himage, run, (hsearches _ _ _).1 search, ?_⟩
  obtain ⟨e, htrace, -⟩ | ⟨inst, _, found, later, htrace, rfl, searched, -, hmissing⟩ :=
    hruns sampleRefusal _ himage run
  · cases htrace
  · have hinst : inst = ⟨1⟩ := by
      cases (List.cons.inj htrace).1
      rfl
    subst hinst
    obtain rfl := ((hsearches _ _ _).2 searched).unique search
    exact (hmissing _ rfl).2.2

end Session

end TensorBridge
