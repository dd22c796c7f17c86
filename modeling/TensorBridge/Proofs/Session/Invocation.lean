import Mathlib
import TensorBridge.Proofs.Session.Outputs

/-!
# The calls of an invocation

Which calls an invocation makes.  It tries one thing after the other until one fails: the two lists,
the inputs in order, the call and the outputs in order.  The lists that have been made are then
given back in any case, the one for the results first.

* `Pushing` tells the calls that hand over the inputs, `Exchanged` those between the making of the
  lists and their end, and `Invocation` those of a whole invocation, together with the calls that
  give back the lists.
* `invocation_trace` is the result: an invocation makes these calls and no others, and it is counted
  if it succeeds.
-/

namespace TensorBridge

open Program (Item)

namespace Session

variable {session : Handle .session} {entry : String} {inputs : List Tensor} {list : Handle .list}
  {cs : List (Item Backend)}

/-! ## The inputs -/

/-- A copy of a tensor was asked for. -/
def copied (session : Handle .session) (t : Tensor) (reply : Except BridgeError (Handle .view)) :
    Item Backend :=
  .called (.uploadView session (Marshal.nativeDims t.shape) t.elementType.toNative t.data) reply

/-- A view was to be moved into a list. -/
def moved (list : Handle .list) (view : Handle .view) (reply : Except BridgeError Unit) :
    Item Backend :=
  .called (.pushView list view) reply

/-- Tensors were handed over, each as a view. -/
def handed (session : Handle .session) (list : Handle .list)
    (given : List (Tensor × Handle .view)) : List (Item Backend) :=
  given.flatMap fun g => [copied session g.1 (.ok g.2), moved list g.2 (.ok ())]

/-- The calls that hand over the inputs, and the result. -/
inductive Pushing (session : Handle .session) (list : Handle .list) (inputs : List Tensor) :
    List (Item Backend) → Except BridgeError Unit → Prop where
  /-- All of them are handed over. -/
  | all {given : List (Tensor × Handle .view)} (hinputs : inputs = given.map Prod.fst) :
      Pushing session list inputs (handed session list given) (.ok ())
  /-- The first ones are handed over, and the next one cannot be copied. -/
  | notCopied {given : List (Tensor × Handle .view)} {t : Tensor} {after : List Tensor}
      {e : BridgeError} (hinputs : inputs = given.map Prod.fst ++ t :: after) :
      Pushing session list inputs (handed session list given ++ [copied session t (.error e)])
        (.error e)
  /-- The first ones are handed over, and the copy of the next one cannot be moved. -/
  | notMoved {given : List (Tensor × Handle .view)} {t : Tensor} {after : List Tensor}
      {view : Handle .view} {e : BridgeError}
      (hinputs : inputs = given.map Prod.fst ++ t :: after) :
      Pushing session list inputs
        (handed session list given ++ [copied session t (.ok view), moved list view (.error e)])
        (.error e)

lemma makes_pushInput_iff {t : Tensor} {r : Except BridgeError Unit} :
    (Marshal.pushInput session list t).run.Makes cs r ↔
      (∃ e, r = .error e ∧ cs = [copied session t (.error e)]) ∨
        ∃ view, cs = [copied session t (.ok view), moved list view r] := by
  unfold Marshal.pushInput
  rw [Action.makes_bind_iff]
  constructor
  · rintro (⟨e, rfl, hcopied⟩ | ⟨_, _, view, rfl, hcopied, hmoved⟩)
    · exact .inl ⟨e, rfl, Program.makes_perform_iff.1 hcopied⟩
    · obtain rfl := Program.makes_perform_iff.1 hcopied
      obtain rfl := Program.makes_perform_iff.1 hmoved
      exact .inr ⟨view, rfl⟩
  · rintro (⟨e, rfl, rfl⟩ | ⟨view, rfl⟩)
    · exact .inl ⟨e, rfl, Program.makes_perform_iff.2 rfl⟩
    · exact .inr ⟨[_], [_], view, rfl, Program.makes_perform_iff.2 rfl,
        Program.makes_perform_iff.2 rfl⟩

lemma pushing_nil_iff {r : Except BridgeError Unit} :
    Pushing session list [] cs r ↔ cs = [] ∧ r = .ok () := by
  constructor
  · intro h
    cases h with
    | all hinputs =>
      obtain rfl := List.map_eq_nil_iff.1 hinputs.symm
      exact ⟨rfl, rfl⟩
    | notCopied hinputs => simp at hinputs
    | notMoved hinputs => simp at hinputs
  · rintro ⟨rfl, rfl⟩
    exact @Pushing.all session list [] [] rfl

lemma pushing_cons_iff {t : Tensor} {r : Except BridgeError Unit} :
    Pushing session list (t :: inputs) cs r ↔
      (∃ e, r = .error e ∧ cs = [copied session t (.error e)]) ∨
        (∃ e view, r = .error e ∧ cs = [copied session t (.ok view), moved list view (.error e)]) ∨
          ∃ view later, cs = copied session t (.ok view) :: moved list view (.ok ()) :: later ∧
            Pushing session list inputs later r := by
  constructor
  · intro h
    cases h with
    | @all given hinputs =>
      cases given with
      | nil => cases hinputs
      | cons g given =>
        obtain ⟨rfl, hrest⟩ := List.cons_eq_cons.1 hinputs
        exact .inr (.inr ⟨g.2, _, rfl, .all hrest⟩)
    | @notCopied given t' after e hinputs =>
      cases given with
      | nil =>
        obtain ⟨rfl, -⟩ := List.cons_eq_cons.1 hinputs
        exact .inl ⟨e, rfl, rfl⟩
      | cons g given =>
        obtain ⟨rfl, hrest⟩ := List.cons_eq_cons.1 hinputs
        exact .inr (.inr ⟨g.2, _, rfl, .notCopied hrest⟩)
    | @notMoved given t' after view e hinputs =>
      cases given with
      | nil =>
        obtain ⟨rfl, -⟩ := List.cons_eq_cons.1 hinputs
        exact .inr (.inl ⟨e, view, rfl, rfl⟩)
      | cons g given =>
        obtain ⟨rfl, hrest⟩ := List.cons_eq_cons.1 hinputs
        exact .inr (.inr ⟨g.2, _, rfl, .notMoved hrest⟩)
  · rintro (⟨e, rfl, rfl⟩ | ⟨e, view, rfl, rfl⟩ | ⟨view, later, rfl, h⟩)
    · exact @Pushing.notCopied session list _ [] t inputs e rfl
    · exact @Pushing.notMoved session list _ [] t inputs view e rfl
    · cases h with
      | @all given hinputs =>
        exact @Pushing.all _ _ _ ((t, view) :: given) (congrArg (t :: ·) hinputs)
      | @notCopied given t' after e hinputs =>
        exact @Pushing.notCopied _ _ _ ((t, view) :: given) t' after e (congrArg (t :: ·) hinputs)
      | @notMoved given t' after view' e hinputs =>
        exact @Pushing.notMoved _ _ _ ((t, view) :: given) t' after view' e
          (congrArg (t :: ·) hinputs)

/-- **The inputs** are handed over in order up to the first failure. -/
theorem makes_pushInputs_iff {r : Except BridgeError Unit} :
    (Marshal.pushInputs session list inputs).run.Makes cs r ↔ Pushing session list inputs cs r := by
  induction inputs generalizing cs with
  | nil =>
    rw [pushing_nil_iff]
    exact Action.makes_pure_iff
  | cons t inputs ih =>
    rw [pushing_cons_iff, Marshal.pushInputs, Action.makes_bind_iff]
    constructor
    · rintro (⟨e, rfl, hfirst⟩ | ⟨_, later, _, rfl, hfirst, hlater⟩)
      · rcases makes_pushInput_iff.1 hfirst with ⟨e', he, rfl⟩ | ⟨view, rfl⟩
        · cases he
          exact .inl ⟨e, rfl, rfl⟩
        · exact .inr (.inl ⟨e, view, rfl, rfl⟩)
      · rcases makes_pushInput_iff.1 hfirst with ⟨_, he, -⟩ | ⟨view, rfl⟩
        · cases he
        · exact .inr (.inr ⟨view, later, rfl, ih.1 hlater⟩)
    · rintro (⟨e, rfl, rfl⟩ | ⟨e, view, rfl, rfl⟩ | ⟨view, later, rfl, h⟩)
      · exact .inl ⟨e, rfl, makes_pushInput_iff.2 (.inl ⟨e, rfl, rfl⟩)⟩
      · exact .inl ⟨e, rfl, makes_pushInput_iff.2 (.inr ⟨view, rfl⟩)⟩
      · exact .inr ⟨[_, _], later, (), rfl, makes_pushInput_iff.2 (.inr ⟨view, rfl⟩), ih.2 h⟩

/-! ## Between the lists -/

/-- The calls that use the two lists, and the result. -/
inductive Exchanged (session : Handle .session) (entry : String) (inputs : List Tensor)
    (inputList outputList : Handle .list) :
    List (Item Backend) → Except BridgeError (List Tensor) → Prop where
  /-- An input cannot be handed over. -/
  | notPushed {cs : List (Item Backend)} {e : BridgeError}
      (pushing : Pushing session inputList inputs cs (.error e)) :
      Exchanged session entry inputs inputList outputList cs (.error e)
  /-- The call fails. -/
  | notCalled {cs : List (Item Backend)} {e : BridgeError}
      (pushing : Pushing session inputList inputs cs (.ok ())) :
      Exchanged session entry inputs inputList outputList
        (cs ++ [.called (.call session entry inputList outputList) (.error e)]) (.error e)
  /-- The call succeeds, and the outputs are read. -/
  | called {cs later : List (Item Backend)} {outputs : List (Option Marshal.Shown)}
      {r : Except BridgeError (List Tensor)}
      (pushing : Pushing session inputList inputs cs (.ok ()))
      (gathering : Marshal.Gathering outputList outputs later r) :
      Exchanged session entry inputs inputList outputList
        (cs ++ .called (.call session entry inputList outputList) (.ok ()) :: later) r

lemma makes_exchange_iff {inputList outputList : Handle .list}
    {r : Except BridgeError (List Tensor)} :
    (exchange session entry inputs inputList outputList).run.Makes cs r ↔
      Exchanged session entry inputs inputList outputList cs r := by
  unfold exchange
  rw [Action.makes_bind_iff]
  constructor
  · rintro (⟨e, rfl, hpush⟩ | ⟨first, _, _, rfl, hpush, hrest⟩)
    · exact .notPushed (makes_pushInputs_iff.1 hpush)
    have pushing := makes_pushInputs_iff.1 hpush
    rcases Action.makes_bind_iff.1 hrest with ⟨e, rfl, hcall⟩ | ⟨_, later, _, rfl, hcall, hread⟩
    · obtain rfl := Program.makes_perform_iff.1 hcall
      exact .notCalled pushing
    · obtain rfl := Program.makes_perform_iff.1 hcall
      obtain ⟨outputs, gathering⟩ := Marshal.makes_readOutputs_iff.1 hread
      exact .called pushing gathering
  · intro h
    cases h with
    | notPushed pushing => exact .inl ⟨_, rfl, makes_pushInputs_iff.2 pushing⟩
    | @notCalled first e pushing =>
      refine .inr ⟨first, [_], (), rfl, makes_pushInputs_iff.2 pushing, ?_⟩
      exact Action.makes_bind_iff.2 (.inl ⟨e, rfl, Program.makes_perform_iff.2 rfl⟩)
    | @called first later outputs r pushing gathering =>
      refine .inr ⟨first, _, (), rfl, makes_pushInputs_iff.2 pushing, ?_⟩
      exact Action.makes_bind_iff.2 (.inr ⟨[_], later, (), rfl, Program.makes_perform_iff.2 rfl,
        Marshal.makes_readOutputs_iff.2 ⟨outputs, gathering⟩⟩)

/-! ## The invocation -/

/-- The calls of an invocation up to its end or its first failing step, the calls that give back the
lists that were made, and the result. -/
inductive Invocation (session : Handle .session) (entry : String) (inputs : List Tensor) :
    (steps releases : List (Item Backend)) → Except BridgeError (List Tensor) → Prop where
  /-- The entry point has no name. -/
  | noEntry (hentry : entry = "") :
      Invocation session entry inputs [] []
        (.error (.invalidArgument "entry" "entry point name is empty"))
  /-- An input is not well formed; the failure names the first one. -/
  | badInput {before after : List Tensor} {t : Tensor} {fault : TensorError} (hentry : entry ≠ "")
      (hinputs : inputs = before ++ t :: after) (hbefore : ∀ b ∈ before, b.validate = .ok ())
      (ht : t.validate = .error fault) :
      Invocation session entry inputs [] []
        (.error (.invalidArgument s!"inputs[{before.length}]" fault.message))
  /-- There is no list for the inputs. -/
  | noInputList {e : BridgeError} (hentry : entry ≠ "")
      (hvalid : ∀ t ∈ inputs, t.validate = .ok ()) :
      Invocation session entry inputs [.called (.createList inputs.length) (.error e)] [] (.error e)
  /-- There is no list for the results. -/
  | noOutputList {inputList : Handle .list} {e : BridgeError} (hentry : entry ≠ "")
      (hvalid : ∀ t ∈ inputs, t.validate = .ok ()) :
      Invocation session entry inputs
        [.called (.createList inputs.length) (.ok inputList), .called (.createList 4) (.error e)]
        [.called (.releaseList inputList) ()] (.error e)
  /-- Both lists are used. -/
  | exchanged {inputList outputList : Handle .list} {cs : List (Item Backend)}
      {r : Except BridgeError (List Tensor)} (hentry : entry ≠ "")
      (hvalid : ∀ t ∈ inputs, t.validate = .ok ())
      (used : Exchanged session entry inputs inputList outputList cs r) :
      Invocation session entry inputs
        (.called (.createList inputs.length) (.ok inputList) ::
          .called (.createList 4) (.ok outputList) :: cs)
        [.called (.releaseList outputList) (), .called (.releaseList inputList) ()] r

lemma makes_createList_iff {capacity : Nat} {r : Except BridgeError (Handle .list)} :
    (Backend.createList capacity).run.Makes cs r ↔ cs = [.called (.createList capacity) r] :=
  Program.makes_perform_iff

lemma makes_releaseList_iff {u : Unit} :
    (Backend.releaseList list).Makes cs u ↔ cs = [.called (.releaseList list) ()] :=
  Program.makes_perform_iff

/-- Arguments that are not in order are refused before anything is called. -/
lemma invocation_iff_of_error {steps releases : List (Item Backend)}
    {r : Except BridgeError (List Tensor)} {e : BridgeError}
    (h : checkArguments entry inputs = .error e) :
    Invocation session entry inputs steps releases r ↔
      steps = [] ∧ releases = [] ∧ r = .error e := by
  unfold checkArguments at h
  split_ifs at h with hempty
  · obtain rfl : entry = "" := by simpa using hempty
    cases h
    constructor
    · intro h
      cases h with
      | noEntry => exact ⟨rfl, rfl, rfl⟩
      | badInput hentry => exact absurd rfl hentry
      | noInputList hentry => exact absurd rfl hentry
      | noOutputList hentry => exact absurd rfl hentry
      | exchanged hentry => exact absurd rfl hentry
    · rintro ⟨rfl, rfl, rfl⟩
      exact .noEntry rfl
  · have hentry : entry ≠ "" := by simpa using hempty
    have hinvalid : ¬∀ t ∈ inputs, t.validate = .ok () := by
      intro hvalid
      cases h.symm.trans (Marshal.validateFrom_eq_ok_iff.2 hvalid)
    constructor
    · intro hinvocation
      cases hinvocation with
      | noEntry hempty => exact absurd hempty hentry
      | badInput _ hinputs hbefore ht =>
        have h' := (@Marshal.validateFrom_eq_error_iff 0 _ _).2
          ⟨_, _, _, _, hinputs, hbefore, ht, rfl⟩
        rw [Nat.zero_add] at h'
        cases h.symm.trans h'
        exact ⟨rfl, rfl, rfl⟩
      | noInputList _ hvalid => exact absurd hvalid hinvalid
      | noOutputList _ hvalid => exact absurd hvalid hinvalid
      | exchanged _ hvalid => exact absurd hvalid hinvalid
    · rintro ⟨rfl, rfl, rfl⟩
      obtain ⟨before, t, after, fault, hinputs, hbefore, ht, rfl⟩ :=
        Marshal.validateFrom_eq_error_iff.1 h
      rw [Nat.zero_add]
      exact .badInput hentry hinputs hbefore ht

lemma ne_empty_and_valid_of_checkArguments (h : checkArguments entry inputs = .ok ()) :
    entry ≠ "" ∧ ∀ t ∈ inputs, t.validate = .ok () := by
  unfold checkArguments at h
  split_ifs at h with hempty
  exact ⟨by simpa using hempty, Marshal.validateFrom_eq_ok_iff.1 h⟩

/-- What a call of an entry point comes to when the arguments are in order. -/
lemma makes_callEntry_iff {r : Except BridgeError (List Tensor)} (hentry : entry ≠ "")
    (hvalid : ∀ t ∈ inputs, t.validate = .ok ()) :
    (callEntry session entry inputs).run.Makes cs r ↔
      ∃ steps releases, Invocation session entry inputs steps releases r ∧
        cs = steps ++ releases := by
  unfold callEntry
  simp only [Action.makes_bracket_iff, makes_createList_iff, makes_releaseList_iff,
    makes_exchange_iff]
  constructor
  · rintro (⟨e, rfl, rfl⟩ | ⟨_, _, _, inputList, rfl, rfl, hsecond, rfl⟩)
    · exact ⟨_, _, .noInputList hentry hvalid, rfl⟩
    rcases hsecond with ⟨e, rfl, rfl⟩ | ⟨_, used, _, outputList, rfl, rfl, exchanged, rfl⟩
    · exact ⟨_, _, .noOutputList hentry hvalid, rfl⟩
    · exact ⟨_, _, .exchanged hentry hvalid exchanged, by simp [resultCapacity]⟩
  · rintro ⟨steps, releases, h, rfl⟩
    cases h with
    | noEntry hempty => exact absurd hempty hentry
    | badInput _ hinputs _ ht =>
      have hmem : _ ∈ inputs := hinputs ▸ List.mem_append_right _ List.mem_cons_self
      cases (hvalid _ hmem).symm.trans ht
    | @noInputList e => exact .inl ⟨e, rfl, rfl⟩
    | @noOutputList inputList e =>
      exact .inr ⟨[_], [_], [_], inputList, rfl, rfl, .inl ⟨e, rfl, rfl⟩, rfl⟩
    | @exchanged inputList outputList used r _ _ exchanged =>
      refine .inr ⟨_, .called (.createList resultCapacity) (.ok outputList) :: used ++
        [.called (.releaseList outputList) ()], _, inputList, ?_, rfl, .inr ?_, rfl⟩
      · simp [resultCapacity]
      · exact ⟨_, used, _, outputList, by simp, rfl, exchanged, rfl⟩

/-- The session afterwards: an invocation is counted if it succeeds. -/
def counting (s : Session) : Except BridgeError (List Tensor) → Session
  | .ok _ => { s with invocations := s.invocations + 1 }
  | .error _ => s

lemma makes_invoke_of_error {s s' : Session} {r : Except BridgeError (List Tensor)}
    {e : BridgeError}
    (h : checkArguments entry inputs = .error e) :
    (s.invoke entry inputs).Makes cs (r, s') ↔ cs = [] ∧ r = .error e ∧ s' = s := by
  unfold invoke
  simp only [h]
  rw [← Prod.mk_inj]
  exact Program.makes_done_iff

lemma makes_invoke_of_ok {s s' : Session} {r : Except BridgeError (List Tensor)}
    (h : checkArguments entry inputs = .ok ()) :
    (s.invoke entry inputs).Makes cs (r, s') ↔
      (callEntry s.session entry inputs).run.Makes cs r ∧ s' = s.counting r := by
  unfold invoke
  simp only [h]
  rw [Program.makes_bind_iff]
  constructor
  · rintro ⟨first, _, r', rfl, hcall, hdone⟩
    cases r' <;>
    · obtain ⟨rfl, heq⟩ := Program.makes_done_iff.1 hdone
      cases heq
      exact ⟨by rwa [List.append_nil], rfl⟩
  · rintro ⟨hcall, rfl⟩
    refine ⟨cs, [], r, (List.append_nil cs).symm, hcall, ?_⟩
    cases r <;> exact Program.makes_done_iff.2 ⟨rfl, rfl⟩

/-- What an invocation calls is told by its steps. -/
lemma exists_invocation {s s' : Session} {entry : String} {inputs : List Tensor}
    {cs : List (Item Backend)} {r : Except BridgeError (List Tensor)}
    (h : (s.invoke entry inputs).Makes cs (r, s')) :
    ∃ steps releases, Invocation s.session entry inputs steps releases r ∧
      cs = steps ++ releases := by
  rcases hchecked : checkArguments entry inputs with e | ⟨⟩
  · rw [makes_invoke_of_error hchecked] at h
    obtain ⟨rfl, rfl, rfl⟩ := h
    exact ⟨[], [], (invocation_iff_of_error hchecked).2 ⟨rfl, rfl, rfl⟩, rfl⟩
  · obtain ⟨hentry, hvalid⟩ := ne_empty_and_valid_of_checkArguments hchecked
    rw [makes_invoke_of_ok hchecked, makes_callEntry_iff hentry hvalid] at h
    exact h.1

/-- **The trace of an invocation.**  Nothing is called unless the name of the entry point and all
inputs are in order.  Otherwise the calls go on to the first failing step, whose failure is
returned, or to the last output.  In any case the lists that were made are given back in the end,
and the invocation is counted if it succeeds. -/
theorem invocation_trace (s s' : Session) (entry : String) (inputs : List Tensor)
    (cs : List (Item Backend)) (r : Except BridgeError (List Tensor)) :
    (s.invoke entry inputs).Makes cs (r, s') ↔
      s' = s.counting r ∧
        ∃ steps releases, Invocation s.session entry inputs steps releases r ∧
          cs = steps ++ releases := by
  rcases hchecked : checkArguments entry inputs with e | ⟨⟩
  · rw [makes_invoke_of_error hchecked]
    simp only [invocation_iff_of_error hchecked]
    constructor
    · rintro ⟨rfl, rfl, rfl⟩
      exact ⟨rfl, [], [], ⟨rfl, rfl, rfl⟩, rfl⟩
    · rintro ⟨rfl, _, _, ⟨rfl, rfl, rfl⟩, rfl⟩
      exact ⟨rfl, rfl, rfl⟩
  · obtain ⟨hentry, hvalid⟩ := ne_empty_and_valid_of_checkArguments hchecked
    rw [makes_invoke_of_ok hchecked, makes_callEntry_iff hentry hvalid, and_comm]

end Session

end TensorBridge
