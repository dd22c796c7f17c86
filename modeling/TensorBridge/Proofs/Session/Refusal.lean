import Mathlib.Tactic.Common
import TensorBridge.Memory.Basic
import TensorBridge.Native.Backend
import TensorBridge.Proofs.Program.Replay
import TensorBridge.Proofs.Program.Watch

/-!
# When arguments are refused

Two kinds of failures describe refused arguments.  An operation of a session that fails with one of
them has called nothing at all, with one exception: an output whose native code stands for none of
the element types is reported like an argument of such a type, after the entry point was called.

* `Watch.codes` allows all calls and writes down the native codes that the replies show.
* `Session.create_blameless` and `Session.callEntry_blaming` tell with which failures the operations
  can end once they have called something, as long as no reply of the runtime is a refusal itself.
* `Session.refuses_in_time` carries this to the runtime in memory and to the native one, in any
  state and whatever the native functions reply.
* `Session.refuses_output_late` is the exception.
-/

namespace TensorBridge

open Program (Item)

section Codes

variable {I : Interface} {α β : Type}

/-! ## Codes that are shown -/

/-- The watch that allows all calls and writes the codes down that the replies show. -/
def Watch.codes (expects : (op : I.Op) → I.Reply op → Prop)
    (shown : (op : I.Op) → I.Reply op → Option UInt32) : Watch I (List UInt32) where
  Allows _ _ := True
  Expects _ := expects
  after codes op reply := codes ++ (shown op reply).toList

/-- The codes that the replies of a trace show. -/
def Program.Item.codes (shown : (op : I.Op) → I.Reply op → Option UInt32)
    (trace : List (Item I)) : List UInt32 :=
  trace.filterMap fun
    | .called op reply => shown op reply
    | .noted _ => none

variable {expects : (op : I.Op) → I.Reply op → Prop}
  {shown : (op : I.Op) → I.Reply op → Option UInt32} {codes : List UInt32}

@[simp] lemma Program.keeps_perform_codes {op : I.Op} {Q : I.Reply op → List UInt32 → Prop} :
    (perform op : Program I (I.Reply op)).Keeps (.codes expects shown) codes Q ↔
      ∀ r, expects op r → Q r (codes ++ (shown op r).toList) := by
  rw [keeps_perform]
  exact and_iff_right trivial

/-- What has been shown stays in the books. -/
lemma Program.Keeps.and_subset {p : Program I α} {Q : α → List UInt32 → Prop}
    (h : p.Keeps (.codes expects shown) codes Q) :
    p.Keeps (.codes expects shown) codes fun a codes' => Q a codes' ∧ codes ⊆ codes' := by
  induction p generalizing codes with
  | done a => exact ⟨h, List.Subset.refl codes⟩
  | call op next ih =>
    refine ⟨trivial, fun r hr => (ih r (h.2 r hr)).mono fun a codes' h' => ⟨h'.1, ?_⟩⟩
    exact List.Subset.trans (List.subset_append_left _ _) h'.2
  | note n next ih => exact ih h

lemma Watch.books_codes {trace : List (Item I)} :
    books (fun _ : Unit => .codes expects shown) codes (trace.map ((), ·)) =
      codes ++ Item.codes shown trace := by
  induction trace generalizing codes with
  | nil => simp [Item.codes]
  | cons item rest ih =>
    rw [List.map_cons, books_cons, ih]
    cases item with
    | called op reply =>
      cases hshown : shown op reply <;> simp [step, Watch.codes, Item.codes, hshown]
    | noted n => simp [step, Item.codes]

/-- What a program comes to fits the codes that its trace shows. -/
lemma Program.Keeps.of_runs_codes {p : Program I α} {Q : α → List UInt32 → Prop}
    (h : p.Keeps (.codes expects shown) [] Q) {trace : List (Item I)} {a : α}
    (run : p.Runs trace a) (hexp : ∀ op reply, .called op reply ∈ trace → expects op reply) :
    Q a (Item.codes shown trace) := by
  have hadmits : Watch.AdmitsAll (fun _ : Unit => .codes expects shown) [] (trace.map ((), ·)) :=
    Watch.throughout_of_forall fun e he _ => by
      obtain ⟨item, hitem, rfl⟩ := List.mem_map.1 he
      cases item with
      | called op reply => exact hexp op reply hitem
      | noted n => trivial
  have hbooks := (Program.Keeps.of_runs (W := fun _ : Unit => .codes expects shown) h run hadmits).2
  rwa [Watch.books_codes, List.nil_append] at hbooks

/-! ## Failures that describe no refused arguments -/

/-- Once it is under way, the action does not fail as if arguments were refused. -/
def Action.Blameless (expects : (op : I.Op) → I.Reply op → Prop)
    (shown : (op : I.Op) → I.Reply op → Option UInt32) (x : Action I α) : Prop :=
  ∀ codes, x.Meets (.codes expects shown) codes (fun _ _ => True)
    fun e _ => e.isInvalidInput = false

namespace Action.Blameless

variable {x : Action I α} {f : α → Action I β} {release : Program I Unit}

/-- A program can do anything with its books if nothing is asked of them. -/
lemma keeps_true (p : Program I α) :
    p.Keeps (.codes expects shown) codes fun _ _ => True := by
  induction p generalizing codes with
  | done a => trivial
  | call op next ih => exact ⟨trivial, fun r _ => ih r⟩
  | note n next ih => exact ih

lemma pure (a : α) : (pure a : Action I α).Blameless expects shown := fun _ => trivial

lemma throw {e : BridgeError} (h : e.isInvalidInput = false) :
    (throw e : Action I α).Blameless expects shown := fun _ => h

lemma always (p : Program I α) : (Action.always p).Blameless expects shown := fun _ => by
  rw [meets_always]
  exact keeps_true p

lemma bind (hx : x.Blameless expects shown) (hf : ∀ a, (f a).Blameless expects shown) :
    (x >>= f).Blameless expects shown := fun codes => by
  rw [meets_bind]
  exact (hx codes).mono (fun a codes' _ => hf a codes') fun _ _ he => he

lemma onFailure (hx : x.Blameless expects shown) :
    (x.onFailure release).Blameless expects shown := fun codes => by
  rw [meets_onFailure]
  exact (hx codes).mono (fun _ _ _ => trivial) fun _ _ he =>
    (keeps_true release).mono fun _ _ _ => he

end Action.Blameless

end Codes

/-- The error of a result, if it is one. -/
def errorOf? {α : Type} : Except BridgeError α → Option BridgeError
  | .ok _ => none
  | .error e => some e

@[simp] lemma errorOf?_eq_some_iff {α : Type} {r : Except BridgeError α} {e : BridgeError} :
    errorOf? r = some e ↔ r = .error e := by
  cases r <;> simp [errorOf?]

namespace BackendOp

/-- The native code of an element type that a reply shows. -/
def shown : (op : BackendOp) → op.Reply → Option UInt32
  | viewCode _, code => some code
  | _, _ => none

/-- The failure that a reply reports. -/
def failure? : (op : BackendOp) → op.Reply → Option BridgeError
  | createInstance, r | createDevice .., r | createSession .., r | createList _, r
  | uploadView .., r | appendModule .., r | pushView .., r | call .., r | readView .., r =>
    errorOf? r
  | _, _ => none

/-- The reply is not a failure that describes refused arguments. -/
def Blameless (op : BackendOp) (reply : op.Reply) : Prop :=
  ∀ e ∈ op.failure? reply, e.isInvalidInput = false

end BackendOp

/-- The native code of an element type that a reply of a native function shows. -/
def NativeOp.shown : (op : NativeOp) → op.Reply → Option UInt32
  | viewCode _, code => some code
  | _, _ => none

/-! ## Operations of a session -/

namespace Session

/-- Once it is under way, the action does not fail as if arguments were refused, unless the runtime
does so. -/
abbrev Blameless {α : Type} (x : Action Backend α) : Prop :=
  x.Blameless BackendOp.Blameless BackendOp.shown

variable {α : Type}

/-- A single call of the runtime. -/
lemma blameless_call {op : BackendOp} {result : op.Reply → Except BridgeError α}
    (h : ∀ r e, result r = .error e → op.failure? r = some e) :
    Blameless (.ofProgram (.call (I := Backend) op fun r => .done (result r))) :=
  fun codes => by
    refine ⟨trivial, fun r hr => ?_⟩
    rw [Program.keeps_done]
    cases hresult : result r with
    | ok a => trivial
    | error e => exact hr e (h r e hresult)

/-- The failure of a call is the one that its reply reports. -/
lemma blameless_perform_createDevice (inst : Handle .runtimeInstance) (driver : String) :
    Blameless (.ofProgram (Backend.createDevice inst driver)) :=
  blameless_call fun _ _ h => by subst h; rfl

lemma selectDevice_blameless (inst : Handle .runtimeInstance) (drivers : List String) :
    Blameless (selectDevice inst drivers) := by
  induction drivers with
  | nil => exact .throw rfl
  | cons driver rest ih =>
    cases rest with
    | nil => exact .bind (blameless_perform_createDevice inst driver) fun _ => .pure _
    | cons next rest =>
      intro codes
      refine ⟨trivial, fun r hr => ?_⟩
      cases r with
      | ok device => trivial
      | error e => exact ih _

lemma create_blameless {description : String} {image : List UInt8} {drivers : List String}
    (himage : image ≠ []) : Blameless (create description image drivers) := by
  have hempty : image.isEmpty = false := by simpa using himage
  simp only [create, hempty, Bool.false_eq_true, if_false]
  refine .bind (blameless_call fun _ _ h => by subst h; rfl) fun inst => .onFailure ?_
  refine .bind (selectDevice_blameless inst drivers) fun device => .onFailure ?_
  refine .bind (blameless_call fun _ _ h => by subst h; rfl) fun session => .onFailure ?_
  refine .bind (blameless_call fun _ _ h => by subst h; rfl) fun _ => ?_
  exact .bind (.always _) fun _ => .pure _

/-- The failure does not describe refused arguments, or it reports a code that has been shown and
stands for none of the element types. -/
def Blames (e : BridgeError) (codes : List UInt32) : Prop :=
  e.isInvalidInput = false ∨
    ∃ code ∈ codes, ElementType.ofNative? code = none ∧
      e = .unsupportedElementType (Int64.ofNat code.toNat)

lemma Blames.mono {e : BridgeError} {codes codes' : List UInt32} (h : Blames e codes)
    (hsub : codes ⊆ codes') : Blames e codes' :=
  h.imp_right fun ⟨code, hmem, hcode⟩ => ⟨code, hsub hmem, hcode⟩

/-- The action fails only with what is to be blamed on the runtime. -/
abbrev Blaming {α : Type} (x : Action Backend α) : Prop :=
  ∀ codes, x.Meets (.codes BackendOp.Blameless BackendOp.shown) codes (fun _ _ => True) Blames

lemma Blameless.blaming {x : Action Backend α} (h : Blameless x) : Blaming x := fun codes =>
  (h codes).mono (fun _ _ _ => trivial) fun _ _ he => .inl he

lemma Blaming.bind {β : Type} {x : Action Backend α} {f : α → Action Backend β} (hx : Blaming x)
    (hf : ∀ a, Blaming (f a)) : Blaming (x >>= f) := fun codes => by
  rw [Action.meets_bind]
  exact (hx codes).mono (fun a codes' _ => hf a codes') fun _ _ he => he

lemma Blaming.andThen {x : Action Backend α} {release : Program Backend Unit} (hx : Blaming x) :
    Blaming (x.andThen release) := fun codes => by
  rw [Action.meets_andThen]
  refine (hx codes).mono (fun _ _ _ => Action.Blameless.keeps_true release) fun _ _ he => ?_
  exact (Action.Blameless.keeps_true release).and_subset.mono fun _ _ h => he.mono h.2

lemma liftExcept_blameless {r : Except BridgeError α}
    (h : ∀ e, r = .error e → e.isInvalidInput = false) :
    Blameless (Marshal.readOutput.liftExcept r) := fun codes => by
  cases r with
  | ok a => trivial
  | error e => exact h e rfl

lemma reserve_blameless (bytes : Nat) (what : String) :
    Blameless (Marshal.readOutput.liftExcept (Marshal.reserve bytes what)) :=
  liftExcept_blameless fun e h => by
    rw [Marshal.reserve] at h
    split_ifs at h
    cases h
    rfl

lemma isInvalidInput_of_hostDims {index : Nat} {dims : List UInt64} {e : BridgeError}
    (h : Marshal.hostDims index dims = .error e) : e.isInvalidInput = false := by
  induction dims with
  | nil => cases h
  | cons d rest ih =>
    rw [Marshal.hostDims] at h
    split_ifs at h
    · cases hrest : Marshal.hostDims index rest with
      | ok shape =>
        rw [hrest] at h
        cases h
      | error e' =>
        rw [hrest] at h
        cases h
        exact ih hrest
    · cases h
      rfl

/-- **Reading an output** can blame the code that the output shows. -/
lemma readOutput_blaming (list : Handle .list) (index : Nat) :
    Blaming (Marshal.readOutput list index) := by
  refine .bind (Blameless.blaming (.always _)) fun view => ?_
  cases view with
  | none => exact Blameless.blaming (.throw rfl)
  | some view =>
    intro codes
    rw [Action.meets_bind, Backend.viewCode, Action.meets_always]
    refine ⟨trivial, fun code _ => ?_⟩
    rw [Program.keeps_done]
    cases htype : ElementType.ofNative? code with
    | none =>
      have hdecode : Marshal.decodeElementType code =
          .error (.unsupportedElementType (Int64.ofNat code.toNat)) := by
        simp [Marshal.decodeElementType, htype]
      rw [hdecode]
      exact .inr ⟨code, by simp [Watch.codes, BackendOp.shown], htype, rfl⟩
    | some t =>
      have hdecode : Marshal.decodeElementType code = .ok t := by
        simp [Marshal.decodeElementType, htype]
      rw [hdecode]
      refine Blameless.blaming ?_ _
      refine .bind (.pure t) fun _ => .bind (.always _) fun dims => ?_
      refine .bind (reserve_blameless _ _) fun _ => ?_
      refine .bind (liftExcept_blameless fun _ h => isInvalidInput_of_hostDims h) fun shape => ?_
      refine .bind (.always _) fun length => .bind (reserve_blameless _ _) fun _ => ?_
      exact .bind (blameless_call fun _ _ h => by subst h; rfl) fun _ => .pure _

lemma readFrom_blaming (list : Handle .list) (index count : Nat) :
    Blaming (Marshal.readFrom list index count) := by
  induction count generalizing index with
  | zero => exact Blameless.blaming (.pure [])
  | succ count ih =>
    refine .bind (readOutput_blaming list index) fun _ => .bind (ih (index + 1)) fun _ => ?_
    exact Blameless.blaming (.pure _)

lemma readOutputs_blaming (list : Handle .list) : Blaming (Marshal.readOutputs list) := by
  refine .bind (Blameless.blaming (.always _)) fun count => ?_
  split_ifs
  · exact .bind (Blameless.blaming (.throw rfl)) fun _ => readFrom_blaming list 0 count
  · exact readFrom_blaming list 0 count

lemma pushInputs_blameless (session : Handle .session) (list : Handle .list)
    (inputs : List Tensor) : Blameless (Marshal.pushInputs session list inputs) := by
  induction inputs with
  | nil => exact .pure ()
  | cons tensor rest ih =>
    refine .bind (.bind (blameless_call fun _ _ h => by subst h; rfl) fun view => ?_) fun _ => ih
    exact blameless_call fun _ _ h => by subst h; rfl

/-- **An invocation that is under way** can blame the code of an output. -/
lemma callEntry_blaming (session : Handle .session) (entry : String) (inputs : List Tensor) :
    Blaming (callEntry session entry inputs) := by
  refine .bind (Blameless.blaming (blameless_call fun _ _ h => by subst h; rfl)) fun inputList => ?_
  refine .andThen (.bind ?_ fun outputList => .andThen (.bind ?_ fun _ => .bind ?_ fun _ => ?_))
  · exact Blameless.blaming (blameless_call fun _ _ h => by subst h; rfl)
  · exact Blameless.blaming (pushInputs_blameless session inputList inputs)
  · exact Blameless.blaming (blameless_call fun _ _ h => by subst h; rfl)
  · exact readOutputs_blaming outputList

/-- The program calls nothing, or what it comes to fits the codes that it has been shown. -/
def Settles (p : Program Backend α) (Q : α → List UInt32 → Prop) : Prop :=
  (∃ a, p = .done a) ∨ p.Keeps (.codes BackendOp.Blameless BackendOp.shown) [] Q

lemma create_settles (description : String) (image : List UInt8) (drivers : List String) :
    Settles (create description image drivers).run fun r _ =>
      ∀ e, r = .error e → e.isInvalidInput = false := by
  by_cases himage : image = []
  · subst himage
    exact .inl ⟨.error (.invalidArgument "module" "module image is empty"), rfl⟩
  · refine .inr (Program.Keeps.mono (create_blameless himage []) ?_)
    rintro r codes hr e rfl
    exact hr

lemma invoke_settles (s : Session) (entry : String) (inputs : List Tensor) :
    Settles (s.invoke entry inputs) fun r codes => ∀ e, r.1 = .error e → Blames e codes := by
  unfold invoke
  cases checkArguments entry inputs with
  | error e => exact .inl ⟨(.error e, s), rfl⟩
  | ok _ =>
    refine .inr (Program.keeps_bind.2 (Program.Keeps.mono (callEntry_blaming _ entry inputs []) ?_))
    rintro (e | results) codes hr e' he
    · cases he
      exact hr
    · cases he

/-! ## Carrying the operations out -/

/-- The programs that carry the operations out fail only with what is to be blamed on the runtime,
and are shown all codes that they pass on. -/
def PassesOn {I : Interface} (perform : (op : BackendOp) → Program I op.Reply)
    (expects : (op : I.Op) → I.Reply op → Prop)
    (shown : (op : I.Op) → I.Reply op → Option UInt32) : Prop :=
  ∀ op codes, (perform op).Keeps (.codes expects shown) codes fun r codes' =>
    op.Blameless r ∧ (op.shown r).toList ⊆ codes'

section Carried

variable {I : Interface} {perform : (op : BackendOp) → Program I op.Reply}
  {expects : (op : I.Op) → I.Reply op → Prop}
  {shown : (op : I.Op) → I.Reply op → Option UInt32}

/-- What a program settles, it settles whoever carries its operations out. -/
lemma Settles.of_runs {p : Program Backend α} {Q : α → List UInt32 → Prop} (h : Settles p Q)
    (hQ : ∀ a codes codes', codes ⊆ codes' → Q a codes → Q a codes')
    (hperform : PassesOn perform expects shown) {trace : List (Item I)} {a : α}
    (run : (p.expand perform).Runs trace a)
    (hexp : ∀ op reply, .called op reply ∈ trace → expects op reply) :
    trace = [] ∨ Q a (Item.codes shown trace) := by
  rcases h with ⟨b, rfl⟩ | h
  · cases run
    exact .inl rfl
  -- The codes shown to the program are among those shown to the programs that carry it out.
  · have hexpand : (p.expand perform).Keeps (.codes expects shown) [] fun a codes =>
        ∃ codes', codes' ⊆ codes ∧ Q a codes' := by
      refine h.expand (fun op s t hst _ => ?_) (List.Subset.refl [])
      refine (hperform op t).and_subset.mono fun r t' hr => ⟨hr.1.1, ?_⟩
      exact List.append_subset.2 ⟨List.Subset.trans hst hr.2, hr.1.2⟩
    obtain ⟨codes, hsub, hcodes⟩ := hexpand.of_runs_codes run hexp
    exact .inr (hQ a codes _ hsub hcodes)

end Carried

/-- Sessions whose operations are carried out by such programs refuse arguments in time, as long as
the traces are as they can be. -/
structure RefusesInTime {I : Interface} (perform : (op : BackendOp) → Program I op.Reply)
    (shown : (op : I.Op) → I.Reply op → Option UInt32) (Possible : List (Item I) → Prop) :
    Prop where
  /-- An attempt to make a session that is refused has called nothing. -/
  create : ∀ description image drivers trace e,
    ((Session.create description image drivers).run.expand perform).Runs trace (.error e) →
      Possible trace → e.isInvalidInput = true → trace = []
  /-- An invocation that is refused has called nothing, or it has been shown an output of a type
  that is none of the six, and reports its code. -/
  invoke : ∀ (s : Session) entry inputs trace e s',
    ((s.invoke entry inputs).expand perform).Runs trace (.error e, s') → Possible trace →
      e.isInvalidInput = true → trace = [] ∨
        ∃ code ∈ Item.codes shown trace, ElementType.ofNative? code = none ∧
          e = .unsupportedElementType (Int64.ofNat code.toNat)

lemma RefusesInTime.of_passesOn {I : Interface} {perform : (op : BackendOp) → Program I op.Reply}
    {expects : (op : I.Op) → I.Reply op → Prop}
    {shown : (op : I.Op) → I.Reply op → Option UInt32} {Possible : List (Item I) → Prop}
    (hperform : PassesOn perform expects shown)
    (hpossible : ∀ trace, Possible trace → ∀ op reply, .called op reply ∈ trace →
      expects op reply) :
    RefusesInTime perform shown Possible where
  create description image drivers trace e run possible hinvalid := by
    refine ((create_settles description image drivers).of_runs (fun _ _ _ _ h => h) hperform run
      (hpossible trace possible)).resolve_right fun h => ?_
    rw [h e rfl] at hinvalid
    cases hinvalid
  invoke s entry inputs trace e s' run possible hinvalid := by
    refine ((invoke_settles s entry inputs).of_runs (fun _ _ _ hsub h e he => (h e he).mono hsub)
      hperform run (hpossible trace possible)).imp_right fun h => ?_
    refine (h e rfl).resolve_left fun hvalid => ?_
    rw [hvalid] at hinvalid
    cases hinvalid

end Session

/-! ## The runtime in memory -/

namespace Memory

/-- The replies of a trace are those that the runtime gives from a state on. -/
def Answers (m : Memory) (trace : List (Item Backend)) : Prop :=
  Watch.AdmitsAll (fun _ : Unit => .ofHandler handle) m (trace.map ((), ·))

lemma answers_transcript {α : Type} (p : Program Backend α) (m : Memory) :
    m.Answers (p.transcript handle m) :=
  Program.admits_transcript (I := Backend) handle p m

lemma isInvalidInput_of_createUnless {m : Memory} {event : MemoryEvent}
    {fault : Option MemoryFault} {call : String} {e : BridgeError}
    (h : (m.createUnless event fault call).1 = .error e) : e.isInvalidInput = false := by
  unfold createUnless at h
  dsimp only at h
  split_ifs at h
  cases h
  rfl

lemma isInvalidInput_of_evaluate {m : Memory} {entry : String} {inputs : Nat} {e : BridgeError}
    (h : (m.evaluate entry inputs).1 = .error e) : e.isInvalidInput = false := by
  unfold evaluate at h
  dsimp only at h
  split_ifs at h
  cases h
  rfl

/-- A handle is made out of an address. -/
lemma error_of_handled {kind : Resource} {r : Except BridgeError Nat × Memory} {e : BridgeError}
    (h : (handled r : Except BridgeError (Handle kind) × Memory).1 = .error e) :
    r.1 = .error e := by
  rcases r with ⟨e' | address, m⟩ <;> cases h
  rfl

/-- **The runtime in memory** reports no refusals of its own. -/
theorem blameless_handle (m : Memory) (op : BackendOp) : op.Blameless (handle op m).1 := by
  intro e he
  cases op with
  | createInstance | createSession _ _ =>
    exact isInvalidInput_of_createUnless (error_of_handled (errorOf?_eq_some_iff.1 he))
  | createDevice _ _ | appendModule _ _ | uploadView _ _ _ _ | pushView _ _ | readView _ _ =>
    simp only [BackendOp.failure?, handle, Option.mem_def, errorOf?_eq_some_iff] at he
    split_ifs at he
    cases he
    rfl
  | call session entry inputs outputs =>
    simp only [BackendOp.failure?, handle, Option.mem_def, errorOf?_eq_some_iff] at he
    split_ifs at he
    · cases he
      rfl
    · split at he
      · cases he
      · rename_i heval
        cases he
        exact isInvalidInput_of_evaluate (congrArg Prod.fst heval)
  | createList _ | releaseInstance _ | releaseDevice _ | releaseSession _ | releaseList _
  | listLength _ | viewAt _ _ | viewDims _ | viewCode _ | viewByteLength _ => cases he

/-- The runtime passes its own codes on. -/
lemma passesOn_perform :
    Session.PassesOn (fun op => .perform (I := Backend) op) BackendOp.Blameless BackendOp.shown :=
  fun _ _ => ⟨trivial, fun _ hr => ⟨hr, List.subset_append_right _ _⟩⟩

lemma Answers.blameless {m : Memory} {trace : List (Item Backend)} (h : m.Answers trace)
    (op : BackendOp) (reply : op.Reply) (hmem : .called op reply ∈ trace) :
    op.Blameless reply := by
  obtain ⟨m', hreply⟩ := Watch.Throughout.exists_of_mem h (List.mem_map_of_mem hmem)
  obtain rfl : reply = (handle op m').1 := hreply
  exact blameless_handle m' op

end Memory

/-! ## The native runtime -/

namespace Native

/-- Once it is under way, the action does not fail as if arguments were refused. -/
abbrev Blameless {α : Type} (x : Action Native α) : Prop :=
  x.Blameless (fun _ _ => True) NativeOp.shown

lemma check_blameless (renders : Bool) (symbol : String) (status : Option StatusWord) :
    Blameless (check renders symbol status) := by
  cases status with
  | none => exact .pure ()
  | some word => exact .bind (.always _) fun _ => .bind (.always _) fun _ => .throw rfl

lemma obtain_blameless {renders : Bool} {symbol : String} {missing : BridgeError}
    {p : Program Native Produced} (h : missing.isInvalidInput = false) :
    Blameless (obtain renders symbol missing p) := by
  refine .bind (.always p) fun produced => .bind (check_blameless _ _ _) fun _ => ?_
  cases produced.address with
  | none => exact .throw h
  | some address => exact .pure address

lemma attempt_blameless (renders : Bool) (op : NativeOp) (p : Program Native (Option StatusWord)) :
    Blameless (attempt renders op p) :=
  .bind (.always p) fun _ => check_blameless _ _ _

lemma createInstance_blameless (renders : Bool) : Blameless (createInstance renders) := by
  refine .bind (.always _) fun _ => .bind (.always _) fun options => ?_
  refine .bind (obtain_blameless rfl) fun inst => .bind (.onFailure ?_) fun _ => .pure _
  refine .bind (.always _) fun vm => ?_
  cases vm with
  | none => exact .throw rfl
  | some vm => exact .bind (attempt_blameless _ _ _) fun _ => attempt_blameless _ _ _

lemma appendModule_blameless (renders : Bool) (session : Handle .session) (image : List UInt8) :
    Blameless (appendModule renders session image) := by
  refine .bind (.always _) fun produced => .bind (.always _) fun checked => ?_
  rcases checked with e | _
  · exact .throw rfl
  · cases produced.address with
    | none => exact .throw rfl
    | some address => exact attempt_blameless _ _ _

lemma pushView_blameless (renders : Bool) (list : Handle .list) (view : Handle .view) :
    Blameless (pushView renders list view) := by
  refine .bind (.always _) fun reference => .bind (.always _) fun pushed => ?_
  obtain ⟨status, address⟩ := pushed
  cases status with
  | none => exact check_blameless renders _ none
  | some word =>
    cases address with
    | none => exact check_blameless renders _ (some word)
    | some left => exact .bind (.always _) fun _ => check_blameless renders _ (some word)

lemma readView_blameless (renders : Bool) (view : Handle .view) (length : Nat) :
    Blameless (readView renders view length) := by
  unfold readView
  split_ifs
  · exact .pure _
  · refine .bind (.always _) fun buffer => ?_
    cases buffer with
    | none => exact .throw rfl
    | some buffer =>
      exact .bind (.always _) fun read => .bind (check_blameless _ _ _) fun _ => .pure _

/-- An operation that fails as the action does. -/
lemma keeps_of_blameless {α : Type} {x : Action Native α} (hx : Blameless x)
    {codes : List UInt32} {Q : Except BridgeError α → List UInt32 → Prop}
    (hQ : ∀ r codes', (∀ e ∈ errorOf? r, e.isInvalidInput = false) → Q r codes') :
    x.run.Keeps (.codes (fun _ _ => True) NativeOp.shown) codes Q :=
  Program.Keeps.mono (hx codes) fun r codes' h => hQ r codes' fun e he => by
    obtain rfl := errorOf?_eq_some_iff.1 he
    exact h

/-- **The native runtime** reports no refusals of its own, and passes the codes on that it shows. -/
theorem passesOn_perform (renders : Bool) :
    Session.PassesOn (perform renders) (fun _ _ => True) NativeOp.shown := by
  intro op codes
  cases op with
  | createInstance =>
    exact keeps_of_blameless (createInstance_blameless renders) fun _ _ h =>
      ⟨h, List.nil_subset _⟩
  | createDevice inst driver =>
    exact keeps_of_blameless (.bind (obtain_blameless rfl) fun _ => .pure _) fun _ _ h =>
      ⟨h, List.nil_subset _⟩
  | createSession inst device =>
    refine keeps_of_blameless (.bind (.always _) fun _ => .bind (.always _) fun _ => ?_)
      fun _ _ h => ⟨h, List.nil_subset _⟩
    exact .bind (obtain_blameless rfl) fun _ => .pure _
  | appendModule session image =>
    exact keeps_of_blameless (appendModule_blameless renders session image) fun _ _ h =>
      ⟨h, List.nil_subset _⟩
  | createList capacity =>
    exact keeps_of_blameless (.bind (obtain_blameless rfl) fun _ => .pure _) fun _ _ h =>
      ⟨h, List.nil_subset _⟩
  | uploadView session dims code data =>
    refine keeps_of_blameless (.bind (.always _) fun _ => .bind (.always _) fun _ => ?_)
      fun _ _ h => ⟨h, List.nil_subset _⟩
    exact .bind (obtain_blameless rfl) fun _ => .pure _
  | pushView list view =>
    exact keeps_of_blameless (pushView_blameless renders list view) fun _ _ h =>
      ⟨h, List.nil_subset _⟩
  | call session entry inputs outputs =>
    exact keeps_of_blameless (attempt_blameless _ _ _) fun _ _ h => ⟨h, List.nil_subset _⟩
  | readView view length =>
    exact keeps_of_blameless (readView_blameless renders view length) fun _ _ h =>
      ⟨h, List.nil_subset _⟩
  | viewCode view =>
    exact ⟨trivial, fun _ _ => ⟨fun _ h => (by cases h), List.subset_append_right _ _⟩⟩
  | releaseInstance _ | releaseDevice _ | releaseSession _ | releaseList _ | listLength _
  | viewAt _ _ | viewDims _ | viewByteLength _ =>
    exact (Action.Blameless.keeps_true _).mono fun _ _ _ =>
      ⟨fun _ h => (by cases h), List.nil_subset _⟩

end Native

namespace Session

/-- **Arguments are refused in time** on the runtime in memory, from any state on, and on the native
runtime, whatever the native functions reply; only the type of an output is refused late. -/
theorem refuses_in_time (m : Memory) (renders : Bool) :
    RefusesInTime (fun op => .perform (I := Backend) op) BackendOp.shown m.Answers ∧
      RefusesInTime (Native.perform renders) NativeOp.shown fun _ => True :=
  ⟨.of_passesOn Memory.passesOn_perform fun _ h => h.blameless,
    .of_passesOn (Native.passesOn_perform renders) fun _ _ _ _ _ => trivial⟩

/-- A session on a fresh runtime in memory. -/
def freshSession : Session := ⟨⟨1⟩, ⟨2⟩, ⟨3⟩, "local-task", .moduleLoaded, 0⟩

/-- The runtime in memory when the session has been made. -/
def freshMemory : Memory :=
  ((create Memory.description [1] defaultDrivers).run.run Memory.handle {}).state

/-- An output of a type that is none of the six is refused after calls. -/
theorem refuses_output_late :
    ((create Memory.description [1] defaultDrivers).run.run Memory.handle {}).value =
        .ok freshSession ∧
      ∃ (trace : List (Item Backend)) (e : BridgeError),
        (freshSession.invoke "module.int8" []).Runs trace (.error e, freshSession) ∧
          freshMemory.Answers trace ∧ e.isInvalidInput = true ∧ trace ≠ [] := by
  let p := freshSession.invoke "module.int8" []
  have hcreate : ((create Memory.description [1] defaultDrivers).run.run Memory.handle {}).value =
      .ok freshSession := by decide +kernel
  have hvalue : (p.run Memory.handle freshMemory).value =
      (.error (.unsupportedElementType (Int64.ofNat int8Code.toNat)), freshSession) := by
    decide +kernel
  have htrace : (p.transcript Memory.handle freshMemory).isEmpty = false := by decide +kernel
  have hruns := p.runs_transcript Memory.handle freshMemory
  rw [hvalue] at hruns
  refine ⟨hcreate, _, _, hruns, Memory.answers_transcript p freshMemory, rfl, fun h => ?_⟩
  rw [h] at htrace
  cases htrace

end Session

end TensorBridge
