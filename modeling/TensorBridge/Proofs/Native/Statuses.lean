import Mathlib
import TensorBridge.Proofs.Native.Conservation
import TensorBridge.Proofs.Native.Failures
import TensorBridge.Proofs.Text.Truncation

/-!
# Statuses of native functions

What becomes of the statuses that native functions hand out, and of the buffers with their texts.
`Native.Consumed` says of a trace that they are the statuses of its failures, that they are freed
once each, and that the errors about them are worded in the right way.  `Native.statuses_consumed`
is the result about sessions.

Which code a status carries is told by the numbers of the codes (`StatusCode.number`) and the lowest
five bits of the status (`Native.Carries`), apart from the way in which the bridge decodes it.
-/

namespace TensorBridge

open Program (Item)

/-- The number of a code. -/
def StatusCode.number : StatusCode → Nat
  | ok => 0
  | cancelled => 1
  | unknown => 2
  | invalidArgument => 3
  | deadlineExceeded => 4
  | notFound => 5
  | alreadyExists => 6
  | permissionDenied => 7
  | resourceExhausted => 8
  | failedPrecondition => 9
  | aborted => 10
  | outOfRange => 11
  | unimplemented => 12
  | internal => 13
  | unavailable => 14
  | dataLoss => 15
  | unauthenticated => 16
  | deferred => 17

namespace Native

/-! ## Codes -/

/-- A status carries a code: the lowest five bits are its number.  A number that is none of a code
counts as unknown. -/
def Carries (word : StatusWord) (code : StatusCode) : Prop :=
  code.number = word.toNat % 32 ∨ code = .unknown ∧ ∀ c : StatusCode, c.number ≠ word.toNat % 32

lemma number_le (code : StatusCode) : code.number ≤ 17 := by
  cases code <;> decide

lemma ofRaw_number (code : StatusCode) : .ofRaw code.number = code := by
  cases code <;> rfl

lemma number_ofRaw {n : Nat} (h : n ≤ 17) : (StatusCode.ofRaw n).number = n := by
  interval_cases n <;> rfl

lemma ofRaw_of_lt {n : Nat} (h : 17 < n) : .ofRaw n = StatusCode.unknown := by
  unfold StatusCode.ofRaw
  split <;> first | omega | rfl

/-- **Decoding** finds the code that a status carries, and there is no other. -/
lemma carries_iff {word : StatusWord} {code : StatusCode} :
    Carries word code ↔ code = .ofWord word := by
  constructor
  · rintro (hnumber | ⟨rfl, hnone⟩)
    · rw [StatusCode.ofWord, ← hnumber, ofRaw_number]
    · have hlarge : 17 < word.toNat % 32 :=
        lt_of_not_ge fun hle => hnone _ (number_ofRaw hle)
      rw [StatusCode.ofWord, ofRaw_of_lt hlarge]
  · rintro rfl
    rcases le_or_gt (word.toNat % 32) 17 with hle | hlarge
    · exact .inl (number_ofRaw hle)
    · refine .inr ⟨ofRaw_of_lt hlarge, fun c hc => ?_⟩
      have hle := number_le c
      omega

variable {renders : Bool} {cs : List (Item Native)}

/-! ## What becomes of statuses and buffers -/

/-- The statuses that the replies of a trace hand out. -/
def handedOut (trace : List (Item Native)) : List StatusWord :=
  trace.filterMap fun
    | .called op reply => op.status? reply
    | .noted _ => none

/-- The statuses that a trace frees. -/
def freed (trace : List (Item Native)) : List StatusWord :=
  trace.filterMap fun
    | .called (.freeStatus word) _ => some word
    | _ => none

/-- The buffers that renderings leave behind. -/
def rendered (trace : List (Item Native)) : List Nat :=
  trace.filterMap fun
    | .called (.renderStatus _ _) reply => Rendering.buffer? reply
    | _ => none

/-- The buffers that a trace frees. -/
def cleared (trace : List (Item Native)) : List Nat :=
  trace.filterMap fun
    | .called (.free _ address) _ => some address
    | _ => none

section Append

variable (cs later : List (Item Native))

lemma handedOut_append : handedOut (cs ++ later) = handedOut cs ++ handedOut later :=
  List.filterMap_append

lemma freed_append : freed (cs ++ later) = freed cs ++ freed later := List.filterMap_append

lemma rendered_append : rendered (cs ++ later) = rendered cs ++ rendered later :=
  List.filterMap_append

lemma cleared_append : cleared (cs ++ later) = cleared cs ++ cleared later :=
  List.filterMap_append

end Append

section Balance

variable {op : NativeOp} {reply : op.Reply}

lemma handedOut_called :
    handedOut (.called op reply :: cs) = (op.status? reply).toList ++ handedOut cs := by
  unfold handedOut
  rw [List.filterMap_cons]
  cases hstatus : op.status? reply <;> simp [hstatus]

lemma freed_called (h : op.settles = false) : freed (.called op reply :: cs) = freed cs := by
  cases op <;> first | rfl | cases h

lemma rendered_called (h : op.settles = false) :
    rendered (.called op reply :: cs) = rendered cs := by
  cases op <;> first | rfl | cases h

lemma cleared_called (h : op.settles = false) :
    cleared (.called op reply :: cs) = cleared cs := by
  cases op <;> first | rfl | cases h

lemma settles_eq_of_status {word : StatusWord} (h : op.status? reply = some word) :
    op.settles = false := by
  cases op <;> first | rfl | cases h

end Balance

/-- Using a status up frees it once, and the buffer with its text if there is one. -/
lemma settlement_balance (word : StatusWord) (rendering : Option Rendering) :
    handedOut (settlement word rendering) = [] ∧ freed (settlement word rendering) = [word] ∧
      rendered (settlement word rendering) = cleared (settlement word rendering) := by
  rcases rendering with _ | _ | _ | ⟨address, bytes⟩ <;> exact ⟨rfl, rfl, rfl⟩

lemma Failure.calls_balance (f : Failure) :
    handedOut f.calls = [f.word] ∧ freed f.calls = [f.word] ∧
      rendered f.calls = cleared f.calls := by
  obtain ⟨hhanded, hfreed, hbuffers⟩ := settlement_balance f.word f.rendering
  have hsettles := settles_eq_of_status f.reported
  rw [Failure.calls, List.cons_append, handedOut_called, f.reported, freed_called hsettles,
    rendered_called hsettles, cleared_called hsettles]
  cases f.op.leftover? f.reply with
  | none => exact ⟨congrArg (f.word :: ·) hhanded, hfreed, hbuffers⟩
  | some left => exact ⟨congrArg (f.word :: ·) hhanded, hfreed, hbuffers⟩

/-- **What becomes of statuses**: those that were handed out are freed, in order, and so are the
buffers with their texts. -/
lemma Accounted.balance {failures : List Failure} (h : Accounted renders cs failures) :
    handedOut cs = failures.map Failure.word ∧ freed cs = failures.map Failure.word ∧
      rendered cs = cleared cs := by
  induction h with
  | nil => exact ⟨rfl, rfl, rfl⟩
  | quiet hstatus hsettles _ ih =>
    rw [handedOut_called, hstatus, freed_called hsettles, rendered_called hsettles,
      cleared_called hsettles]
    exact ih
  | @failure f cs failures _ _ ih =>
    obtain ⟨hhanded, hfreed, hbuffers⟩ := f.calls_balance
    obtain ⟨ihhanded, ihfreed, ihbuffers⟩ := ih
    refine ⟨?_, ?_, ?_⟩
    · rw [handedOut_append, hhanded, ihhanded]
      rfl
    · rw [freed_append, hfreed, ihfreed]
      rfl
    · rw [rendered_append, cleared_append, hbuffers, ihbuffers]

/-- The error about a failure names the function, and carries the code of the status and a message:
the beginning of the text, or the fallback if there is no text. -/
def Failure.Worded (f : Failure) : Prop :=
  ∃ (code : StatusCode) (message : String), Carries f.word code ∧
    f.error = f.op.failure code message ∧
    match f.rendering with
    | some (.buffer _ bytes) =>
      message.toList <+: (Utf8.decodeLossy bytes).toList ∧ message.utf8ByteSize ≤ 511
    | _ => message = "IREE status error"

lemma Failure.worded (f : Failure) : f.Worded := by
  refine ⟨.ofWord f.word, messageOf f.rendering, carries_iff.2 rfl, rfl, ?_⟩
  rcases f.rendering with _ | _ | _ | ⟨address, bytes⟩
  · rfl
  · rfl
  · rfl
  · exact ⟨toList_truncate_initial _ _, utf8ByteSize_truncate_le _ _⟩

/-- The statuses of a trace of native calls are consumed, each in the course of its failure. -/
structure Consumed (renders : Bool) (trace : List (Item Native)) (failures : List Failure) :
    Prop where
  /-- The calls are those of the failures, and calls that have nothing to do with statuses. -/
  accounted : Accounted renders (Program.calls trace) failures
  /-- The statuses that are handed out are those of the failures. -/
  handedOut_eq : handedOut (Program.calls trace) = failures.map Failure.word
  /-- The same statuses are freed, each once. -/
  freed_eq : freed (Program.calls trace) = failures.map Failure.word
  /-- The buffers with texts are freed, each once. -/
  rendered_eq : rendered (Program.calls trace) = cleared (Program.calls trace)
  /-- The errors are worded in the right way. -/
  worded : ∀ f ∈ failures, f.Worded

lemma Accounted.consumed {trace : List (Item Native)} {failures : List Failure}
    (h : Accounted renders (Program.calls trace) failures) : Consumed renders trace failures := by
  obtain ⟨hhanded, hfreed, hbuffers⟩ := h.balance
  exact ⟨h, hhanded, hfreed, hbuffers, fun f _ => f.worded⟩

/-! ## Sessions -/

/-- What operations meet comes to light in their replies. -/
lemma accounted_of_expands {outer : List (Item Backend)} {inner : List (Item Native)}
    (h : Program.Expands (perform renders) outer inner) : ∃ failures,
      Accounted renders (Program.calls inner) failures ∧
        ∀ f ∈ failures, ∃ op reply, .called op reply ∈ outer ∧
          op.failure? reply = some f.error := by
  induction h with
  | nil => exact ⟨[], .nil, by simp⟩
  | @called op reply outer first inner carried _ ih =>
    obtain ⟨failure, hfirst, herror⟩ := perform_settles op ⟨first, carried, rfl⟩
    obtain ⟨failures, hrest, herrors⟩ := ih
    refine ⟨failure.toList ++ failures, ?_, fun f hf => ?_⟩
    · rw [Program.calls_append]
      exact hfirst.append hrest
    · rcases List.mem_append.1 hf with hf | hf
      · exact ⟨op, reply, List.mem_cons_self, herror f (Option.mem_toList.1 hf)⟩
      · obtain ⟨op', reply', hmem, he⟩ := herrors f hf
        exact ⟨op', reply', List.mem_cons_of_mem _ hmem, he⟩
  | @noted n outer inner _ ih =>
    obtain ⟨failures, hrest, herrors⟩ := ih
    refine ⟨failures, hrest, fun f hf => ?_⟩
    obtain ⟨op, reply, hmem, he⟩ := herrors f hf
    exact ⟨op, reply, List.mem_cons_of_mem _ hmem, he⟩

lemma noted_of_expands {outer : List (Item Backend)} {inner : List (Item Native)}
    (h : Program.Expands (perform renders) outer inner) {n : Notice} (hn : .noted n ∈ outer) :
    .noted n ∈ inner := by
  induction h with
  | nil => cases hn
  | called _ _ ih =>
    rcases List.mem_cons.1 hn with hn | hn
    · cases hn
    · exact List.mem_append_right _ (ih hn)
  | noted _ ih =>
    rcases List.mem_cons.1 hn with hn | hn
    · cases hn
      exact List.mem_cons_self
    · exact List.mem_cons_of_mem _ (ih hn)

section Results

variable {trace : List (Item Native)}

lemma create_consumed {description : String} {image : List UInt8} {drivers : List String}
    {r : Except BridgeError Session}
    (run : ((Session.create description image drivers).run.expand (perform renders)).Runs trace r) :
    ∃ failures, Consumed renders trace failures ∧ ∀ f ∈ failures, r = .error f.error ∨
      ∃ driver next, .noted (.driverUnavailable driver next f.error) ∈ trace := by
  obtain ⟨outer, houter, hexp⟩ := Program.runs_expand_iff.1 run
  obtain ⟨failures, haccounted, herrors⟩ := accounted_of_expands hexp
  refine ⟨failures, haccounted.consumed, fun f hf => ?_⟩
  obtain ⟨op, reply, hmem, he⟩ := herrors f hf
  rcases Session.create_surfaces description image drivers outer r houter op reply _ hmem he with
    heq | ⟨_, hitem, driver, next, rfl⟩
  · exact .inl heq
  · exact .inr ⟨driver, next, noted_of_expands hexp hitem⟩

lemma invoke_consumed {s : Session} {entry : String} {inputs : List Tensor}
    {result : Except BridgeError (List Tensor) × Session}
    (run : ((s.invoke entry inputs).expand (perform renders)).Runs trace result) :
    ∃ failures, Consumed renders trace failures ∧ ∀ f ∈ failures, result.1 = .error f.error := by
  obtain ⟨outer, houter, hexp⟩ := Program.runs_expand_iff.1 run
  obtain ⟨failures, haccounted, herrors⟩ := accounted_of_expands hexp
  refine ⟨failures, haccounted.consumed, fun f hf => ?_⟩
  obtain ⟨op, reply, hmem, he⟩ := herrors f hf
  exact Session.invoke_surfaces houter hmem he

/-- Nothing fails when a session is destroyed. -/
lemma destroy_consumed {s : Session} (run : (s.destroy.expand (perform renders)).Runs trace ()) :
    Consumed renders trace [] := by
  obtain ⟨outer, houter, hexp⟩ := Program.runs_expand_iff.1 run
  obtain ⟨failures, haccounted, herrors⟩ := accounted_of_expands hexp
  have hnone : failures = [] := by
    refine List.eq_nil_iff_forall_not_mem.2 fun f hf => ?_
    obtain ⟨op, reply, hmem, he⟩ := herrors f hf
    rw [Session.failure?_eq_none s.destroy_infallible houter hmem] at he
    cases he
  rw [hnone] at haccounted
  exact haccounted.consumed

end Results

open Session (Entry Alive History)

lemma calls_stamped {session operation : Nat} {trace : List (Entry Native)}
    {items : List (Item Native)} :
    Program.calls ((trace ++ Session.stamped session operation items).map Prod.snd) =
      Program.calls (trace.map Prod.snd) ++ Program.calls items := by
  rw [List.map_append, Program.calls_append]
  simp [Session.stamped, Function.comp_def]

/-- Whatever operations follow one another, their failures do. -/
lemma history_accounted {n : Nat} {trace : List (Entry Native)} {live : List Alive}
    (h : History (fun _ p => p.expand (perform renders)) n trace live) :
    ∃ failures, Accounted renders (Program.calls (trace.map Prod.snd)) failures := by
  induction h with
  | start => exact ⟨[], .nil⟩
  | create _ run ih =>
    obtain ⟨failures, hbefore⟩ := ih
    obtain ⟨more, hconsumed, -⟩ := create_consumed run
    rw [calls_stamped]
    exact ⟨failures ++ more, hbefore.append hconsumed.accounted⟩
  | invoke _ run ih =>
    obtain ⟨failures, hbefore⟩ := ih
    obtain ⟨more, hconsumed, -⟩ := invoke_consumed run
    rw [calls_stamped]
    exact ⟨failures ++ more, hbefore.append hconsumed.accounted⟩
  | destroy _ run ih =>
    obtain ⟨failures, hbefore⟩ := ih
    rw [calls_stamped]
    exact ⟨failures ++ [], hbefore.append (destroy_consumed run).accounted⟩

/-- **Statuses are consumed.**  In every history of sessions on the native functions, whatever these
reply, each status that is handed out is used up in the course of the failure that it tells about.
The error about a failure is the result of the operation that met it; what a session is asked to do
then fails with this error, except that a driver may be passed over with a notice. -/
theorem statuses_consumed (renders : Bool) :
    (∀ n trace live, History (fun _ p => p.expand (perform renders)) n trace live →
      ∃ failures, Consumed renders (trace.map Prod.snd) failures) ∧
    (∀ op trace reply, (perform renders op).Runs trace reply →
      ∃ failure : Option Failure, Consumed renders trace failure.toList ∧
        ∀ f ∈ failure, op.failure? reply = some f.error) ∧
    (∀ description image drivers trace r,
      ((Session.create description image drivers).run.expand (perform renders)).Runs trace r →
      ∃ failures, Consumed renders trace failures ∧ ∀ f ∈ failures, r = .error f.error ∨
        ∃ driver next, .noted (.driverUnavailable driver next f.error) ∈ trace) ∧
    (∀ (s : Session) entry inputs trace result,
      ((s.invoke entry inputs).expand (perform renders)).Runs trace result →
      ∃ failures, Consumed renders trace failures ∧
        ∀ f ∈ failures, result.1 = .error f.error) ∧
    ∀ (s : Session) trace, (s.destroy.expand (perform renders)).Runs trace () →
      Consumed renders trace [] := by
  refine ⟨?_, ?_, ?_, ?_, ?_⟩
  · intro n trace live h
    obtain ⟨failures, haccounted⟩ := history_accounted h
    exact ⟨failures, haccounted.consumed⟩
  · intro op trace reply run
    obtain ⟨failure, haccounted, herror⟩ := perform_settles op ⟨trace, run, rfl⟩
    exact ⟨failure, haccounted.consumed, herror⟩
  · exact fun _ _ _ _ _ => create_consumed
  · exact fun _ _ _ _ _ => invoke_consumed
  · exact fun _ _ => destroy_consumed

/-- The list refuses the one input, and the library says why. -/
def refusingAloud : List (Item Native) :=
  [replied (.createList anyListType 1 .system) ⟨none, some 4⟩,
    replied (.createList anyListType 4 .system) ⟨none, some 5⟩,
    replied (.sessionDevice 3) (some 2),
    replied (.sessionAllocator 3) (some 6),
    replied (.allocateView (some 2) (some 6) [] ElementType.i32.toNative denseRowMajor
      .deviceLocal [1, 0, 0, 0]) ⟨none, some 10⟩,
    replied (.viewReference 10) (some 11),
    replied (.pushReference 4 (some 11)) ⟨some 8, some 11⟩,
    replied (.releaseReference 11) (),
    replied (.renderStatus 8 .system) (.buffer 12 [102, 117, 108, 108]),
    replied (.free .system 12) (),
    replied (.freeStatus 8) (),
    replied (.releaseList 5) (),
    replied (.releaseList 4) ()]

/-- There is no instance, and the library cannot say why. -/
def refusedQuietly : List (Item Native) :=
  [replied (.fillInstanceOptions {}) ⟨true, false⟩,
    replied (.useAllDrivers ⟨true, false⟩) ⟨true, true⟩,
    replied (.createInstance ⟨true, true⟩ .system) ⟨some 0x1025, none⟩,
    replied (.freeStatus 0x1025) ()]

/-- There is no memory for a module, and the status has a number that is none of a code. -/
def uncopied : List (Item Native) :=
  [replied (.malloc .system 3) ⟨some 0xfff, none⟩, replied (.freeStatus 0xfff) ()]

theorem statuses_consumed_refusing :
    handedOut refusingAloud = [8] ∧
      (∃ failures, Consumed true refusingAloud failures ∧ ∀ f ∈ failures,
        (.error (.status "iree_vm_list_push_ref_move" .resourceExhausted "full") :
          Except BridgeError (List Tensor)) = .error f.error) ∧
      (∃ failures, Consumed true
        ((Session.stamped 0 0 making ++ Session.stamped 0 1 refusingAloud).map Prod.snd)
        failures) ∧
      handedOut refusedQuietly = [0x1025] ∧
      (∃ failures, Consumed false refusedQuietly failures ∧ ∀ f ∈ failures,
        (.error (.status "iree_runtime_instance_create" .notFound "IREE status error") :
          Except BridgeError Session) = .error f.error ∨
        ∃ driver next, .noted (.driverUnavailable driver next f.error) ∈ refusedQuietly) ∧
      handedOut uncopied = [0xfff] ∧
      ∃ failure : Option Failure, Consumed false uncopied failure.toList ∧ ∀ f ∈ failure,
        some (.resourceExhausted ("copying 3 module bytes: iree_allocator_malloc failed " ++
          "(UNKNOWN): IREE status error")) = some f.error := by
  have hmaking : ((Session.create "runtime" [7] ["local-sync"]).run.expand (perform true)).Runs
      making (.ok made) := by decide
  have hrefusing : ((made.invoke "main" [⟨.i32, [], [1, 0, 0, 0]⟩]).expand (perform true)).Runs
      refusingAloud
      (.error (.status "iree_vm_list_push_ref_move" .resourceExhausted "full"), made) := by
    decide +kernel
  have hquiet : ((Session.create "runtime" [7] ["local-sync"]).run.expand (perform false)).Runs
      refusedQuietly
      (.error (.status "iree_runtime_instance_create" .notFound "IREE status error")) := by
    decide
  have huncopied : (perform false (.appendModule ⟨3⟩ [7, 7, 7])).Runs uncopied
      (.error (.resourceExhausted ("copying 3 module bytes: iree_allocator_malloc failed " ++
        "(UNKNOWN): IREE status error"))) := by
    decide +kernel
  have hstart : History (fun _ p => p.expand (perform true)) 0 [] [] := .start
  have hopen : History (fun _ p => p.expand (perform true)) 1 (Session.stamped 0 0 making)
      ([] ++ ⟨0, made⟩ :: []) := hstart.create hmaking
  have hist := hopen.invoke hrefusing
  obtain ⟨hhistory, -, -, hinvoke, -⟩ := statuses_consumed true
  obtain ⟨-, hperform, hcreate, -, -⟩ := statuses_consumed false
  exact ⟨rfl, hinvoke made "main" _ _ _ hrefusing, hhistory _ _ _ hist, rfl,
    hcreate _ _ _ _ _ hquiet, rfl, hperform _ _ _ huncopied⟩

end Native

end TensorBridge
