import Mathlib
import TensorBridge.Proofs.Native.Ledger
import TensorBridge.Proofs.Program.Replay

/-!
# Conservation of native things

What the ledger means for the traces of native calls that sessions leave behind.  Things are
counted, each with the one for whom it was obtained, so nothing is assumed about the addresses that
the native runtime hands out.

* `Native.history_conserved`: in every history of sessions on a native runtime that keeps the rules
  of ownership, a function is given only what has been obtained and not yet been disposed of by the
  same owner; what has been obtained is what has been disposed of and the handles of the sessions
  that are alive.  An attempt to make an instance that fails disposes of all it has obtained.
-/

namespace TensorBridge

open Native (Thing Ledger)

namespace Program.Item

/-- What a call is given and has to be there. -/
def uses : Item Native → List Thing
  | .called op _ => op.uses
  | .noted _ => []

/-- What a call disposes of. -/
def disposes : Item Native → List Thing
  | .called op reply => op.disposes reply
  | .noted _ => []

/-- What a call hands out. -/
def obtains : Item Native → List Thing
  | .called op reply => op.obtains reply
  | .noted _ => []

/-- The reply of a call keeps the rules of ownership. -/
def Ruled : Item Native → Prop
  | .called op reply => op.Ruled reply
  | .noted _ => True

instance : DecidablePred Ruled
  | .called op reply => inferInstanceAs (Decidable (op.Ruled reply))
  | .noted _ => isTrue trivial

end Program.Item

/-- A call disposes of nothing, or of one thing that it is given. -/
lemma NativeOp.disposes_cases (op : NativeOp) (reply : op.Reply) :
    op.disposes reply = [] ∨ ∃ thing ∈ op.uses, op.disposes reply = [thing] := by
  cases op with
  | pushReference list reference =>
    rcases reply with ⟨_ | word, left⟩
    · rcases reference with _ | r
      · exact .inl rfl
      · exact .inr ⟨.reference r, by simp [uses], rfl⟩
    · exact .inl rfl
  | _ => simp [disposes, uses]

namespace Native

open Session (Entry Stamp Alive History)

variable {trace before after : List (Entry Native)} {e : Entry Native} {live : List Alive}
  {renders : Bool}

/-- All that has been obtained, each thing with the one for whom it is. -/
def obtained (trace : List (Entry Native)) : Ledger :=
  ↑(trace.flatMap fun e => e.2.obtains.map e.1.tag)

/-- All that has been disposed of, each thing with the one for whom it was. -/
def disposed (trace : List (Entry Native)) : Ledger :=
  ↑(trace.flatMap fun e => e.2.disposes.map e.1.tag)

lemma obtained_snoc :
    obtained (trace ++ [e]) = obtained trace + ↑(e.2.obtains.map e.1.tag) := by
  simp [obtained]

lemma disposed_snoc :
    disposed (trace ++ [e]) = disposed trace + ↑(e.2.disposes.map e.1.tag) := by
  simp [disposed]

/-! ## The ledger and the trace -/

lemma step_eq (ledger : Ledger) (e : Entry Native) :
    Watch.step watch ledger e =
      ledger - ↑(e.2.disposes.map e.1.tag) + ↑(e.2.obtains.map e.1.tag) := by
  rcases e with ⟨stamp, ⟨op, reply⟩ | n⟩
  · rfl
  · simp [Watch.step, Program.Item.disposes, Program.Item.obtains]

/-- What an allowed call is given is in the ledger. -/
lemma mem_of_uses {ledger : Ledger} (hpermits : Watch.Permits watch ledger e) {thing : Thing}
    (huses : thing ∈ e.2.uses) : e.1.tag thing ∈ ledger := by
  rcases e with ⟨stamp, ⟨op, reply⟩ | n⟩
  · exact hpermits thing huses
  · simp [Program.Item.uses] at huses

/-- What an allowed call disposes of is in the ledger. -/
lemma disposes_le {ledger : Ledger} (hpermits : Watch.Permits watch ledger e) :
    (↑(e.2.disposes.map e.1.tag) : Ledger) ≤ ledger := by
  rcases e with ⟨stamp, ⟨op, reply⟩ | n⟩
  · rcases op.disposes_cases reply with hnone | ⟨thing, huses, hone⟩
    · simp [Program.Item.disposes, hnone]
    · simpa [Program.Item.disposes, hone] using mem_of_uses hpermits huses
  · simp [Program.Item.disposes]

/-- **The ledger of a trace** holds what has been obtained and not been disposed of. -/
theorem obtained_eq (hall : Watch.PermitsAll watch 0 trace) :
    obtained trace = disposed trace + Watch.books watch 0 trace := by
  induction trace using List.reverseRecOn with
  | nil => rfl
  | append_singleton trace e ih =>
    obtain ⟨hall, hpermits, -⟩ := Watch.throughout_append.1 hall
    rw [Watch.books_append, Watch.books_cons, Watch.books_nil, step_eq, obtained_snoc,
      disposed_snoc, ih hall]
    -- What the call disposes of moves from the ledger to the other side.
    have hback := add_tsub_cancel_of_le (disposes_le hpermits)
    generalize (↑(e.2.disposes.map e.1.tag) : Ledger) = gone at hback ⊢
    calc disposed trace + Watch.books watch 0 trace + ↑(e.2.obtains.map e.1.tag)
        = disposed trace + (gone + (Watch.books watch 0 trace - gone)) +
            ↑(e.2.obtains.map e.1.tag) := by rw [hback]
      _ = disposed trace + gone +
            (Watch.books watch 0 trace - gone + ↑(e.2.obtains.map e.1.tag)) := by
          simp only [add_assoc]

/-- What a call is given has been obtained more often than disposed of. -/
lemma count_lt_of_uses (hall : Watch.PermitsAll watch 0 (before ++ e :: after)) {thing : Thing}
    (huses : thing ∈ e.2.uses) :
    (disposed before).count (e.1.tag thing) < (obtained before).count (e.1.tag thing) := by
  obtain ⟨hbefore, hpermits, -⟩ := Watch.throughout_append.1 hall
  have hcount := congrArg (Multiset.count (e.1.tag thing)) (obtained_eq hbefore)
  rw [Multiset.count_add] at hcount
  have hpos := Multiset.count_pos.2 (mem_of_uses hpermits huses)
  omega

/-- The rules of ownership are what the watch expects. -/
lemma admitsAll_of_ruled {ledger : Ledger} (h : ∀ e ∈ trace, e.2.Ruled) :
    Watch.AdmitsAll watch ledger trace :=
  Watch.throughout_of_forall fun e he _ => by
    have hruled := h e he
    rcases e with ⟨stamp, _ | _⟩ <;> exact hruled

/-! ## Histories -/

/-- The things that sessions own while they are alive. -/
def owned (live : List Alive) : Ledger :=
  ↑(live.flatMap fun a => a.session.handles.map fun h => (Holder.session a.number, Thing.handle h))

lemma carried_custodyOf (live : List Alive) : carried (Session.custodyOf live) = owned live := by
  induction live with
  | nil => rfl
  | cons a rest ih =>
    have hcons : Session.custodyOf (a :: rest) =
      a.session.custody a.number + Session.custodyOf rest := rfl
    rw [hcons, carried, Multiset.map_add, ← carried, ← carried, ih, owned, owned,
      List.flatMap_cons, ← Multiset.coe_add]
    simp [carried, Session.custody, Function.comp_def]

/-- Every operation of a session leaves in the ledger the handles of the sessions alive, and nothing
else. -/
theorem ledger_keeper : Session.Keeper (fun _ p => p.expand (perform renders)) watch
    fun ledger live =>
      ∃ c : Custody, ledger = carried c.held ∧ c.held = Session.custodyOf live := by
  refine Session.Keeper.expand (fun stamp op c ledger hrel hallows => ?_) Session.custody_keeper
  subst hrel
  exact (perform_keeps hallows).mono fun r ledger' h => ⟨trivial, h⟩

/-- Conservation, for a trace after which these sessions are alive. -/
structure Conserved (trace : List (Entry Native)) (live : List Alive) : Prop where
  /-- What a call is given has been obtained by the same owner and has not been disposed of. -/
  inHand : ∀ before e after, trace = before ++ e :: after → ∀ thing ∈ e.2.uses,
    (disposed before).count (e.1.tag thing) < (obtained before).count (e.1.tag thing)
  /-- What has been obtained has been disposed of as often, or belongs to a session alive. -/
  balanced : obtained trace = disposed trace + owned live
  /-- What was obtained for an operation or for a session that is gone has been disposed of. -/
  settled : ∀ owner thing, (∀ a ∈ live, owner ≠ .session a.number) →
    (disposed trace).count (owner, thing) = (obtained trace).count (owner, thing)
  /-- A list that a push has moved a reference into is released later in the same operation, and
  with it the reference. -/
  dropped : ∀ before e after, trace = before ++ e :: after → ∀ list reference left,
    e.2 = .called (.pushReference list reference) ⟨none, left⟩ →
    ∃ x ∈ after, x.1.operation = e.1.operation ∧ x.2 = .called (.releaseList list) ()

/-- What does not belong to a session alive has been disposed of as often as obtained. -/
lemma count_eq_of_balanced (hbalanced : obtained trace = disposed trace + owned live)
    {owner : Holder} {thing : Thing} (howner : ∀ a ∈ live, owner ≠ .session a.number) :
    (disposed trace).count (owner, thing) = (obtained trace).count (owner, thing) := by
  have hnone : (owned live).count (owner, thing) = 0 := by
    rw [Multiset.count_eq_zero, owned, Multiset.mem_coe, List.mem_flatMap]
    rintro ⟨a, ha, hmem⟩
    obtain ⟨h, -, heq⟩ := List.mem_map.1 hmem
    exact howner a ha (congrArg Prod.fst heq).symm
  rw [hbalanced, Multiset.count_add, hnone, add_zero]

/-- What a call is given that does not belong to a session alive is disposed of by this call or a
later one. -/
lemma exists_disposes_of_uses (hall : Watch.PermitsAll watch 0 (before ++ e :: after))
    {thing : Thing} (huses : thing ∈ e.2.uses)
    (hsettled : (disposed (before ++ e :: after)).count (e.1.tag thing) =
      (obtained (before ++ e :: after)).count (e.1.tag thing)) :
    ∃ x ∈ e :: after, thing ∈ x.2.disposes ∧ x.1.tag thing = e.1.tag thing := by
  have hlt := count_lt_of_uses hall huses
  have hobtained : obtained (before ++ e :: after) = obtained before + obtained (e :: after) := by
    simp only [obtained, List.flatMap_append, Multiset.coe_add]
  have hdisposed : disposed (before ++ e :: after) = disposed before + disposed (e :: after) := by
    simp only [disposed, List.flatMap_append, Multiset.coe_add]
  rw [hobtained, hdisposed, Multiset.count_add, Multiset.count_add] at hsettled
  have hpos : 0 < (disposed (e :: after)).count (e.1.tag thing) := by omega
  obtain ⟨x, hx, hmem⟩ := List.mem_flatMap.1 (Multiset.mem_coe.1 (Multiset.count_pos.1 hpos))
  obtain ⟨thing', hdisposes, heq⟩ := List.mem_map.1 hmem
  obtain rfl : thing' = thing := congrArg Prod.snd heq
  exact ⟨x, hx, hdisposes, heq⟩

/-- Only its release function disposes of a list. -/
lemma eq_releaseList_of_disposes {item : Program.Item Native} {list : Nat}
    (h : .handle ⟨.list, list⟩ ∈ item.disposes) : item = .called (.releaseList list) () := by
  rcases item with ⟨op, reply⟩ | n
  · rcases op.disposes_cases reply with hnone | ⟨thing, -, hone⟩
    · simp [Program.Item.disposes, hnone] at h
    · cases op <;> simp_all [Program.Item.disposes, NativeOp.disposes]
  · simp [Program.Item.disposes] at h

/-- The lists that references are moved into are released later. -/
lemma exists_releaseList (hall : Watch.PermitsAll watch 0 trace)
    (hbalanced : obtained trace = disposed trace + owned live)
    (htrace : trace = before ++ e :: after)
    {list : Nat} {reference left : Option Nat}
    (he : e.2 = .called (.pushReference list reference) ⟨none, left⟩) :
    ∃ x ∈ after, x.1.operation = e.1.operation ∧ x.2 = .called (.releaseList list) () := by
  subst htrace
  have huses : .handle ⟨.list, list⟩ ∈ e.2.uses := by
    simp [he, Program.Item.uses, NativeOp.uses]
  have hsettled : (disposed (before ++ e :: after)).count (e.1.tag (.handle ⟨.list, list⟩)) =
      (obtained (before ++ e :: after)).count (e.1.tag (.handle ⟨.list, list⟩)) :=
    count_eq_of_balanced hbalanced (by simp [Stamp.owner, Stamp.holder])
  obtain ⟨x, hx, hdisposes, htag⟩ := exists_disposes_of_uses hall huses hsettled
  have hrelease := eq_releaseList_of_disposes hdisposes
  rcases List.mem_cons.1 hx with rfl | hx
  -- The push itself is no release.
  · rw [he] at hrelease
    cases hrelease
  · refine ⟨x, hx, ?_, hrelease⟩
    simpa [Stamp.tag, Stamp.owner, Stamp.holder] using htag

/-- **Native things are conserved** in every history of sessions, whatever the native functions
reply and whenever they fail, as long as the replies keep the rules of ownership; and an attempt to
make an instance that fails has disposed of all that it obtained when it returns. -/
theorem history_conserved (renders : Bool) :
    (∀ n trace live, History (fun _ p => p.expand (perform renders)) n trace live →
      (∀ e ∈ trace, e.2.Ruled) → Conserved trace live) ∧
    ∀ stamp items failure, (createInstance renders).run.Runs items (.error failure) →
      (∀ item ∈ items, item.Ruled) →
      obtained (items.map (stamp, ·)) = disposed (items.map (stamp, ·)) := by
  refine ⟨fun n trace live hist hruled => ?_, fun stamp items failure hruns hruled => ?_⟩
  · have hstart : ∃ c : Custody, (0 : Ledger) = carried c.held ∧ c.held = Session.custodyOf [] :=
      ⟨{}, rfl, rfl⟩
    obtain ⟨hall, c, hbooks, hheld⟩ :=
      hist.keeps ledger_keeper hstart (admitsAll_of_ruled hruled)
    have hbalanced : obtained trace = disposed trace + owned live := by
      rw [obtained_eq hall, hbooks, hheld, carried_custodyOf]
    refine ⟨?_, hbalanced, fun _ _ => count_eq_of_balanced hbalanced, ?_⟩
    · rintro before e after rfl thing huses
      exact count_lt_of_uses hall huses
    · intro before e after htrace list reference left he
      exact exists_releaseList hall hbalanced htrace he
  · have hkeeps : (createInstance renders).run.Keeps (watch stamp) 0 _ := createInstance_meets
    obtain ⟨hall, hbooks⟩ := hkeeps.of_runs hruns (admitsAll_of_ruled (by simpa using hruled))
    rw [obtained_eq hall, hbooks, add_zero]

/-- A native call with its reply. -/
def replied (op : NativeOp) (reply : op.Reply) : Program.Item Native := .called op reply

/-- An instance is there, but its virtual machine is not. -/
def machineless : List (Program.Item Native) :=
  [replied (.fillInstanceOptions {}) ⟨true, false⟩,
    replied (.useAllDrivers ⟨true, false⟩) ⟨true, true⟩,
    replied (.createInstance ⟨true, true⟩ .system) ⟨none, some 1⟩,
    replied (.vmInstance 1) none,
    replied (.releaseInstance 1) ()]

/-- A session is made. -/
def making : List (Program.Item Native) :=
  [replied (.fillInstanceOptions {}) ⟨true, false⟩,
    replied (.useAllDrivers ⟨true, false⟩) ⟨true, true⟩,
    replied (.createInstance ⟨true, true⟩ .system) ⟨none, some 1⟩,
    replied (.vmInstance 1) (some 9),
    replied (.registerTypes 9) none,
    replied (.resolveTypes 9) none,
    replied (.createDevice 1 "local-sync") ⟨none, some 2⟩,
    replied (.fillSessionOptions {}) ⟨true⟩,
    replied (.hostAllocator 1) .ofInstance,
    replied (.createSession 1 ⟨true⟩ 2 .ofInstance) ⟨none, some 3⟩,
    replied (.malloc .system 1) ⟨none, some 7⟩,
    replied (.appendModule 3 [7] .system) none,
    .noted (.moduleLoaded "runtime" "local-sync" 1)]

/-- The list refuses the one input. -/
def refusing : List (Program.Item Native) :=
  [replied (.createList anyListType 1 .system) ⟨none, some 4⟩,
    replied (.createList anyListType 4 .system) ⟨none, some 5⟩,
    replied (.sessionDevice 3) (some 2),
    replied (.sessionAllocator 3) (some 6),
    replied (.allocateView (some 2) (some 6) [] ElementType.i32.toNative denseRowMajor
      .deviceLocal [1, 0, 0, 0]) ⟨none, some 10⟩,
    replied (.viewReference 10) (some 11),
    replied (.pushReference 4 (some 11)) ⟨some 8, some 11⟩,
    replied (.releaseReference 11) (),
    replied (.freeStatus 8) (),
    replied (.releaseList 5) (),
    replied (.releaseList 4) ()]

/-- The session that is made. -/
def made : Session := ⟨⟨1⟩, ⟨2⟩, ⟨3⟩, "local-sync", .moduleLoaded, 0⟩

theorem conserved_refusing :
    Conserved (Session.stamped 0 0 making ++ Session.stamped 0 1 refusing) [⟨0, made⟩] ∧
      obtained (machineless.map (Stamp.mk 0 0, ·)) =
        disposed (machineless.map (Stamp.mk 0 0, ·)) := by
  have hmaking : ((Session.create "runtime" [7] ["local-sync"]).run.expand (perform false)).Runs
      making (.ok made) := by decide
  have hrefusing : ((made.invoke "main" [⟨.i32, [], [1, 0, 0, 0]⟩]).expand
      (perform false)).Runs refusing
      (.error (.status "iree_vm_list_push_ref_move" .resourceExhausted "IREE status error"),
        made) := by decide
  have hmachineless : (createInstance false).run.Runs machineless
      (.error (.status "iree_runtime_instance_vm_instance" .internal
        "runtime returned a null handle")) := by decide
  have hstart : History (fun _ p => p.expand (perform false)) 0 [] [] := .start
  have hopen : History (fun _ p => p.expand (perform false)) 1 (Session.stamped 0 0 making)
      ([] ++ ⟨0, made⟩ :: []) := hstart.create hmaking
  have hist := hopen.invoke hrefusing
  refine ⟨(history_conserved false).1 _ _ _ hist ?_, ?_⟩
  · decide
  · exact (history_conserved false).2 _ _ _ hmachineless (by decide)

end Native

end TensorBridge
