import Mathlib
import TensorBridge.Proofs.Program.Replay
import TensorBridge.Proofs.Session.Custody

/-!
# The discipline of handles

What the books of `Custody` mean for the trace itself.  A handle is in hand for someone if a call
made on his behalf has handed it out and no call has given it back since; a view is on loan if a
list has lent it and has not been given back since.

The runtime may answer as it likes, but a handle that it hands out must not be one that is
unreleased (`Session.Fresh`).

* `Session.history_disciplined`: in every history, every operation is given only handles that are
  in hand for the session or the invocation on whose behalf it is called, and looks only at views
  on loan; every handle that is handed out is given back exactly once, or belongs to a session
  that is alive; and what is unreleased are the three handles of every session alive.
-/

namespace TensorBridge

namespace Program.Item

/-- The handles that a call is given and that have to be held for it. -/
def passed : Item Backend → List AnyHandle
  | .called op _ => op.passed
  | .noted _ => []

/-- The view on loan that a call looks at. -/
def looksAt? : Item Backend → Option (Handle .view)
  | .called op _ => op.looksAt?
  | .noted _ => none

/-- The handle that a call gives back or uses up. -/
def givesBack? : Item Backend → Option AnyHandle
  | .called op _ => op.givesBack?
  | .noted _ => none

/-- The handle that a call hands out. -/
def obtains? : Item Backend → Option AnyHandle
  | .called op reply => op.obtains? reply
  | .noted _ => none

/-- The view that a call lends, with its list. -/
def lends? : Item Backend → Option (Handle .list × Handle .view)
  | .called op reply => op.lends? reply
  | .noted _ => none

lemma mem_passed_of_givesBack? {item : Item Backend} {h : AnyHandle}
    (hitem : item.givesBack? = some h) : h ∈ item.passed := by
  cases item with
  | called op reply => exact BackendOp.mem_passed_of_givesBack? hitem
  | noted n => cases hitem

end Program.Item

/-- Something with `P` happened, and nothing with `Q` since. -/
def Since {α : Type} (P Q : α → Prop) (trace : List α) : Prop :=
  ∃ before e after, trace = before ++ e :: after ∧ P e ∧ ∀ x ∈ after, ¬ Q x

/-- A place in a trace with one more element at the end is the end or a place in the trace. -/
lemma snoc_eq_split_iff {α : Type} {trace before after : List α} {e x : α} :
    trace ++ [e] = before ++ x :: after ↔
      (before = trace ∧ x = e ∧ after = []) ∨
        ∃ init, after = init ++ [e] ∧ trace = before ++ x :: init := by
  constructor
  · intro h
    rcases List.eq_nil_or_concat after with rfl | ⟨init, last, rfl⟩
    -- Nothing comes after the place, so it is the end.
    · obtain ⟨rfl, hx⟩ := List.append_inj' h rfl
      exact .inl ⟨rfl, by simpa using hx.symm, rfl⟩
    · have h' : trace ++ [e] = (before ++ x :: init) ++ [last] := by simpa using h
      obtain ⟨rfl, hx⟩ := List.append_inj' h' rfl
      have hlast : e = last := by simpa using hx
      exact .inr ⟨init, by simp [hlast], rfl⟩
  · rintro (⟨rfl, rfl, rfl⟩ | ⟨init, rfl, rfl⟩) <;> simp

/-- If there is a place with `P`, then there is a first one. -/
lemma exists_first {α : Type} {P : α → Prop} {trace : List α} (h : ∃ x ∈ trace, P x) :
    ∃ before x after, trace = before ++ x :: after ∧ P x ∧ ∀ y ∈ before, ¬ P y := by
  induction trace with
  | nil => simp at h
  | cons first rest ih =>
    by_cases hfirst : P first
    · exact ⟨[], first, rest, rfl, hfirst, by simp⟩
    · obtain ⟨before, x, after, rfl, hx, hbefore⟩ := ih (by simpa [hfirst] using h)
      exact ⟨first :: before, x, after, rfl, hx, by simpa [hfirst] using hbefore⟩

lemma not_since_nil {α : Type} {P Q : α → Prop} : ¬ Since P Q [] := by
  rintro ⟨before, e, after, h, -⟩
  simp at h

lemma since_snoc {α : Type} {P Q : α → Prop} {trace : List α} {e : α} :
    Since P Q (trace ++ [e]) ↔ P e ∨ Since P Q trace ∧ ¬ Q e := by
  constructor
  · rintro ⟨before, x, after, h, hP, hQ⟩
    rcases snoc_eq_split_iff.1 h with ⟨rfl, rfl, rfl⟩ | ⟨init, rfl, rfl⟩
    · exact .inl hP
    · exact .inr ⟨⟨before, x, init, rfl, hP, fun y hy => hQ y (by simp [hy])⟩, hQ e (by simp)⟩
  · rintro (hP | ⟨⟨before, x, after, rfl, hP, hQ⟩, hQe⟩)
    · exact ⟨trace, e, [], rfl, hP, by simp⟩
    · refine ⟨before, x, after ++ [e], by simp, hP, fun y hy => ?_⟩
      rcases List.mem_append.1 hy with hy | hy
      · exact hQ y hy
      · rwa [List.mem_singleton.1 hy]

/-- What ended must have begun anew. -/
lemma Since.exists_of_ended {α : Type} {P Q : α → Prop} {before after : List α} {e : α}
    (h : Since P Q (before ++ e :: after)) (hQ : Q e) (hP : ¬ P e) : ∃ x ∈ after, P x := by
  induction after using List.reverseRecOn with
  | nil =>
    rcases since_snoc.1 h with hPe | ⟨-, hQe⟩
    · exact absurd hPe hP
    · exact absurd hQ hQe
  | append_singleton after last ih =>
    rw [← List.cons_append, ← List.append_assoc, since_snoc] at h
    rcases h with hlast | ⟨hbefore, -⟩
    · exact ⟨last, by simp, hlast⟩
    · obtain ⟨x, hx, hPx⟩ := ih hbefore
      exact ⟨x, by simp [hx], hPx⟩

namespace Session

/-- A handle is in hand for a holder: it was handed out on his behalf and was not given back since,
on whoever's behalf. -/
def InHand (trace : List (Entry Backend)) (holder : Holder) (h : AnyHandle) : Prop :=
  Since (fun e => e.1.holder h.kind = holder ∧ e.2.obtains? = some h)
    (fun e => e.2.givesBack? = some h) trace

/-- A view is on loan to an operation: a list lent it and was not given back since. -/
def OnLoan (trace : List (Entry Backend)) (operation : Nat) (view : Handle .view) : Prop :=
  ∃ list, Since (fun e => e.1.operation = operation ∧ e.2.lends? = some (list, view))
    (fun e => e.2.givesBack? = some list.any) trace

/-- The handles that have been handed out and not been given back since. -/
def unreleased (trace : List (Entry Backend)) : List AnyHandle :=
  trace.foldl
    (fun held e => e.2.obtains?.toList ++ held.filter fun h => e.2.givesBack? ≠ some h) []

/-- No handle is handed out while it is unreleased. -/
def Fresh (trace : List (Entry Backend)) : Prop :=
  ∀ before e after, trace = before ++ e :: after →
    ∀ h, e.2.obtains? = some h → h ∉ unreleased before

lemma fresh_snoc {trace : List (Entry Backend)} {e : Entry Backend} :
    Fresh (trace ++ [e]) ↔
      Fresh trace ∧ ∀ h, e.2.obtains? = some h → h ∉ unreleased trace := by
  constructor
  · intro hf
    refine ⟨fun before x after htrace => ?_, hf trace e [] rfl⟩
    exact hf before x (after ++ [e]) (by simp [htrace])
  · rintro ⟨hf, he⟩ before x after htrace
    rcases snoc_eq_split_iff.1 htrace with ⟨rfl, rfl, rfl⟩ | ⟨init, rfl, rfl⟩
    · exact he
    · exact hf before x init rfl

lemma fresh_iff_take {entries : List (Entry Backend)} :
    Fresh entries ↔ ∀ i < entries.length, ∀ h ∈ (entries[i]?.bind fun e => e.2.obtains?),
      h ∉ unreleased (entries.take i) := by
  constructor
  · intro hf i hi h hobtains
    rw [List.getElem?_eq_getElem hi] at hobtains
    refine hf (entries.take i) entries[i] (entries.drop (i + 1)) ?_ h hobtains
    rw [List.getElem_cons_drop, List.take_append_drop]
  · rintro hf before e after rfl h hobtains
    simpa using hf before.length (by simp) h (by simpa using hobtains)

instance : DecidablePred Fresh := fun _ => decidable_of_iff _ fresh_iff_take.symm

lemma unreleased_snoc {trace : List (Entry Backend)} {e : Entry Backend} :
    unreleased (trace ++ [e]) =
      e.2.obtains?.toList ++ (unreleased trace).filter fun h => e.2.givesBack? ≠ some h := by
  simp [unreleased]

lemma inHand_snoc {trace : List (Entry Backend)} {e : Entry Backend} {holder : Holder}
    {h : AnyHandle} :
    InHand (trace ++ [e]) holder h ↔
      (e.1.holder h.kind = holder ∧ e.2.obtains? = some h) ∨
        InHand trace holder h ∧ e.2.givesBack? ≠ some h :=
  since_snoc

/-! ## The books and the trace -/

/-- What a call does to the handles held: one is handed out, one is given back, or neither. -/
lemma held_step_cases (c : Custody) (e : Entry Backend) :
    (∃ h, e.2.obtains? = some h ∧ e.2.givesBack? = none ∧
        (Watch.step Custody.watch c e).held = (e.1.holder h.kind, h) ::ₘ c.held) ∨
      (∃ h, e.2.obtains? = none ∧ e.2.givesBack? = some h ∧ h ∈ e.2.passed ∧
        (Watch.step Custody.watch c e).held = c.held.erase (e.1.holder h.kind, h)) ∨
      (e.2.obtains? = none ∧ e.2.givesBack? = none ∧
        (Watch.step Custody.watch c e).held = c.held) := by
  rcases e with ⟨stamp, ⟨op, reply⟩ | n⟩
  -- Lending a view changes nothing about the handles held.
  · have hlend (c : Custody) :
        (((op.lends? reply).map fun loan => c.lend stamp loan.1 loan.2).getD c).held = c.held := by
      cases op.lends? reply <;> rfl
    rcases hobtains : op.obtains? reply with _ | h
    · rcases hback : op.givesBack? with _ | h
      · refine .inr (.inr ⟨hobtains, hback, ?_⟩)
        simp [Watch.step, Custody.watch, hobtains, hback, hlend]
      · refine .inr (.inl ⟨h, hobtains, hback, BackendOp.mem_passed_of_givesBack? hback, ?_⟩)
        simp [Watch.step, Custody.watch, hobtains, hback, hlend]
    · have hback := BackendOp.givesBack?_eq_none_of_obtains? hobtains
      refine .inl ⟨h, hobtains, hback, ?_⟩
      simp [Watch.step, Custody.watch, hobtains, hback, hlend]
  · exact .inr (.inr ⟨rfl, rfl, rfl⟩)

/-- What a call does to the views on loan. -/
lemma mem_lent_step {c : Custody} {e : Entry Backend} {loan : Nat × Handle .list × Handle .view}
    (h : loan ∈ (Watch.step Custody.watch c e).lent) :
    (e.1.operation = loan.1 ∧ e.2.lends? = some loan.2) ∨
      (loan ∈ c.lent ∧ e.2.givesBack? ≠ some loan.2.1.any) := by
  rcases e with ⟨stamp, ⟨op, reply⟩ | n⟩
  · have hback (h : loan ∈ ((op.givesBack?.map (c.remove stamp)).getD c).lent) :
        loan ∈ c.lent ∧ op.givesBack? ≠ some loan.2.1.any := by
      revert h
      rcases op.givesBack? with _ | given <;> intro h
      · exact ⟨h, by simp⟩
      · obtain ⟨hmem, hne⟩ := List.mem_filter.1 h
        exact ⟨hmem, fun heq => by simp [Option.some.inj heq] at hne⟩
    have hobtains (c : Custody) :
        (((op.obtains? reply).map (c.add stamp)).getD c).lent = c.lent := by
      cases op.obtains? reply <;> rfl
    simp only [Watch.step, Custody.watch] at h
    rcases hlends : op.lends? reply with _ | lent
    · rw [hlends] at h
      rw [Option.map_none, Option.getD_none, hobtains] at h
      exact .inr (hback h)
    · rw [hlends] at h
      rw [Option.map_some, Option.getD_some, Custody.lent_lend, List.mem_cons, hobtains] at h
      rcases h with rfl | h
      · exact .inl ⟨rfl, hlends⟩
      · exact .inr (hback h)
  · exact .inr ⟨h, by simp [Program.Item.givesBack?]⟩

/-- The books and the trace say the same. -/
structure Recorded (trace : List (Entry Backend)) (c : Custody) : Prop where
  held_iff : ∀ holder h, (holder, h) ∈ c.held ↔ InHand trace holder h
  unreleased_eq : (unreleased trace : Multiset AnyHandle) = c.held.map Prod.snd
  nodup : (unreleased trace).Nodup
  lent : ∀ operation list view, (operation, list, view) ∈ c.lent →
    Since (fun e => e.1.operation = operation ∧ e.2.lends? = some (list, view))
      (fun e => e.2.givesBack? = some list.any) trace

namespace Recorded

variable {trace : List (Entry Backend)} {c : Custody} {e : Entry Backend}

lemma nil : Recorded [] {} where
  held_iff holder h := by simp [InHand, not_since_nil]
  unreleased_eq := by simp [unreleased]
  nodup := by simp [unreleased]
  lent operation list view h := by simp at h

/-- A handle is held for one holder only. -/
lemma holder_unique (hr : Recorded trace c) {first second : Holder} {h : AnyHandle}
    (h₁ : (first, h) ∈ c.held) (h₂ : (second, h) ∈ c.held) : first = second := by
  have hnodup : (c.held.map Prod.snd).Nodup := by
    rw [← hr.unreleased_eq]
    exact Multiset.coe_nodup.2 hr.nodup
  exact congrArg Prod.fst (Multiset.inj_on_of_nodup_map hnodup _ h₁ _ h₂ rfl)

lemma mem_unreleased_iff (hr : Recorded trace c) {h : AnyHandle} :
    h ∈ unreleased trace ↔ ∃ holder, (holder, h) ∈ c.held := by
  rw [← Multiset.mem_coe, hr.unreleased_eq]
  simp

lemma nodup_held (hr : Recorded trace c) : c.held.Nodup := by
  refine Multiset.Nodup.of_map Prod.snd ?_
  rw [← hr.unreleased_eq]
  exact Multiset.coe_nodup.2 hr.nodup

/-- A handle that an allowed call is given is held. -/
lemma held_of_passed (hpermits : Watch.Permits Custody.watch c e) {h : AnyHandle}
    (hpassed : h ∈ e.2.passed) : (e.1.holder h.kind, h) ∈ c.held := by
  rcases e with ⟨stamp, ⟨op, reply⟩ | n⟩
  · exact hpermits.1 h hpassed
  · simp [Program.Item.passed] at hpassed

/-- A view that an allowed call looks at is on loan. -/
lemma lent_of_looksAt (hpermits : Watch.Permits Custody.watch c e) {view : Handle .view}
    (hlooks : view ∈ e.2.looksAt?) : ∃ list, (e.1.operation, list, view) ∈ c.lent := by
  rcases e with ⟨stamp, ⟨op, reply⟩ | n⟩
  · exact hpermits.2 view hlooks
  · simp [Program.Item.looksAt?] at hlooks

/-- A call that hands a handle out. -/
lemma snoc_obtains (hr : Recorded trace c) {h : AnyHandle} (hobtains : e.2.obtains? = some h)
    (hback : e.2.givesBack? = none) (hfresh : h ∉ unreleased trace) {c' : Custody}
    (hheld : c'.held = (e.1.holder h.kind, h) ::ₘ c.held) :
    (∀ holder x, (holder, x) ∈ c'.held ↔ InHand (trace ++ [e]) holder x) ∧
      (unreleased (trace ++ [e]) : Multiset AnyHandle) = c'.held.map Prod.snd ∧
      (unreleased (trace ++ [e])).Nodup := by
  have hunreleased : unreleased (trace ++ [e]) = h :: unreleased trace := by
    simp [unreleased_snoc, hobtains, hback]
  refine ⟨fun holder x => ?_, ?_, ?_⟩
  · rw [inHand_snoc, hheld, Multiset.mem_cons, hr.held_iff, hobtains, hback]
    constructor
    · rintro (heq | hold)
      · obtain ⟨rfl, rfl⟩ := Prod.mk.inj heq
        exact .inl ⟨rfl, rfl⟩
      · exact .inr ⟨hold, by simp⟩
    · rintro (⟨rfl, ⟨⟩⟩ | ⟨hold, -⟩)
      · exact .inl rfl
      · exact .inr hold
  · rw [hunreleased, hheld, Multiset.map_cons, ← hr.unreleased_eq, Multiset.cons_coe]
  · rw [hunreleased]
    exact List.nodup_cons.2 ⟨hfresh, hr.nodup⟩

/-- A call that gives a handle back. -/
lemma snoc_givesBack (hr : Recorded trace c) {h : AnyHandle} (hobtains : e.2.obtains? = none)
    (hback : e.2.givesBack? = some h) (hmem : (e.1.holder h.kind, h) ∈ c.held) {c' : Custody}
    (hheld : c'.held = c.held.erase (e.1.holder h.kind, h)) :
    (∀ holder x, (holder, x) ∈ c'.held ↔ InHand (trace ++ [e]) holder x) ∧
      (unreleased (trace ++ [e]) : Multiset AnyHandle) = c'.held.map Prod.snd ∧
      (unreleased (trace ++ [e])).Nodup := by
  -- As no handle is unreleased twice, it is the same to take one out and to take all of them out.
  have hunreleased : unreleased (trace ++ [e]) = (unreleased trace).erase h := by
    rw [unreleased_snoc, hr.nodup.erase_eq_filter, hobtains, hback]
    refine List.filter_congr fun x _ => ?_
    simp [bne, Bool.beq_eq_decide_eq, @eq_comm _ h]
  refine ⟨fun holder x => ?_, ?_, ?_⟩
  · rw [inHand_snoc, hheld, hr.nodup_held.mem_erase_iff, ← hr.held_iff, hobtains, hback]
    constructor
    · rintro ⟨hne, hold⟩
      refine .inr ⟨hold, ?_⟩
      rintro ⟨⟩
      exact hne (by rw [hr.holder_unique hold hmem])
    · rintro (⟨-, hnone⟩ | ⟨hold, hne⟩)
      · exact absurd hnone (by simp)
      · exact ⟨fun heq => hne (by cases heq; rfl), hold⟩
  · rw [hunreleased, hheld, Multiset.map_erase_of_mem _ _ hmem, ← hr.unreleased_eq,
      Multiset.coe_erase]
  · rw [hunreleased]
    exact hr.nodup.erase h

/-- Any other call. -/
lemma snoc_other (hr : Recorded trace c) (hobtains : e.2.obtains? = none)
    (hback : e.2.givesBack? = none) {c' : Custody} (hheld : c'.held = c.held) :
    (∀ holder x, (holder, x) ∈ c'.held ↔ InHand (trace ++ [e]) holder x) ∧
      (unreleased (trace ++ [e]) : Multiset AnyHandle) = c'.held.map Prod.snd ∧
      (unreleased (trace ++ [e])).Nodup := by
  have hunreleased : unreleased (trace ++ [e]) = unreleased trace := by
    simp [unreleased_snoc, hobtains, hback]
  refine ⟨fun holder x => ?_, ?_, ?_⟩
  · rw [hheld, hr.held_iff]
    simp [inHand_snoc, hobtains, hback]
  · rw [hunreleased, hheld, hr.unreleased_eq]
  · rw [hunreleased]
    exact hr.nodup

/-- **A call that the books allow** keeps the books and the trace together. -/
lemma snoc (hr : Recorded trace c) (hpermits : Watch.Permits Custody.watch c e)
    (hfresh : ∀ h, e.2.obtains? = some h → h ∉ unreleased trace) :
    Recorded (trace ++ [e]) (Watch.step Custody.watch c e) := by
  have hlent (operation : Nat) (list : Handle .list) (view : Handle .view)
      (h : (operation, list, view) ∈ (Watch.step Custody.watch c e).lent) :
      Since (fun e => e.1.operation = operation ∧ e.2.lends? = some (list, view))
        (fun e => e.2.givesBack? = some list.any) (trace ++ [e]) := by
    rw [since_snoc]
    rcases mem_lent_step h with hlends | ⟨hold, hback⟩
    · exact .inl hlends
    · exact .inr ⟨hr.lent operation list view hold, hback⟩
  rcases held_step_cases c e with
    ⟨h, hobtains, hback, hheld⟩ | ⟨h, hobtains, hback, hpassed, hheld⟩ |
    ⟨hobtains, hback, hheld⟩
  · obtain ⟨hiff, hunreleased, hnodup⟩ := hr.snoc_obtains hobtains hback (hfresh h hobtains) hheld
    exact ⟨hiff, hunreleased, hnodup, hlent⟩
  · have hmem : (e.1.holder h.kind, h) ∈ c.held := held_of_passed hpermits hpassed
    obtain ⟨hiff, hunreleased, hnodup⟩ := hr.snoc_givesBack hobtains hback hmem hheld
    exact ⟨hiff, hunreleased, hnodup, hlent⟩
  · obtain ⟨hiff, hunreleased, hnodup⟩ := hr.snoc_other hobtains hback hheld
    exact ⟨hiff, hunreleased, hnodup, hlent⟩

/-- **The books of a trace** say what the trace says. -/
theorem of_permitsAll (hall : Watch.PermitsAll Custody.watch {} trace) (hfresh : Fresh trace) :
    Recorded trace (Watch.books Custody.watch {} trace) := by
  induction trace using List.reverseRecOn with
  | nil => exact nil
  | append_singleton trace e ih =>
    obtain ⟨hall, hpermits, -⟩ := Watch.throughout_append.1 hall
    obtain ⟨hfresh, he⟩ := fresh_snoc.1 hfresh
    rw [Watch.books_append]
    exact (ih hall hfresh).snoc hpermits he

end Recorded

/-! ## The discipline -/

/-- A handle is given back once: by a call made for its holder, and never again unless it is handed
out anew. -/
def GivenBackOnce (holder : Holder) (h : AnyHandle) (trace : List (Entry Backend)) : Prop :=
  ∃ before e after, trace = before ++ e :: after ∧
    (∀ x ∈ before, x.2.givesBack? ≠ some h ∧ x.2.obtains? ≠ some h) ∧
    e.1.holder h.kind = holder ∧ e.2.givesBack? = some h ∧
    ∀ between x rest, after = between ++ x :: rest → x.2.givesBack? = some h →
      ∃ y ∈ between, y.2.obtains? = some h

/-- The discipline of handles, for a trace after which these sessions are alive. -/
structure Disciplined (trace : List (Entry Backend)) (live : List Alive) : Prop where
  /-- Every handle that a call is given is in hand for the session or the invocation. -/
  passed : ∀ before e after, trace = before ++ e :: after →
    ∀ h ∈ e.2.passed, InHand before (e.1.holder h.kind) h
  /-- Every view that a call looks at is on loan to the invocation. -/
  looksAt : ∀ before e after, trace = before ++ e :: after →
    ∀ view ∈ e.2.looksAt?, OnLoan before e.1.operation view
  /-- Every handle that is handed out is given back once, or it is one of a session alive and has
  not been given back. -/
  givenBack : ∀ before e after, trace = before ++ e :: after → ∀ h ∈ e.2.obtains?,
    GivenBackOnce (e.1.holder h.kind) h after ∨
      (∃ a ∈ live, e.1.holder h.kind = .session a.number ∧ h ∈ a.session.handles) ∧
        ∀ x ∈ after, x.2.givesBack? ≠ some h
  /-- What is unreleased are the handles of the sessions alive. -/
  unreleased : (unreleased trace).Perm (live.flatMap fun a => a.session.handles)
  /-- The handles of the sessions alive are all different. -/
  nodup : (live.flatMap fun a => a.session.handles).Nodup

section Sound

variable {trace before after : List (Entry Backend)} {e : Entry Backend} {h : AnyHandle}

lemma Fresh.of_append (hfresh : Fresh (before ++ after)) : Fresh before := by
  intro first e second hbefore
  exact hfresh first e (second ++ after) (by simp [hbefore])

/-- What one call hands out is in hand after it. -/
lemma inHand_of_obtains (hobtains : e.2.obtains? = some h)
    (hafter : ∀ x ∈ after, x.2.givesBack? ≠ some h) :
    InHand (before ++ e :: after) (e.1.holder h.kind) h :=
  ⟨before, e, after, rfl, ⟨rfl, hobtains⟩, hafter⟩

lemma obtains?_ne_of_givesBack? (hback : e.2.givesBack? = some h) : e.2.obtains? ≠ some h := by
  rcases e with ⟨stamp, ⟨op, reply⟩ | n⟩
  · intro hobtains
    have hnone := BackendOp.givesBack?_eq_none_of_obtains? hobtains
    rw [Program.Item.givesBack?, hnone] at hback
    cases hback
  · simp [Program.Item.obtains?]

/-- If the books allow every call, then every call is given only what is in hand. -/
lemma inHand_of_passed (hall : Watch.PermitsAll Custody.watch {} (before ++ e :: after))
    (hfresh : Fresh (before ++ e :: after)) (hpassed : h ∈ e.2.passed) :
    InHand before (e.1.holder h.kind) h := by
  obtain ⟨hbefore, hpermits, -⟩ := Watch.throughout_append.1 hall
  have hr := Recorded.of_permitsAll hbefore hfresh.of_append
  exact (hr.held_iff _ _).1 (Recorded.held_of_passed hpermits hpassed)

/-- If the books allow every call, then every call looks only at what is on loan. -/
lemma onLoan_of_looksAt (hall : Watch.PermitsAll Custody.watch {} (before ++ e :: after))
    (hfresh : Fresh (before ++ e :: after)) {view : Handle .view} (hlooks : view ∈ e.2.looksAt?) :
    OnLoan before e.1.operation view := by
  obtain ⟨hbefore, hpermits, -⟩ := Watch.throughout_append.1 hall
  have hr := Recorded.of_permitsAll hbefore hfresh.of_append
  obtain ⟨list, hlent⟩ := Recorded.lent_of_looksAt hpermits hlooks
  exact ⟨list, hr.lent _ _ _ hlent⟩

/-- While a handle is in hand, it is not handed out. -/
lemma obtains?_ne_of_inHand (hall : Watch.PermitsAll Custody.watch {} (before ++ e :: after))
    (hfresh : Fresh (before ++ e :: after)) {holder : Holder} (hhand : InHand before holder h) :
    e.2.obtains? ≠ some h := by
  intro hobtains
  have hr := Recorded.of_permitsAll (Watch.throughout_append.1 hall).1 hfresh.of_append
  refine hfresh before e after rfl h hobtains (hr.mem_unreleased_iff.2 ⟨holder, ?_⟩)
  exact (hr.held_iff holder h).2 hhand

/-- **A handle that is given back** is given back once, and by the one who holds it. -/
lemma givenBackOnce_of_givesBack (hall : Watch.PermitsAll Custody.watch {} (before ++ e :: after))
    (hfresh : Fresh (before ++ e :: after)) (hobtains : e.2.obtains? = some h)
    {x : Entry Backend} (hx : x ∈ after) (hback : x.2.givesBack? = some h) :
    GivenBackOnce (e.1.holder h.kind) h after := by
  -- The first call that gives it back is the one.
  have hex : ∃ y ∈ after, y.2.givesBack? = some h := ⟨x, hx, hback⟩
  obtain ⟨between, r, rest, rfl, hr, hbetween⟩ := exists_first hex
  have hhand (first second : List (Entry Backend)) (hsplit : between = first ++ second) :
      InHand (before ++ e :: first) (e.1.holder h.kind) h :=
    inHand_of_obtains hobtains fun y hy => hbetween y (by simp [hsplit, hy])
  refine ⟨between, r, rest, rfl, fun y hy => ⟨hbetween y hy, ?_⟩, ?_, hr, ?_⟩
  · obtain ⟨first, second, rfl⟩ := List.append_of_mem hy
    have hsplit : before ++ e :: (first ++ y :: second ++ r :: rest) =
        (before ++ e :: first) ++ y :: (second ++ r :: rest) := by simp
    rw [hsplit] at hall hfresh
    exact obtains?_ne_of_inHand hall hfresh (hhand first (y :: second) rfl)
  · have hsplit : before ++ e :: (between ++ r :: rest) =
        (before ++ e :: between) ++ r :: rest := by simp
    rw [hsplit] at hall hfresh
    have hheld := Recorded.of_permitsAll (Watch.throughout_append.1 hall).1 hfresh.of_append
    refine hheld.holder_unique ((hheld.held_iff _ h).2 ?_)
      ((hheld.held_iff _ h).2 (hhand between [] (by simp)))
    exact inHand_of_passed hall hfresh (Program.Item.mem_passed_of_givesBack? hr)
  -- A second call that gives it back must be given it, so it was handed out in between.
  · rintro between' y rest' rfl hy
    have hsplit : before ++ e :: (between ++ r :: (between' ++ y :: rest')) =
        ((before ++ e :: between) ++ r :: between') ++ y :: rest' := by simp
    rw [hsplit] at hall hfresh
    have hagain := inHand_of_passed hall hfresh (Program.Item.mem_passed_of_givesBack? hy)
    obtain ⟨z, hz, hobtained⟩ := Since.exists_of_ended hagain hr
      fun hcontra => obtains?_ne_of_givesBack? hr hcontra.2
    exact ⟨z, hz, hobtained.2⟩

end Sound

/-! ## Histories -/

lemma mem_custodyOf {live : List Alive} {holder : Holder} {h : AnyHandle} :
    (holder, h) ∈ custodyOf live ↔
      ∃ a ∈ live, holder = .session a.number ∧ h ∈ a.session.handles := by
  induction live with
  | nil => simp [custodyOf]
  | cons a rest ih =>
    have hcons : custodyOf (a :: rest) = a.session.custody a.number + custodyOf rest := rfl
    simp only [hcons, Multiset.mem_add, ih, custody, Multiset.mem_coe, List.mem_map,
      List.exists_mem_cons_iff, Prod.mk.injEq]
    refine or_congr_left ⟨?_, ?_⟩
    · rintro ⟨_, hmem, rfl, rfl⟩
      exact ⟨rfl, hmem⟩
    · rintro ⟨rfl, hmem⟩
      exact ⟨h, hmem, rfl, rfl⟩

lemma map_custodyOf (live : List Alive) :
    (custodyOf live).map Prod.snd = ↑(live.flatMap fun a => a.session.handles) := by
  induction live with
  | nil => rfl
  | cons a rest ih =>
    have hcons : custodyOf (a :: rest) = a.session.custody a.number + custodyOf rest := rfl
    rw [hcons, Multiset.map_add, ih, List.flatMap_cons, ← Multiset.coe_add]
    simp [custody, handles]

/-- **The discipline of handles** holds in every history of sessions, whatever the runtime answers
and whenever it fails, as long as it hands out no handle that is unreleased. -/
theorem history_disciplined {n : Nat} {trace : List (Entry Backend)} {live : List Alive}
    (hist : History (fun _ p => p) n trace live) (hfresh : Fresh trace) :
    Disciplined trace live := by
  have hexp : Watch.AdmitsAll Custody.watch {} trace := Custody.admitsAll {} trace
  obtain ⟨hall, hheld⟩ := hist.keeps custody_keeper rfl hexp
  have hr := Recorded.of_permitsAll hall hfresh
  have hcoe : (unreleased trace : Multiset AnyHandle) =
      ↑(live.flatMap fun a => a.session.handles) := by
    rw [hr.unreleased_eq, hheld, map_custodyOf]
  have hperm : (unreleased trace).Perm (live.flatMap fun a => a.session.handles) :=
    Multiset.coe_eq_coe.1 hcoe
  refine ⟨?_, ?_, ?_, hperm, hperm.nodup hr.nodup⟩
  · rintro before e after rfl h hpassed
    exact inHand_of_passed hall hfresh hpassed
  · rintro before e after rfl view hlooks
    exact onLoan_of_looksAt hall hfresh hlooks
  -- Either some later call gives the handle back, or it is still held, and then for a session.
  · rintro before e after rfl h hobtains
    by_cases hback : ∃ x ∈ after, x.2.givesBack? = some h
    · obtain ⟨x, hx, hback⟩ := hback
      exact .inl (givenBackOnce_of_givesBack hall hfresh hobtains hx hback)
    · have hkept : ∀ x ∈ after, x.2.givesBack? ≠ some h := by simpa using hback
      have hhand := (hr.held_iff _ h).2 (inHand_of_obtains hobtains hkept)
      rw [hheld] at hhand
      exact .inr ⟨mem_custodyOf.1 hhand, hkept⟩

/-- A session with handles at the addresses 1, 2 and 3. -/
def sampleSession : Session := ⟨⟨1⟩, ⟨2⟩, ⟨3⟩, "local-sync", .moduleLoaded, 0⟩

/-- A call of the runtime with its reply. -/
def answered (op : BackendOp) (reply : op.Reply) : Program.Item Backend := .called op reply

/-- The first driver has no device, the second one has. -/
def sampleCreation : List (Program.Item Backend) :=
  [answered .createInstance (.ok ⟨1⟩),
    answered (.createDevice ⟨1⟩ "vulkan") (.error (.unavailable "no device")),
    .noted (.driverUnavailable "vulkan" "local-sync" (.unavailable "no device")),
    answered (.createDevice ⟨1⟩ "local-sync") (.ok ⟨2⟩),
    answered (.createSession ⟨1⟩ ⟨2⟩) (.ok ⟨3⟩),
    answered (.appendModule ⟨3⟩ [7]) (.ok ()),
    .noted (.moduleLoaded "runtime" "local-sync" 1)]

/-- There is one list, and then there is none for the results. -/
def sampleInvocation : List (Program.Item Backend) :=
  [answered (.createList 0) (.ok ⟨4⟩),
    answered (.createList 4) (.error (.unavailable "no list")),
    answered (.releaseList ⟨4⟩) ()]

theorem disciplined_sample :
    History (fun _ p => p) 2 (stamped 0 0 sampleCreation ++ stamped 0 1 sampleInvocation)
        ([] ++ ⟨0, sampleSession⟩ :: []) ∧
      Fresh (stamped 0 0 sampleCreation ++ stamped 0 1 sampleInvocation) ∧
      Disciplined (stamped 0 0 sampleCreation ++ stamped 0 1 sampleInvocation)
        [⟨0, sampleSession⟩] := by
  have hmade : (create "runtime" [7] ["vulkan", "local-sync"]).run.Runs sampleCreation
      (.ok sampleSession) := by decide
  have hfailed : (sampleSession.invoke "main" []).Runs sampleInvocation
      (.error (.unavailable "no list"), sampleSession) := by decide
  have hstart : History (fun _ p => p) 0 [] [] := .start
  have hcreated := hstart.create hmade
  have hopen : History (fun _ p => p) 1 (stamped 0 0 sampleCreation)
      ([] ++ ⟨0, sampleSession⟩ :: []) := hcreated
  have hist := hopen.invoke hfailed
  have hfresh : Fresh (stamped 0 0 sampleCreation ++ stamped 0 1 sampleInvocation) := by decide
  exact ⟨hist, hfresh, history_disciplined hist hfresh⟩

end Session

end TensorBridge
