import Mathlib
import TensorBridge.Proofs.Library.Shelf
import TensorBridge.Proofs.Program.Runs

/-!
# The search for a runtime library

What a search for a runtime library does, by the files alone: it opens one candidate after the other
up to the first one that exports all required symbols.  A candidate that lacks a symbol is closed
before the next one is opened, and each candidate that is passed over gives one warning.

* `Library.Attempt` tells what happens to a candidate, `Library.Rejections` what happens to the
  candidates that are passed over, and `Library.Discovery` what happens in a whole search.
* `Library.discovery` is the result: just this happens, and a library is found if one of the
  candidates is usable.
-/

namespace TensorBridge

open Program (Item)

/-- A library that opens and exports all required symbols. -/
def Files.Usable (files : Files) (path : String) : Prop :=
  ∃ exported, files path = .ok exported ∧ ∀ symbol ∈ requiredSymbols, symbol ∈ exported

namespace Library

variable {files : Files} {id : Nat} {path : String} {items : List (Item Host)}

/-! ## One candidate -/

lemma missingSymbol?_eq_none_iff {exported : List String} :
    missingSymbol? exported = none ↔ ∀ symbol ∈ requiredSymbols, symbol ∈ exported := by
  simp [missingSymbol?]

lemma missingSymbol?_eq_some_iff {exported : List String} {symbol : String} :
    missingSymbol? exported = some symbol ↔
      ∃ before after, requiredSymbols = before ++ symbol :: after ∧
        (∀ s ∈ before, s ∈ exported) ∧ symbol ∉ exported := by
  rw [missingSymbol?, List.find?_eq_some_iff_append]
  simp only [Bool.not_eq_eq_eq_not, Bool.not_true, List.contains_eq_mem, decide_eq_false_iff_not,
    Bool.not_not, decide_eq_true_eq]
  constructor
  · rintro ⟨hsymbol, before, after, hsymbols, hbefore⟩
    exact ⟨before, after, hsymbols, hbefore, hsymbol⟩
  · rintro ⟨before, after, hsymbols, hbefore, hsymbol⟩
    exact ⟨hsymbol, before, after, hsymbols, hbefore⟩

/-- What happens to a candidate. -/
inductive Attempt (files : Files) (id : Nat) (path : String) :
    List (Item Host) → Except BridgeError Library → Prop where
  /-- It cannot be opened. -/
  | unopened {detail : String} (hfile : files path = .error detail) :
      Attempt files id path [.called (.openLibrary id path) (.error detail)]
        (.error (.loadFailed path detail))
  /-- It lacks a symbol, the first one of the table is told, and it is closed again. -/
  | incomplete {exported before after : List String} {symbol : String}
      (hfile : files path = .ok exported) (hsymbols : requiredSymbols = before ++ symbol :: after)
      (hbefore : ∀ s ∈ before, s ∈ exported) (hsymbol : symbol ∉ exported) :
      Attempt files id path
        [.called (.openLibrary id path) (.ok exported), .called (.closeLibrary id) ()]
        (.error (.symbolNotFound path symbol))
  /-- It is usable. -/
  | usable {exported : List String} (hfile : files path = .ok exported)
      (hsymbols : ∀ symbol ∈ requiredSymbols, symbol ∈ exported) :
      Attempt files id path
        [.called (.openLibrary id path) (.ok exported),
          .noted (.libraryLoaded path (.ofPath path) (exported.contains renderSymbol))]
        (.ok ⟨id, path, exported.contains renderSymbol⟩)

/-- **One candidate.** -/
theorem runs_attach_iff {r : Except BridgeError Library} :
    (attach id path).run.Runs items r ∧ (∀ item ∈ items, files.Bears item) ↔
      Attempt files id path items r := by
  unfold attach
  constructor
  · rintro ⟨run, bears⟩
    obtain ⟨opened, later, rfl, hopened⟩ := Action.runs_ask_iff.1 run
    obtain ⟨hfile, -⟩ := List.forall_mem_cons.1 bears
    replace hfile : opened = files path := hfile
    rcases opened with detail | exported
    · obtain ⟨rfl, rfl⟩ := Program.runs_done_iff.1 hopened
      exact .unopened hfile.symm
    dsimp only at hopened
    cases hmissing : missingSymbol? exported with
    | some symbol =>
      obtain ⟨before, after, hsymbols, hbefore, hsymbol⟩ := missingSymbol?_eq_some_iff.1 hmissing
      rw [hmissing] at hopened
      obtain ⟨_, later, rfl, hclosed⟩ := Action.runs_ask_iff.1 hopened
      obtain ⟨rfl, rfl⟩ := Program.runs_done_iff.1 hclosed
      exact .incomplete hfile.symm hsymbols hbefore hsymbol
    | none =>
      rw [hmissing] at hopened
      obtain ⟨later, rfl, hloaded⟩ := Action.runs_tell_iff.1 hopened
      obtain ⟨rfl, rfl⟩ := Program.runs_done_iff.1 hloaded
      exact .usable hfile.symm (missingSymbol?_eq_none_iff.1 hmissing)
  · intro h
    cases h with
    | @unopened detail hfile =>
      refine ⟨Action.runs_ask_iff.2 ⟨.error detail, [], rfl, .done _⟩, ?_⟩
      exact List.forall_mem_singleton.2 hfile.symm
    | @incomplete exported before after symbol hfile hsymbols hbefore hsymbol =>
      have hmissing := missingSymbol?_eq_some_iff.2 ⟨before, after, hsymbols, hbefore, hsymbol⟩
      refine ⟨Action.runs_ask_iff.2 ⟨.ok exported, [_], rfl, ?_⟩, ?_⟩
      · simp only [hmissing]
        exact Action.runs_ask_iff.2 ⟨(), [], rfl, .done _⟩
      · exact List.forall_mem_cons.2 ⟨hfile.symm, List.forall_mem_singleton.2 trivial⟩
    | @usable exported hfile hsymbols =>
      have hmissing := missingSymbol?_eq_none_iff.2 hsymbols
      refine ⟨Action.runs_ask_iff.2 ⟨.ok exported, [_], rfl, ?_⟩, ?_⟩
      · simp only [hmissing]
        exact Action.runs_tell_iff.2 ⟨[], rfl, .done _⟩
      · exact List.forall_mem_cons.2 ⟨hfile.symm, List.forall_mem_singleton.2 trivial⟩

/-- A candidate is taken if it is usable. -/
lemma Attempt.isOk_iff {r : Except BridgeError Library} (h : Attempt files id path items r) :
    (∃ library, r = .ok library) ↔ files.Usable path := by
  cases h with
  | unopened hfile =>
    refine iff_of_false (fun ⟨_, h⟩ => by cases h) fun ⟨_, hok, _⟩ => ?_
    cases hfile.symm.trans hok
  | @incomplete exported before after symbol hfile hsymbols hbefore hsymbol =>
    refine iff_of_false (fun ⟨_, h⟩ => by cases h) fun ⟨_, hok, hall⟩ => ?_
    cases hfile.symm.trans hok
    exact hsymbol (hall symbol (hsymbols ▸ List.mem_append_right _ List.mem_cons_self))
  | @usable exported hfile hsymbols => exact iff_of_true ⟨_, rfl⟩ ⟨exported, hfile, hsymbols⟩

lemma exists_attempt (files : Files) (id : Nat) (path : String) :
    ∃ items r, Attempt files id path items r := by
  rcases hfile : files path with detail | exported
  · exact ⟨_, _, .unopened hfile⟩
  cases hmissing : missingSymbol? exported with
  | some symbol =>
    obtain ⟨before, after, hsymbols, hbefore, hsymbol⟩ := missingSymbol?_eq_some_iff.1 hmissing
    exact ⟨_, _, .incomplete hfile hsymbols hbefore hsymbol⟩
  | none => exact ⟨_, _, .usable hfile (missingSymbol?_eq_none_iff.1 hmissing)⟩

/-! ## All candidates -/

/-- What happens to candidates that are passed over, numbered from `id` on. -/
inductive Rejections (files : Files) : Nat → List String → List (Item Host) → Prop where
  /-- There are none. -/
  | nil {id : Nat} : Rejections files id [] []
  /-- The first one is not usable, which gives a warning with the reason. -/
  | cons {id : Nat} {path : String} {paths : List String} {first later : List (Item Host)}
      {e : BridgeError} (attempt : Attempt files id path first (.error e))
      (rest : Rejections files (id + 1) paths later) :
      Rejections files id (path :: paths) (first ++ .noted (.candidateRejected path e) :: later)

/-- What happens to candidates up to the first one that is usable, numbered from `id` on. -/
inductive Sought (files : Files) (id : Nat) (paths : List String) :
    List (Item Host) → Option Library → Prop where
  /-- Some are passed over, and the next one is taken. -/
  | found {rejected later : List String} {path : String} {first last : List (Item Host)}
      {library : Library} (hpaths : paths = rejected ++ path :: later)
      (rejections : Rejections files id rejected first)
      (attempt : Attempt files (id + rejected.length) path last (.ok library)) :
      Sought files id paths (first ++ last) (some library)
  /-- All of them are passed over. -/
  | missing {items : List (Item Host)} (rejections : Rejections files id paths items) :
      Sought files id paths items none

lemma sought_nil_iff {found : Option Library} :
    Sought files id [] items found ↔ items = [] ∧ found = none := by
  constructor
  · intro h
    cases h with
    | found hpaths => simp at hpaths
    | missing rejections =>
      cases rejections
      exact ⟨rfl, rfl⟩
  · rintro ⟨rfl, rfl⟩
    exact .missing .nil

lemma sought_cons_iff {paths : List String} {found : Option Library} :
    Sought files id (path :: paths) items found ↔
      (∃ library, found = some library ∧ Attempt files id path items (.ok library)) ∨
        ∃ e first later, items = first ++ .noted (.candidateRejected path e) :: later ∧
          Attempt files id path first (.error e) ∧ Sought files (id + 1) paths later found := by
  constructor
  · intro h
    cases h with
    | @found rejected later path' first last library hpaths rejections attempt =>
      cases rejections with
      | nil =>
        obtain ⟨rfl, -⟩ := List.cons_eq_cons.1 hpaths
        exact .inl ⟨library, rfl, attempt⟩
      | @cons _ _ rejected first later' e failed rest =>
        obtain ⟨rfl, hrest⟩ := List.cons_eq_cons.1 hpaths
        rw [List.length_cons, ← Nat.add_assoc, Nat.add_right_comm] at attempt
        exact .inr ⟨e, first, later' ++ last, by simp, failed, .found hrest rest attempt⟩
    | missing rejections =>
      cases rejections with
      | @cons _ _ _ first later e failed rest =>
        exact .inr ⟨e, first, later, rfl, failed, .missing rest⟩
  · rintro (⟨library, rfl, attempt⟩ | ⟨e, first, later, rfl, failed, h⟩)
    · exact @Sought.found _ _ _ [] _ _ _ _ _ rfl .nil attempt
    · cases h with
      | @found rejected after path' later' last library hpaths rejections attempt =>
        rw [Nat.add_right_comm, Nat.add_assoc, ← List.length_cons (a := path)] at attempt
        rw [← List.cons_append, ← List.append_assoc]
        exact .found (congrArg (path :: ·) hpaths) (.cons failed rejections) attempt
      | missing rejections => exact .missing (.cons failed rejections)

/-- **The candidates** are tried up to the first one that is usable. -/
theorem runs_attachFirst_iff {paths : List String} {found : Option Library} :
    (attachFirst id paths).Runs items found ∧ (∀ item ∈ items, files.Bears item) ↔
      Sought files id paths items found := by
  induction paths generalizing id items with
  | nil =>
    rw [sought_nil_iff]
    constructor
    · rintro ⟨run, -⟩
      exact Program.runs_done_iff.1 run
    · rintro ⟨rfl, rfl⟩
      exact ⟨.done none, List.forall_mem_nil _⟩
  | cons path paths ih =>
    rw [sought_cons_iff, attachFirst, Program.runs_bind_iff]
    constructor
    · rintro ⟨⟨first, later, r, rfl, hfirst, hlater⟩, bears⟩
      obtain ⟨hbefore, hafter⟩ := List.forall_mem_append.1 bears
      have attempt := runs_attach_iff.1 ⟨hfirst, hbefore⟩
      cases r with
      | ok library =>
        obtain ⟨rfl, rfl⟩ := Program.runs_done_iff.1 hlater
        rw [List.append_nil]
        exact .inl ⟨library, rfl, attempt⟩
      | error e =>
        obtain ⟨later, rfl, hrest⟩ := Program.runs_note_iff.1 hlater
        have sought := ih.1 ⟨hrest, (List.forall_mem_cons.1 hafter).2⟩
        exact .inr ⟨e, first, later, rfl, attempt, sought⟩
    · rintro (⟨library, rfl, attempt⟩ | ⟨e, first, later, rfl, attempt, sought⟩)
      · obtain ⟨hfirst, bears⟩ := runs_attach_iff.2 attempt
        exact ⟨⟨items, [], .ok library, (List.append_nil items).symm, hfirst, .done _⟩, bears⟩
      · obtain ⟨hfirst, hbefore⟩ := runs_attach_iff.2 attempt
        obtain ⟨hrest, hafter⟩ := ih.2 sought
        refine ⟨⟨first, _, .error e, rfl, hfirst, .note hrest⟩, ?_⟩
        exact List.forall_mem_append.2 ⟨hbefore, List.forall_mem_cons.2 ⟨trivial, hafter⟩⟩

/-- One of the candidates is taken if one of them is usable. -/
lemma Sought.isSome_iff {paths : List String} {found : Option Library}
    (h : Sought files id paths items found) :
    (∃ library, found = some library) ↔ ∃ path ∈ paths, files.Usable path := by
  induction paths generalizing id items with
  | nil =>
    obtain ⟨-, rfl⟩ := sought_nil_iff.1 h
    simp
  | cons path paths ih =>
    rw [List.exists_mem_cons_iff]
    rcases sought_cons_iff.1 h with ⟨library, rfl, attempt⟩ | ⟨e, first, later, rfl, failed, rest⟩
    · exact iff_of_true ⟨library, rfl⟩ (.inl (attempt.isOk_iff.1 ⟨library, rfl⟩))
    · have hunusable : ¬files.Usable path := by
        intro husable
        obtain ⟨_, hok⟩ := failed.isOk_iff.2 husable
        cases hok
      rw [ih rest, or_iff_right hunusable]

lemma exists_sought (files : Files) (id : Nat) (paths : List String) :
    ∃ items found, Sought files id paths items found := by
  induction paths generalizing id with
  | nil => exact ⟨[], none, .missing .nil⟩
  | cons path paths ih =>
    obtain ⟨first, e | library, attempt⟩ := exists_attempt files id path
    · obtain ⟨later, found, rest⟩ := ih (id + 1)
      exact ⟨_, _, sought_cons_iff.2 (.inr ⟨e, first, later, rfl, attempt, rest⟩)⟩
    · exact ⟨_, _, sought_cons_iff.2 (.inl ⟨library, rfl, attempt⟩)⟩

/-! ## The search -/

/-- What happens in a search, and the result. -/
inductive Discovery (files : Files) (id : Nat) (search : LibrarySearch) :
    List (Item Host) → Except BridgeError Library → Prop where
  /-- The runtime is switched off. -/
  | disabled (hdisabled : search.disabled = true) :
      Discovery files id search [] (.error (.unavailable s!"disabled by {disableVariable}"))
  /-- The first usable candidate is taken. -/
  | found {items : List (Item Host)} {library : Library} (henabled : search.disabled = false)
      (sought : Sought files id search.paths items (some library)) :
      Discovery files id search items (.ok library)
  /-- No candidate is usable; the failure tells all of them. -/
  | missing {items : List (Item Host)} (henabled : search.disabled = false)
      (sought : Sought files id search.paths items none) :
      Discovery files id search items (.error (.libraryNotFound search.paths))

lemma runs_discover_iff {search : LibrarySearch} {r : Except BridgeError Library} :
    (discover id search).run.Runs items r ∧ (∀ item ∈ items, files.Bears item) ↔
      Discovery files id search items r := by
  unfold discover
  split_ifs with hdisabled
  · constructor
    · rintro ⟨run, -⟩
      obtain ⟨rfl, rfl⟩ := Program.runs_done_iff.1 run
      exact .disabled hdisabled
    · intro h
      cases h with
      | disabled => exact ⟨.done _, List.forall_mem_nil _⟩
      | found henabled => cases hdisabled.symm.trans henabled
      | missing henabled => cases hdisabled.symm.trans henabled
  · have henabled : search.disabled = false := by simpa using hdisabled
    rw [Action.runs_bind_iff]
    constructor
    · rintro ⟨⟨e, rfl, hfailed⟩ | ⟨first, later, found, rfl, hfound, hlater⟩, bears⟩
      · obtain ⟨_, he, -⟩ := Action.runs_always_iff.1 hfailed
        cases he
      obtain ⟨_, heq, hsought⟩ := Action.runs_always_iff.1 hfound
      cases heq
      have sought := runs_attachFirst_iff.1 ⟨hsought, (List.forall_mem_append.1 bears).1⟩
      cases found <;>
      · obtain ⟨rfl, rfl⟩ := Program.runs_done_iff.1 hlater
        rw [List.append_nil]
        first | exact .found henabled sought | exact .missing henabled sought
    · intro h
      cases h with
      | disabled h => exact absurd h hdisabled
      | @found items library _ sought =>
        obtain ⟨run, bears⟩ := runs_attachFirst_iff.2 sought
        refine ⟨.inr ⟨items, [], some library, (List.append_nil items).symm, ?_, .done _⟩, bears⟩
        exact Action.runs_always_iff.2 ⟨_, rfl, run⟩
      | @missing items _ sought =>
        obtain ⟨run, bears⟩ := runs_attachFirst_iff.2 sought
        refine ⟨.inr ⟨items, [], none, (List.append_nil items).symm, ?_, .done _⟩, bears⟩
        exact Action.runs_always_iff.2 ⟨_, rfl, run⟩

lemma exists_discovery (files : Files) (id : Nat) (search : LibrarySearch) :
    ∃ items r, Discovery files id search items r := by
  cases hdisabled : search.disabled with
  | true => exact ⟨_, _, .disabled hdisabled⟩
  | false =>
    obtain ⟨items, _ | library, sought⟩ := exists_sought files id search.paths
    · exact ⟨items, _, .missing hdisabled sought⟩
    · exact ⟨items, _, .found hdisabled sought⟩

lemma Discovery.isOk_iff {search : LibrarySearch} {r : Except BridgeError Library}
    (h : Discovery files id search items r) :
    (∃ library, r = .ok library) ↔
      search.disabled = false ∧ ∃ path ∈ search.paths, files.Usable path := by
  cases h with
  | disabled hdisabled => simp [hdisabled]
  | found henabled sought =>
    exact iff_of_true ⟨_, rfl⟩ ⟨henabled, sought.isSome_iff.1 ⟨_, rfl⟩⟩
  | missing henabled sought =>
    rw [and_iff_right henabled, ← sought.isSome_iff]
    simp

/-- **The search for a runtime library.**  Whatever the files are, just what `Discovery` tells
happens, and something does.  A library is found if one of the candidates is usable and the runtime
is not switched off; a candidate may lack the symbol that renders statuses. -/
theorem discovery (files : Files) (id : Nat) (search : LibrarySearch) :
    (∀ items r, (discover id search).run.Runs items r ∧ (∀ item ∈ items, files.Bears item) ↔
        Discovery files id search items r) ∧
      (∃ items r, Discovery files id search items r) ∧
      (∀ items r, Discovery files id search items r →
        ((∃ library, r = .ok library) ↔
          search.disabled = false ∧ ∃ path ∈ search.paths, files.Usable path)) ∧
      ∀ path exported, files path = .ok exported →
        (∀ symbol ∈ requiredSymbols, symbol ≠ renderSymbol → symbol ∈ exported) →
          files.Usable path := by
  refine ⟨fun items r => runs_discover_iff, exists_discovery files id search,
    fun items r h => h.isOk_iff, fun path exported hfile hsymbols => ⟨exported, hfile, ?_⟩⟩
  have hoptional : renderSymbol ∉ requiredSymbols := by decide
  intro symbol hsymbol
  refine hsymbols symbol hsymbol ?_
  rintro rfl
  exact hoptional hsymbol

/-- One library with all required symbols and no more, and one that lacks the third of them. -/
def sampleFiles : Files := fun path =>
  if path = "/full.so" then .ok requiredSymbols
  else if path = "/part.so" then .ok ["iree_allocator_malloc", "iree_allocator_system_ctl"]
  else .error "no such file"

/-- The path given by the caller does not open, the one from the environment lacks a symbol, and the
first conventional one is usable. -/
def sampleSearch : LibrarySearch where
  explicit := some "/gone.so"
  environment := some "/part.so"
  conventional := ["", "/full.so", "/later.so"]

theorem discovery_sample :
    (discover 0 sampleSearch).run.Runs
        [.called (.openLibrary 0 "/gone.so") (.error "no such file" : Except String (List String)),
          .noted (.candidateRejected "/gone.so" (.loadFailed "/gone.so" "no such file")),
          .called (.openLibrary 1 "/part.so")
            (.ok ["iree_allocator_malloc", "iree_allocator_system_ctl"] :
              Except String (List String)),
          .called (.closeLibrary 1) (),
          .noted (.candidateRejected "/part.so"
            (.symbolNotFound "/part.so" "iree_allocator_free")),
          .called (.openLibrary 2 "/full.so") (.ok requiredSymbols : Except String (List String)),
          .noted (.libraryLoaded "/full.so" .so false)]
        (.ok ⟨2, "/full.so", false⟩) ∧
      sampleFiles.Usable "/full.so" := by
  have gone : sampleFiles "/gone.so" = .error "no such file" := by decide
  have part : sampleFiles "/part.so" =
      .ok ["iree_allocator_malloc", "iree_allocator_system_ctl"] := by decide
  have full : sampleFiles "/full.so" = .ok requiredSymbols := by decide
  have lacking : Attempt sampleFiles 1 "/part.so" _ _ :=
    @Attempt.incomplete _ _ _ _ ["iree_allocator_system_ctl", "iree_allocator_malloc"] _ _ part rfl
      (by decide) (by decide)
  have rejections : Rejections sampleFiles 0 ["/gone.so", "/part.so"] _ :=
    .cons (.unopened gone) (.cons lacking .nil)
  have attempt : Attempt sampleFiles 2 "/full.so" _ _ := .usable full fun _ h => h
  have hpaths : sampleSearch.paths = ["/gone.so", "/part.so"] ++ "/full.so" :: ["/later.so"] := by
    decide
  obtain ⟨hruns, -, -, husable⟩ := discovery sampleFiles 0 sampleSearch
  refine ⟨((hruns _ _).2 (.found rfl (.found hpaths rejections attempt))).1, ?_⟩
  exact husable "/full.so" requiredSymbols full fun _ h _ => h

end Library

end TensorBridge
