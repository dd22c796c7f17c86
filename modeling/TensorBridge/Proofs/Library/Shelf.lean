import Mathlib
import TensorBridge.Library.Basic
import TensorBridge.Proofs.Program.Watch

/-!
# Which libraries are open

The files of a host say what comes of opening each path.  A shelf tells which libraries have ever
been opened and which of them are open now; a program may open a library only under a new number,
and close or call only one that is open.

* `Library.discoverIn` tells what comes of a search, by the files alone, and `Library.discover_runs`
  that this is what `Library.discover` comes to.
* `Library.host_keeps`: a program of a session on an open library opens and closes nothing.
* `Shelf.Recorded` is what a shelf tells of the trace before it: how often each library was opened
  and closed, and that all was in order.
-/

namespace TensorBridge

open Program (Item)

/-- What comes of opening each path. -/
abbrev Files := String → Except String (List String)

/-- What a program may do with libraries. -/
structure Leave where
  /-- Whether it may open some. -/
  opens : Prop
  /-- Whether it may call the one with this number. -/
  calls : Nat → Prop

/-- Which libraries have been opened. -/
structure Shelf where
  /-- The libraries that have ever been opened. -/
  ever : Finset Nat := ∅
  /-- The libraries that are open. -/
  now : Finset Nat := ∅

namespace Shelf

/-- Whether an operation is in order. -/
def Allows (leave : Leave) (s : Shelf) : HostOp → Prop
  | .openLibrary id _ => leave.opens ∧ id ∉ s.ever
  | .closeLibrary id => id ∈ s.now
  | .native id _ => leave.calls id ∧ id ∈ s.now
  | .readFile _ | .pathExists _ | .print _ => True

/-- The shelf after an answered call. -/
def after (s : Shelf) : (op : HostOp) → op.Reply → Shelf
  | .openLibrary id _, .ok _ => ⟨insert id s.ever, insert id s.now⟩
  | .openLibrary .., .error _ => s
  | .closeLibrary id, _ => { s with now := s.now.erase id }
  | .native .., _ | .readFile _, _ | .pathExists _, _ | .print _, _ => s

end Shelf

/-- The reply is what the files say. -/
def Files.Says (files : Files) : (op : HostOp) → op.Reply → Prop
  | .openLibrary _ path, reply => reply = files path
  | .closeLibrary _, _ | .native .., _ | .readFile _, _ | .pathExists _, _ | .print _, _ => True

/-- Something that happened is no reply, or a reply that the files bear out. -/
def Files.Bears (files : Files) : Item Host → Prop
  | .called op reply => files.Says op reply
  | .noted _ => True

/-- The watch over the libraries of a host. -/
def Host.watch (files : Files) (leave : Leave) : Watch Host Shelf where
  Allows := Shelf.Allows leave
  Expects _ := files.Says
  after := Shelf.after

lemma Files.admitsAll {files : Files} {leave : Leave} {s : Shelf} {items : List (Item Host)}
    (bears : ∀ item ∈ items, files.Bears item) :
    Watch.AdmitsAll (Host.watch files) s (items.map (leave, ·)) :=
  Watch.throughout_of_forall fun e he t => by
    obtain ⟨item, hitem, rfl⟩ := List.mem_map.1 he
    cases item with
    | called op reply => exact bears _ hitem
    | noted n => trivial

/-- What a shelf holds: the libraries that are open, all of them numbered below `next`. -/
structure Shelf.Holds (s : Shelf) (held : Finset Nat) (next : Nat) : Prop where
  /-- The libraries that are open. -/
  now_eq : s.now = held
  /-- They have been opened. -/
  subset : s.now ⊆ s.ever
  /-- The numbers that have been used. -/
  lt : ∀ id ∈ s.ever, id < next

namespace Shelf.Holds

variable {s : Shelf} {held : Finset Nat} {next : Nat}

lemma mono (h : s.Holds held next) {next' : Nat} (hle : next ≤ next') : s.Holds held next' :=
  { h with lt := fun id hid => (h.lt id hid).trans_le hle }

lemma next_not_mem (h : s.Holds held next) : next ∉ s.ever := fun hmem =>
  (h.lt next hmem).false

lemma opened (h : s.Holds held next) :
    Holds ⟨insert next s.ever, insert next s.now⟩ (insert next held) (next + 1) where
  now_eq := by rw [h.now_eq]
  subset := Finset.insert_subset_insert _ h.subset
  lt other hother := by
    rcases Finset.mem_insert.1 hother with rfl | hother
    · exact Nat.lt_succ_self other
    · exact (h.lt other hother).trans (Nat.lt_succ_self next)

lemma closed (h : s.Holds held next) (id : Nat) :
    Holds { s with now := s.now.erase id } (held.erase id) next where
  now_eq := by rw [h.now_eq]
  subset := (Finset.erase_subset _ _).trans h.subset
  lt := h.lt

end Shelf.Holds

/-! ## Opening libraries -/

namespace Library

/-- What comes of opening a library. -/
def attachIn (files : Files) (id : Nat) (path : String) : Except BridgeError Library :=
  match files path with
  | .error detail => .error (.loadFailed path detail)
  | .ok exported =>
    match missingSymbol? exported with
    | some symbol => .error (.symbolNotFound path symbol)
    | none => .ok ⟨id, path, exported.contains renderSymbol⟩

/-- The first of the candidates that is usable. -/
def firstIn (files : Files) (id : Nat) : List String → Option Library
  | [] => none
  | path :: rest =>
    match attachIn files id path with
    | .ok library => some library
    | .error _ => firstIn files (id + 1) rest

/-- What comes of a search. -/
def discoverIn (files : Files) (id : Nat) (search : LibrarySearch) : Except BridgeError Library :=
  if search.disabled then .error (.unavailable s!"disabled by {disableVariable}")
  else
    match firstIn files id search.paths with
    | some library => .ok library
    | none => .error (.libraryNotFound search.paths)

section Opening

variable {files : Files} {leave : Leave} {s : Shelf} {held : Finset Nat} {id : Nat}

lemma openLibrary_keeps (hopens : leave.opens) (h : s.Holds held id) {path : String}
    {Q : Except String (List String) → Shelf → Prop}
    (hok : ∀ exported, files path = .ok exported →
      Q (.ok exported) ⟨insert id s.ever, insert id s.now⟩)
    (hbad : ∀ detail, files path = .error detail → Q (.error detail) s) :
    (Program.perform (I := Host) (.openLibrary id path)).Keeps (Host.watch files leave) s Q := by
  refine ⟨⟨hopens, h.next_not_mem⟩, fun reply hreply => ?_⟩
  replace hreply : reply = files path := hreply
  cases hfile : files path with
  | ok exported =>
    rw [hreply, hfile]
    exact hok exported hfile
  | error detail =>
    rw [hreply, hfile]
    exact hbad detail hfile

lemma closeLibrary_keeps (hid : id ∈ s.now) {Q : Unit → Shelf → Prop}
    (hQ : Q () { s with now := s.now.erase id }) :
    (Program.perform (I := Host) (.closeLibrary id)).Keeps (Host.watch files leave) s Q :=
  ⟨hid, fun _ _ => hQ⟩

/-- **Opening a library.** -/
lemma attach_meets (hopens : leave.opens) (h : s.Holds held id) (path : String) :
    (attach id path).Meets (Host.watch files leave) s
      (fun library s' => attachIn files id path = .ok library ∧
        s'.Holds (insert library.id held) (id + 1))
      (fun e s' => attachIn files id path = .error e ∧ s'.Holds held (id + 1)) := by
  simp only [attach, Action.meets_bind, Action.meets_always]
  refine openLibrary_keeps hopens h (fun exported hfile => ?_) fun detail hfile => ?_
  · cases hmissing : missingSymbol? exported with
    | some symbol =>
      simp only [hmissing, Action.meets_bind, Action.meets_always, Action.meets_throw]
      -- The library has been opened, and is closed again before the failure is told.
      refine closeLibrary_keeps (Finset.mem_insert_self id s.now) ⟨?_, ?_⟩
      · simp only [attachIn, hfile, hmissing]
      · have hnew : id ∉ held := fun hmem => h.next_not_mem (h.subset (h.now_eq ▸ hmem))
        have hclosed := h.opened.closed id
        rwa [Finset.erase_insert hnew] at hclosed
    | none =>
      simp only [hmissing, Action.meets_bind, Action.meets_always, Program.keeps_notify,
        Action.meets_pure]
      refine ⟨?_, h.opened⟩
      simp only [attachIn, hfile, hmissing]
  · exact ⟨by rw [attachIn, hfile], h.mono (Nat.le_succ id)⟩

/-- Opening the first usable of some candidates. -/
lemma attachFirst_keeps (hopens : leave.opens) (h : s.Holds held id) (paths : List String) :
    (attachFirst id paths).Keeps (Host.watch files leave) s fun r s' =>
      r = firstIn files id paths ∧
        s'.Holds (r.elim held fun library => insert library.id held) (id + paths.length) := by
  induction paths generalizing s id with
  | nil => exact ⟨rfl, h⟩
  | cons path rest ih =>
    simp only [attachFirst, Program.keeps_bind, firstIn]
    refine Program.Keeps.mono (attach_meets hopens h path) fun r s₁ h₁ => ?_
    have hlength : id + (path :: rest).length = id + 1 + rest.length := by
      rw [List.length_cons]
      omega
    cases r with
    | ok library =>
      obtain ⟨hattach, h₁⟩ := h₁
      refine ⟨by rw [hattach], h₁.mono ?_⟩
      omega
    | error e =>
      obtain ⟨hattach, h₁⟩ := h₁
      rw [hattach, hlength]
      exact ih h₁

/-- **Searching for a library.** -/
theorem discover_meets (hopens : leave.opens) (h : s.Holds held id) (search : LibrarySearch) :
    (discover id search).Meets (Host.watch files leave) s
      (fun library s' => discoverIn files id search = .ok library ∧
        s'.Holds (insert library.id held) (id + search.paths.length))
      (fun e s' => discoverIn files id search = .error e ∧
        s'.Holds held (id + search.paths.length)) := by
  unfold discover
  split_ifs with hdisabled
  · exact ⟨by rw [discoverIn, if_pos hdisabled], h.mono (Nat.le_add_right _ _)⟩
  · rw [Action.meets_bind, Action.meets_always]
    refine (attachFirst_keeps hopens h search.paths).mono fun r s₁ h₁ => ?_
    obtain ⟨rfl, h₁⟩ := h₁
    cases hfirst : firstIn files id search.paths with
    | some library =>
      rw [hfirst] at h₁
      exact ⟨by rw [discoverIn, if_neg hdisabled, hfirst], h₁⟩
    | none =>
      rw [hfirst] at h₁
      exact ⟨by rw [discoverIn, if_neg hdisabled, hfirst], h₁⟩

/-- Every search comes to what the files say. -/
theorem discover_runs {search : LibrarySearch} {items : List (Item Host)}
    {r : Except BridgeError Library} (run : (discover id search).run.Runs items r)
    (bears : ∀ item ∈ items, files.Bears item) : r = discoverIn files id search := by
  have hempty : Shelf.Holds {} ∅ id := ⟨rfl, subset_rfl, by simp⟩
  have hmeets : (discover id search).Meets (Host.watch files ⟨True, fun _ => True⟩) {} _ _ :=
    discover_meets trivial hempty search
  have hruns := (Program.Keeps.of_runs hmeets run (files.admitsAll bears)).2
  cases r with
  | ok library => exact hruns.1.symm
  | error e => exact hruns.1.symm

/-- **A program on an open library** opens and closes nothing. -/
theorem host_keeps {α : Type} {library : Library} (hcalls : leave.calls library.id)
    (hopen : library.id ∈ s.now) (p : Program Backend α) {Q : α → Shelf → Prop}
    (hQ : ∀ a, Q a s) : (library.host p).Keeps (Host.watch files leave) s Q := by
  unfold host Host.ofNative
  induction p.expand (Native.perform library.rendersStatus) with
  | done a => exact hQ a
  | call op next ih => exact ⟨⟨hcalls, hopen⟩, fun r _ => ih r⟩
  | note n next ih => exact ih

end Opening

end Library

/-! ## Traces -/

namespace Shelf

/-- Whether something that happened is that a library was opened. -/
def isOpening (id : Nat) : Item Host → Bool
  | .called (.openLibrary id' _) (.ok _) => id' == id
  | _ => false

/-- Whether something that happened is that a library was closed. -/
def isClosing (id : Nat) : Item Host → Bool
  | .called (.closeLibrary id') _ => id' == id
  | _ => false

/-- How often a library was opened. -/
def openings (id : Nat) (trace : List (Item Host)) : Nat := trace.countP (isOpening id)

/-- How often a library was closed. -/
def closings (id : Nat) (trace : List (Item Host)) : Nat := trace.countP (isClosing id)

lemma openings_concat {id : Nat} {trace : List (Item Host)} {item : Item Host} :
    openings id (trace ++ [item]) = openings id trace + if isOpening id item then 1 else 0 := by
  rw [openings, openings, List.countP_append, List.countP_singleton]

lemma closings_concat {id : Nat} {trace : List (Item Host)} {item : Item Host} :
    closings id (trace ++ [item]) = closings id trace + if isClosing id item then 1 else 0 := by
  rw [closings, closings, List.countP_append, List.countP_singleton]

/-- After a trace, an operation concerns only libraries that are open. -/
def Standing (trace : List (Item Host)) : HostOp → Prop
  | .closeLibrary id | .native id _ => closings id trace < openings id trace
  | .openLibrary .. | .readFile _ | .pathExists _ | .print _ => True

/-- What a shelf tells of the trace before it. -/
structure Recorded (trace : List (Item Host)) (s : Shelf) : Prop where
  /-- Every library was opened at most once. -/
  openings_eq : ∀ id, openings id trace = if id ∈ s.ever then 1 else 0
  /-- Those that are not open any more were closed as often. -/
  balanced : ∀ id, openings id trace = closings id trace + if id ∈ s.now then 1 else 0
  /-- Only libraries that were open were called or closed. -/
  standing : ∀ before op reply, before ++ [.called op reply] <+: trace → Standing before op

namespace Recorded

variable {trace : List (Item Host)} {s : Shelf} {leave : Leave} {files : Files}

lemma nil : Recorded [] {} where
  openings_eq id := by simp [openings]
  balanced id := by simp [openings, closings]
  standing before op reply h := by simp at h

/-- What was in order stays so, whatever happens next. -/
lemma standing_concat (h : Recorded trace s) {item : Item Host}
    (hitem : ∀ op reply, item = .called op reply → Standing trace op) {before : List (Item Host)}
    {op : HostOp} {reply : op.Reply} (hpre : before ++ [.called op reply] <+: trace ++ [item]) :
    Standing before op := by
  rcases List.prefix_concat_iff.1 hpre with heq | hpre
  · obtain ⟨rfl, hitem'⟩ := List.append_inj' heq rfl
    exact hitem op reply (List.cons.inj hitem').1.symm
  · exact h.standing before op reply hpre

lemma unchanged (h : Recorded trace s) {item : Item Host}
    (hopening : ∀ id, isOpening id item = false)
    (hclosing : ∀ id, isClosing id item = false)
    (hitem : ∀ op reply, item = .called op reply → Standing trace op) :
    Recorded (trace ++ [item]) s where
  openings_eq id := by
    rw [openings_concat, hopening, h.openings_eq]
    rfl
  balanced id := by
    rw [openings_concat, closings_concat, hopening, hclosing, h.balanced]
    rfl
  standing _ _ _ hpre := h.standing_concat hitem hpre

lemma standing_of_mem (h : Recorded trace s) {id : Nat} (hid : id ∈ s.now) :
    closings id trace < openings id trace := by
  have hbalanced := h.balanced id
  rw [if_pos hid] at hbalanced
  omega

lemma not_mem_now (h : Recorded trace s) {id : Nat} (hid : id ∉ s.ever) : id ∉ s.now := by
  intro hnow
  have hopenings := h.openings_eq id
  have hstanding := h.standing_of_mem hnow
  rw [if_neg hid] at hopenings
  omega

lemma opened (h : Recorded trace s) {id : Nat} {path : String} {exported : List String}
    (hid : id ∉ s.ever) :
    Recorded (trace ++ [.called (.openLibrary id path) (.ok exported)])
      ⟨insert id s.ever, insert id s.now⟩ where
  openings_eq other := by
    rw [openings_concat, h.openings_eq]
    by_cases heq : other = id
    · simp [isOpening, heq, hid]
    · simp [isOpening, heq, Ne.symm heq]
  balanced other := by
    rw [openings_concat, closings_concat, h.balanced]
    by_cases heq : other = id
    · have hnow : id ∉ s.now := h.not_mem_now hid
      simp [isOpening, isClosing, heq, hnow]
    · simp [isOpening, isClosing, heq, Ne.symm heq]
  standing _ _ _ hpre := h.standing_concat (fun op reply hitem => by cases hitem; trivial) hpre

lemma closed (h : Recorded trace s) {id : Nat} {reply : Unit} (hid : id ∈ s.now) :
    Recorded (trace ++ [.called (.closeLibrary id) reply]) { s with now := s.now.erase id } where
  openings_eq other := by
    rw [openings_concat, h.openings_eq]
    rfl
  balanced other := by
    rw [openings_concat, closings_concat, h.balanced]
    by_cases heq : other = id
    · simp [isOpening, isClosing, heq, hid]
    · simp [isOpening, isClosing, heq, Ne.symm heq]
  standing _ _ _ hpre :=
    h.standing_concat (fun op reply hitem => by cases hitem; exact h.standing_of_mem hid) hpre

/-- A call that is in order changes the shelf. -/
lemma called (h : Recorded trace s) {op : HostOp} (reply : op.Reply) (hop : s.Allows leave op) :
    Recorded (trace ++ [.called op reply]) (s.after op reply) := by
  cases op with
  | openLibrary id path =>
    cases reply with
    | ok exported => exact h.opened hop.2
    | error detail =>
      exact h.unchanged (fun _ => rfl) (fun _ => rfl) fun op reply hitem => by cases hitem; trivial
  | closeLibrary id => exact h.closed hop
  | native id op =>
    refine h.unchanged (fun _ => rfl) (fun _ => rfl) fun op reply hitem => ?_
    cases hitem
    exact h.standing_of_mem hop.2
  | readFile _ | pathExists _ | print _ =>
    exact h.unchanged (fun _ => rfl) (fun _ => rfl) fun op reply hitem => by cases hitem; trivial

/-- **What a shelf tells** is carried over all that is in order. -/
theorem append (h : Recorded trace s) {items : List (Item Host)}
    (hitems : Watch.PermitsAll (Host.watch files) s (items.map (leave, ·))) :
    Recorded (trace ++ items) (Watch.books (Host.watch files) s (items.map (leave, ·))) := by
  induction items generalizing trace s with
  | nil => simpa using h
  | cons item rest ih =>
    -- The first item is put to the trace before it, so the induction is for every trace and shelf.
    rw [← List.singleton_append, ← List.append_assoc]
    cases item with
    | called op reply => exact ih (h.called reply hitems.1) hitems.2
    | noted n =>
      exact ih (h.unchanged (fun _ => rfl) (fun _ => rfl) fun _ _ hitem => by cases hitem) hitems.2

end Recorded

end Shelf

end TensorBridge
