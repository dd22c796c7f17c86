import Mathlib
import TensorBridge.Proofs.CommandLine.Run
import TensorBridge.Proofs.Literal.Reading
import TensorBridge.Proofs.Literal.Scalars
import TensorBridge.Proofs.Session.Arguments
import TensorBridge.Proofs.Text.Truncation

/-!
# What a run is planned from

A run is planned from what a run file says and from what the flags of the command say, and the plan
depends on the files besides: the run file itself, the module and the library.  Planning looks at
these and at nothing else, so on given files it comes to one end.

* `FileSystem.existsUnique_gives`: a program that only looks at files has one result.
* `RunFile.settings`: what is written down, flags before the run file.
* `FileSystem.Accepts` and `FileSystem.Refuses`: the run that is planned, and the first check that
  fails.
* `Tensor.validate_of_parse`: a tensor that is read from a short literal is in order.
* `Command.run_as_planned`: how a run goes.
-/

namespace TensorBridge

open Program (Item)
open HostOp (Reads)

/-! ## Files -/

/-- What is found when files are looked at. -/
structure FileSystem where
  /-- The bytes of a file, or why it cannot be read. -/
  read : String → Except FileFault (List UInt8)
  /-- Whether there is something at a path. -/
  contains : String → Bool

namespace FileSystem

variable {α : Type} (fs : FileSystem)

/-- Questions about files are answered by the files. -/
def Bears : Item Host → Prop
  | .called (.readFile path) reply => reply = fs.read path
  | .called (.pathExists path) reply => reply = fs.contains path
  | _ => True

/-- Nothing happens but that files are looked at. -/
def Looks (items : List (Item Host)) : Prop :=
  ∀ item ∈ items, item.Within Reads (fun _ => False) ∧ fs.Bears item

/-- The program comes to the value on the files. -/
def Gives (p : Program Host α) (a : α) : Prop :=
  ∃ items, p.Runs items a ∧ ∀ item ∈ items, fs.Bears item

variable {fs} {a b : α} {path : String}

lemma gives_done_iff : fs.Gives (.done a) b ↔ b = a := by
  constructor
  · rintro ⟨items, run, -⟩
    exact (Program.runs_done_iff.1 run).2
  · rintro rfl
    exact ⟨[], .done _, List.forall_mem_nil _⟩

/-- What a call to which there is one answer gives. -/
lemma gives_call_iff {op : HostOp} {next : op.Reply → Program Host α} {answer : op.Reply}
    (hanswer : ∀ reply, fs.Bears (.called op reply) ↔ reply = answer) :
    fs.Gives (.call (I := Host) op next) a ↔ fs.Gives (next answer) a := by
  constructor
  · rintro ⟨items, run, bears⟩
    obtain ⟨reply, rest, rfl, hrest⟩ := Program.runs_call_iff.1 run
    obtain ⟨hreply, hbears⟩ := List.forall_mem_cons.1 bears
    obtain rfl := (hanswer reply).1 hreply
    exact ⟨rest, hrest, hbears⟩
  · rintro ⟨rest, run, bears⟩
    exact ⟨_, .call run, List.forall_mem_cons.2 ⟨(hanswer answer).2 rfl, bears⟩⟩

lemma gives_readFile_iff {next : Except FileFault (List UInt8) → Program Host α} :
    fs.Gives (.call (I := Host) (.readFile path) next) a ↔ fs.Gives (next (fs.read path)) a :=
  gives_call_iff fun _ => Iff.rfl

lemma gives_pathExists_iff {next : Bool → Program Host α} :
    fs.Gives (.call (I := Host) (.pathExists path) next) a ↔ fs.Gives (next (fs.contains path)) a :=
  gives_call_iff fun _ => Iff.rfl

/-- **A program that only looks at files** comes to one value. -/
theorem existsUnique_gives {p : Program Host α} (h : p.Within Reads fun _ => False) :
    ∃! a, fs.Gives p a := by
  induction p with
  | done a => exact ⟨a, gives_done_iff.2 rfl, fun _ => gives_done_iff.1⟩
  | note n next ih => exact absurd h.1 id
  | call op next ih =>
    obtain ⟨hop, hnext⟩ := h
    cases op with
    | readFile path => simpa only [gives_readFile_iff] using ih _ (hnext (fs.read path))
    | pathExists path => simpa only [gives_pathExists_iff] using ih _ (hnext (fs.contains path))
    | _ => exact absurd hop id

end FileSystem

/-! ## What is written down -/

/-- What the run file at a path says, before anything is made of it.  Without a path nothing is
said. -/
inductive FileSystem.Says (fs : FileSystem) : Option String → RunFile → Prop where
  /-- There is no run file. -/
  | nothing : fs.Says none {}
  /-- The run file is a text of the format that its name tells. -/
  | file {path text : String} {bytes : List UInt8} {file : RunFile}
      (read : fs.read path = .ok bytes)
      (decode : Utf8.decode? bytes = some text)
      (parse : (RunFileFormat.ofPath path).read? text = some file) : fs.Says (some path) file

namespace RunFile

/-- The path of a module that a run file names: a relative path leads from the directory of the run
file. -/
def modulePathFrom (config : Option String) (modulePath : String) : String :=
  match config.bind Path.parent? with
  | some directory =>
    if Path.isAbsolute modulePath then modulePath else Path.join directory modulePath
  | none => modulePath

/-- What is written down about a run: the flags count before the run file. -/
def settings (config : Option String) (file flags : RunFile) : RunFile where
  library :=
    match flags.library with
    | some library => some library
    | none => file.library
  modulePath :=
    match flags.modulePath with
    | some modulePath => some modulePath
    | none => file.modulePath.map (modulePathFrom config)
  entry :=
    match flags.entry with
    | some entry => some entry
    | none => file.entry
  inputs := if flags.inputs ≠ [] then flags.inputs else file.inputs

/-- The module of a run file is located from the directory of the run file. -/
lemma modulePath_locate (path : String) (file : RunFile) :
    (file.locate path).modulePath = file.modulePath.map (modulePathFrom (some path)) := by
  have habsolute (directory modulePath : String) : Path.join directory modulePath =
      if Path.isAbsolute modulePath then modulePath else Path.join directory modulePath := by
    split_ifs with h
    · rw [Path.join, h, Bool.true_or, if_pos rfl]
    · rfl
  unfold locate modulePathFrom
  cases hfile : file.modulePath with
  | none => simp [hfile]
  | some modulePath =>
    cases hparent : Path.parent? path with
    | none => simp [hfile, hparent]
    | some directory => simp [hparent, ← habsolute]

/-- Nothing but the module is located. -/
lemma locate_eq (path : String) (file : RunFile) :
    file.locate path = { file with modulePath := (file.locate path).modulePath } := by
  unfold locate
  split <;> rfl

/-- Laying the flags over a run file whose module has been located. -/
lemma merge_locate (path : String) (file flags : RunFile) :
    (file.locate path).merge flags = settings (some path) file flags := by
  obtain ⟨library, modulePath, entry, inputs⟩ := flags
  rw [locate_eq, modulePath_locate, merge, settings]
  cases library <;> cases modulePath <;> cases entry <;> cases inputs <;> rfl

/-- Laying the flags over nothing. -/
lemma merge_empty (flags : RunFile) : merge {} flags = settings none {} flags := by
  obtain ⟨library, modulePath, entry, inputs⟩ := flags
  cases library <;> cases modulePath <;> cases entry <;> cases inputs <;> rfl

end RunFile

/-- What a run starts from is what the run file says, with the module located. -/
lemma FileSystem.Says.gives_startingFile {fs : FileSystem} {config : Option String} {file : RunFile}
    (h : fs.Says config file) : ∃ start, fs.Gives (Command.startingFile config) (.ok start) ∧
      ∀ flags, start.merge flags = RunFile.settings config file flags := by
  cases h with
  | nothing => exact ⟨{}, FileSystem.gives_done_iff.2 rfl, RunFile.merge_empty⟩
  | @file path text bytes file read decode parse =>
    refine ⟨file.locate path, ?_, RunFile.merge_locate path file⟩
    refine FileSystem.gives_readFile_iff.2 ?_
    rw [read]
    refine FileSystem.gives_done_iff.2 ?_
    simp only [RunFile.ofBytes, decode, parse]

/-! ## Checks -/

/-- An entry point with a dot in it, but not at either end. -/
structure RunPlan.Qualified (entry : String) : Prop where
  /-- There is a dot. -/
  dot : '.' ∈ entry.toList
  /-- It does not stand at the beginning. -/
  head : entry.toList.head? ≠ some '.'
  /-- It does not stand at the end. -/
  last : entry.toList.getLast? ≠ some '.'

lemma RunPlan.isQualified_iff {entry : String} : isQualified entry = true ↔ Qualified entry := by
  simp only [isQualified, Bool.and_eq_true, List.contains_iff_mem, bne_iff_ne]
  exact ⟨fun h => ⟨h.1.1, h.1.2, h.2⟩, fun h => ⟨⟨h.dot, h.head⟩, h.last⟩⟩

/-- An entry point is given, and it is qualified. -/
def RunFile.HasEntry (s : RunFile) : Prop := ∃ entry, s.entry = some entry ∧ RunPlan.Qualified entry

/-- The text is a literal of a tensor. -/
def IsLiteral (text : String) : Prop := ∃ tensor, Tensor.parse text = .ok tensor

namespace FileSystem

variable (fs : FileSystem) (s : RunFile)

/-- A module is given, and it is there. -/
def HasModule : Prop := ∃ path, s.modulePath = some path ∧ fs.contains path = true

/-- The library is there if it is given. -/
def HasLibrary : Prop := ∀ path, s.library = some path → fs.contains path = true

/-- The run that is planned when all checks hold. -/
structure Accepts (plan : RunPlan) : Prop where
  /-- It has the module that is given. -/
  module_eq : s.modulePath = some plan.modulePath
  /-- The module is there. -/
  module_there : fs.contains plan.modulePath = true
  /-- It has the entry point that is given. -/
  entry_eq : s.entry = some plan.entry
  /-- The entry point is qualified. -/
  entry_qualified : RunPlan.Qualified plan.entry
  /-- It has the library that is given, if one is. -/
  library_eq : plan.library = s.library
  /-- The library is there. -/
  library_there : fs.HasLibrary s
  /-- Its inputs are what the literals stand for, in order. -/
  inputs :
    List.Forall₂ (fun literal tensor => Tensor.parse literal = .ok tensor) s.inputs plan.inputs

/-- The first check that fails: the checks before it hold. -/
inductive Refuses : RunPlanError → Prop where
  /-- No module is given. -/
  | noModule (missing : s.modulePath = none) : Refuses .noModule
  /-- The module is not there. -/
  | moduleNotFound {path : String} (given : s.modulePath = some path)
      (missing : fs.contains path = false) : Refuses (.moduleNotFound path)
  /-- No entry point is given. -/
  | noEntry (module : fs.HasModule s) (missing : s.entry = none) : Refuses .noEntry
  /-- The entry point is not qualified. -/
  | entryNotQualified {entry : String} (module : fs.HasModule s) (given : s.entry = some entry)
      (unqualified : ¬RunPlan.Qualified entry) : Refuses (.entryNotQualified entry)
  /-- The library is given, but not there. -/
  | libraryNotFound {path : String} (module : fs.HasModule s) (entry : s.HasEntry)
      (given : s.library = some path) (missing : fs.contains path = false) :
      Refuses (.libraryNotFound path)
  /-- An input is no literal, and those before it are. -/
  | badInput {index : Nat} {text : String} {error : TensorError} (module : fs.HasModule s)
      (entry : s.HasEntry) (library : fs.HasLibrary s) (given : s.inputs[index]? = some text)
      (bad : Tensor.parse text = .error error)
      (earlier : ∀ text ∈ s.inputs.take index, IsLiteral text) :
      Refuses (.badInput index error)

/-- What planning comes to. -/
def Plans : Except RunPlanError RunPlan → Prop
  | .ok plan => fs.Accepts s plan
  | .error e => fs.Refuses s e

end FileSystem

/-! ## Reading the inputs -/

namespace RunPlan

variable {literals : List String} {start : Nat}

lemma readInputs_of_forall₂ {tensors : List Tensor}
    (h : List.Forall₂ (fun literal tensor => Tensor.parse literal = .ok tensor) literals tensors) :
    readInputs start literals = .ok tensors := by
  induction h generalizing start with
  | nil => rfl
  | cons hparse _ ih => rw [readInputs, hparse, ih]; rfl

lemma readInputs_of_bad {index : Nat} {text : String} {error : TensorError}
    (given : literals[index]? = some text) (bad : Tensor.parse text = .error error)
    (earlier : ∀ text ∈ literals.take index, IsLiteral text) :
    readInputs start literals = .error (.badInput (start + index) error) := by
  induction literals generalizing start index with
  | nil => cases given
  | cons literal rest ih =>
    cases index with
    | zero =>
      obtain rfl : literal = text := Option.some.inj given
      rw [readInputs, bad]
      rfl
    | succ index =>
      rw [List.take_succ_cons, List.forall_mem_cons] at earlier
      obtain ⟨⟨tensor, hparse⟩, hearlier⟩ := earlier
      rw [readInputs, hparse]
      dsimp only
      rw [ih given hearlier, Nat.add_right_comm, Nat.add_assoc]
      rfl

/-- Either all inputs are literals, or there is a first one that is none. -/
lemma inputs_cases (literals : List String) :
    (∃ tensors, List.Forall₂ (fun literal tensor => Tensor.parse literal = .ok tensor) literals
        tensors) ∨
      ∃ index text error, literals[index]? = some text ∧ Tensor.parse text = .error error ∧
        ∀ text ∈ literals.take index, IsLiteral text := by
  induction literals with
  | nil => exact .inl ⟨[], .nil⟩
  | cons literal rest ih =>
    cases hparse : Tensor.parse literal with
    | error error => exact .inr ⟨0, literal, error, rfl, hparse, List.forall_mem_nil _⟩
    | ok tensor =>
      rcases ih with ⟨tensors, htensors⟩ | ⟨index, text, error, given, bad, earlier⟩
      · exact .inl ⟨_, .cons hparse htensors⟩
      · refine .inr ⟨index + 1, text, error, given, bad, ?_⟩
        rw [List.take_succ_cons]
        exact List.forall_mem_cons.2 ⟨⟨tensor, hparse⟩, earlier⟩

end RunPlan

/-! ## The checks as they are made -/

namespace RunPlan

variable (s : RunFile) (modulePath entry : String)

/-- The plan, if the inputs are literals. -/
def finish : Except RunPlanError RunPlan :=
  (readInputs 0 s.inputs).map fun inputs => ⟨s.library, modulePath, entry, inputs⟩

/-- The check of the library and what follows it. -/
def checkLibrary : Program Host (Except RunPlanError RunPlan) :=
  match s.library with
  | none => .done (finish s modulePath entry)
  | some library => .call (.pathExists library) fun there =>
    .done (if there then finish s modulePath entry else .error (.libraryNotFound library))

/-- The check of the entry point and what follows it. -/
def checkEntry : Program Host (Except RunPlanError RunPlan) :=
  match s.entry with
  | none => .done (.error .noEntry)
  | some entry =>
    if isQualified entry then checkLibrary s modulePath entry
    else .done (.error (.entryNotQualified entry))

variable {s modulePath entry}

lemma ofRunFile_of_none (h : s.modulePath = none) : ofRunFile s = .done (.error .noModule) := by
  unfold ofRunFile
  rw [h]
  rfl

lemma ofRunFile_of_some (h : s.modulePath = some modulePath) : ofRunFile s =
    .call (.pathExists modulePath) fun there =>
      if there then checkEntry s modulePath else .done (.error (.moduleNotFound modulePath)) := by
  unfold ofRunFile
  rw [h]
  refine congrArg (Program.call (I := Host) (.pathExists modulePath)) (funext fun there => ?_)
  cases there with
  | false => rfl
  | true =>
    unfold checkEntry
    cases s.entry with
    | none => rfl
    | some entry =>
      simp only [if_true]
      split_ifs
      · unfold checkLibrary
        cases hlibrary : s.library with
        | none =>
          rw [finish, hlibrary]
          cases readInputs 0 s.inputs <;> rfl
        | some library =>
          refine congrArg (Program.call (I := Host) (.pathExists library)) (funext fun there => ?_)
          cases there with
          | false => rfl
          | true =>
            rw [finish, hlibrary]
            cases readInputs 0 s.inputs <;> rfl
      · rfl

end RunPlan

/-! ## Planning -/

namespace FileSystem

variable {fs : FileSystem} {s : RunFile} {outcome : Except RunPlanError RunPlan}

/-- One of the checks fails first, or all hold. -/
lemma exists_plans (fs : FileSystem) (s : RunFile) : ∃ outcome, fs.Plans s outcome := by
  cases hmodule : s.modulePath with
  | none => exact ⟨.error .noModule, .noModule hmodule⟩
  | some modulePath =>
  cases hthere : fs.contains modulePath with
  | false => exact ⟨.error (.moduleNotFound modulePath), .moduleNotFound hmodule hthere⟩
  | true =>
  have module : fs.HasModule s := ⟨modulePath, hmodule, hthere⟩
  cases hentry : s.entry with
  | none => exact ⟨.error .noEntry, .noEntry module hentry⟩
  | some entry =>
  by_cases hqualified : RunPlan.Qualified entry
  case neg =>
    exact ⟨.error (.entryNotQualified entry), .entryNotQualified module hentry hqualified⟩
  have entry : s.HasEntry := ⟨entry, hentry, hqualified⟩
  by_cases library : fs.HasLibrary s
  case neg =>
    simp only [HasLibrary, not_forall, Bool.not_eq_true] at library
    obtain ⟨path, given, missing⟩ := library
    exact ⟨.error (.libraryNotFound path), .libraryNotFound module entry given missing⟩
  rcases RunPlan.inputs_cases s.inputs with
    ⟨tensors, htensors⟩ | ⟨index, text, error, given, bad, earlier⟩
  · exact ⟨.ok ⟨s.library, modulePath, _, tensors⟩,
      ⟨hmodule, hthere, hentry, hqualified, rfl, library, htensors⟩⟩
  · exact ⟨.error (.badInput index error), .badInput module entry library given bad earlier⟩

section Stages

variable {modulePath entry : String}

/-- When the module has passed. -/
lemma gives_ofRunFile_iff_checkEntry (given : s.modulePath = some modulePath)
    (there : fs.contains modulePath = true) :
    fs.Gives (RunPlan.ofRunFile s) outcome ↔
      fs.Gives (RunPlan.checkEntry s modulePath) outcome := by
  rw [RunPlan.ofRunFile_of_some given, gives_pathExists_iff, there, if_pos rfl]

/-- When the entry point has passed. -/
lemma gives_checkEntry_iff (given : s.entry = some entry) (qualified : RunPlan.Qualified entry) :
    fs.Gives (RunPlan.checkEntry s modulePath) outcome ↔
      fs.Gives (RunPlan.checkLibrary s modulePath entry) outcome := by
  simp only [RunPlan.checkEntry, given, RunPlan.isQualified_iff.2 qualified, if_true]

/-- When the library has passed. -/
lemma HasLibrary.gives_checkLibrary_iff (h : fs.HasLibrary s) :
    fs.Gives (RunPlan.checkLibrary s modulePath entry) outcome ↔
      outcome = RunPlan.finish s modulePath entry := by
  unfold RunPlan.checkLibrary
  cases hlibrary : s.library with
  | none => exact gives_done_iff
  | some library =>
    refine gives_pathExists_iff.trans ?_
    rw [h library hlibrary, if_pos rfl, gives_done_iff]

end Stages

/-- Planning comes to what the checks say. -/
lemma Plans.gives (h : fs.Plans s outcome) : fs.Gives (RunPlan.ofRunFile s) outcome := by
  rcases outcome with e | plan
  · cases (h : fs.Refuses s e) with
    | noModule missing => exact RunPlan.ofRunFile_of_none missing ▸ gives_done_iff.2 rfl
    | moduleNotFound given missing =>
      rw [RunPlan.ofRunFile_of_some given, gives_pathExists_iff, missing]
      exact gives_done_iff.2 rfl
    | noEntry module missing =>
      obtain ⟨modulePath, hgiven, hthere⟩ := module
      rw [gives_ofRunFile_iff_checkEntry hgiven hthere, RunPlan.checkEntry, missing]
      exact gives_done_iff.2 rfl
    | entryNotQualified module given unqualified =>
      obtain ⟨modulePath, hgiven, hthere⟩ := module
      rw [gives_ofRunFile_iff_checkEntry hgiven hthere]
      simp only [RunPlan.checkEntry, given, mt RunPlan.isQualified_iff.1 unqualified]
      exact gives_done_iff.2 rfl
    | @libraryNotFound path module entry given missing =>
      obtain ⟨modulePath, hgiven, hthere⟩ := module
      obtain ⟨entry, hentry, hqualified⟩ := entry
      rw [gives_ofRunFile_iff_checkEntry hgiven hthere, gives_checkEntry_iff hentry hqualified,
        RunPlan.checkLibrary, given]
      refine gives_pathExists_iff.2 ?_
      rw [missing]
      exact gives_done_iff.2 rfl
    | @badInput index text error module entry library given bad earlier =>
      obtain ⟨modulePath, hgiven, hthere⟩ := module
      obtain ⟨entry, hentry, hqualified⟩ := entry
      rw [gives_ofRunFile_iff_checkEntry hgiven hthere, gives_checkEntry_iff hentry hqualified,
        library.gives_checkLibrary_iff, RunPlan.finish, RunPlan.readInputs_of_bad given bad earlier,
        Nat.zero_add]
      rfl
  · have accepts : fs.Accepts s plan := h
    rw [gives_ofRunFile_iff_checkEntry accepts.module_eq accepts.module_there,
      gives_checkEntry_iff accepts.entry_eq accepts.entry_qualified,
      accepts.library_there.gives_checkLibrary_iff, RunPlan.finish,
      RunPlan.readInputs_of_forall₂ accepts.inputs, ← accepts.library_eq]
    rfl

/-- **Planning** comes to the plan of the run or to the first check that fails. -/
theorem gives_ofRunFile_iff : fs.Gives (RunPlan.ofRunFile s) outcome ↔ fs.Plans s outcome := by
  constructor
  · intro h
    obtain ⟨other, hother⟩ := fs.exists_plans s
    obtain rfl := (existsUnique_gives (Command.ofRunFile_within s)).unique h hother.gives
    exact hother
  · exact Plans.gives

/-- **The gate.**  There is a plan just if a module is given and there, an entry point is given and
qualified, the library is there if it is given, and all inputs are literals. -/
theorem exists_accepts_iff : (∃ plan, fs.Accepts s plan) ↔
    fs.HasModule s ∧ s.HasEntry ∧ fs.HasLibrary s ∧ ∀ text ∈ s.inputs, IsLiteral text := by
  constructor
  · rintro ⟨plan, h⟩
    refine ⟨⟨_, h.module_eq, h.module_there⟩, ⟨_, h.entry_eq, h.entry_qualified⟩, h.library_there,
      fun text htext => ?_⟩
    obtain ⟨index, hindex, rfl⟩ := List.getElem_of_mem htext
    exact ⟨_, h.inputs.get hindex (h.inputs.length_eq ▸ hindex)⟩
  · rintro ⟨⟨modulePath, hmodule, hthere⟩, ⟨entry, hentry, hqualified⟩, hlibrary, hinputs⟩
    rcases RunPlan.inputs_cases s.inputs with ⟨tensors, htensors⟩ |
      ⟨index, text, error, given, bad, -⟩
    · exact ⟨⟨s.library, modulePath, entry, tensors⟩,
        ⟨hmodule, hthere, hentry, hqualified, rfl, hlibrary, htensors⟩⟩
    · obtain ⟨tensor, hparse⟩ := hinputs text (List.mem_of_getElem? given)
      rw [bad] at hparse
      cases hparse

end FileSystem

/-! ## Inputs in order -/

/-- There are no more values in a text than characters. -/
lemma Literal.Separated.length_le {items : List (List Char)} {text : List Char}
    (h : Literal.Separated items text) : items.length ≤ text.length := by
  induction h with
  | none => exact Nat.le_refl _
  | last h => exact List.length_pos_iff.2 h.ne_nil
  | more h ne_nil all rest ih =>
    have hitem := List.length_pos_iff.2 h.ne_nil
    simp only [List.length_append, List.length_cons] at ih ⊢
    omega

lemma length_le_byteCount (text : List Char) : text.length ≤ byteCount text := by
  induction text with
  | nil => exact Nat.le_refl _
  | cons c rest ih =>
    have hpos := c.utf8Size_pos
    rw [List.length_cons, byteCount]
    omega

/-- A text has at least one byte for each character. -/
lemma length_toList_le (text : String) : text.toList.length ≤ text.utf8ByteSize := by
  have hle := length_le_byteCount text.toList
  rwa [← utf8ByteSize_ofList, String.ofList_toList] at hle

/-- **A tensor that is read from a short literal** is in order: its values, at most eight bytes
each, are no more than the characters of the literal. -/
theorem Tensor.validate_of_parse {literal : String} {tensor : Tensor}
    (hparse : Tensor.parse literal = .ok tensor) (hshort : 8 * literal.utf8ByteSize < 2 ^ 63) :
    tensor.validate = .ok () := by
  obtain ⟨l, hl, hdenotes⟩ := Tensor.exists_layout_of_parse hparse
  obtain ⟨scalars, hscalars, hdata⟩ := hdenotes.data_eq
  have hcount : tensor.shape.elementCount = .ok l.values.length := by
    rw [l.shape_eq_iff.2 hdenotes.shape_eq, l.elementCount_eq_ok_iff]
    exact ⟨hdenotes.prod_lt, hdenotes.length_eq⟩
  have hlength : tensor.data.length = l.values.length * tensor.elementType.width := by
    rw [hdata, length_bytesOfScalars, hscalars.length_eq, hdenotes.elementType_eq]
  have hbody : l.body.length ≤ literal.toList.length := by
    rw [← hl, Literal.Layout.text]
    simp only [List.length_append, List.length_cons]
    omega
  have hvalues : l.values.length ≤ literal.utf8ByteSize :=
    (l.separated.length_le.trans hbody).trans (length_toList_le literal)
  have hwidth : tensor.elementType.width ≤ 8 := by cases tensor.elementType <;> decide
  refine Tensor.validate_eq_ok_iff.2 ⟨_, hcount, ?_, hlength⟩
  calc l.values.length * tensor.elementType.width
      ≤ literal.utf8ByteSize * 8 := Nat.mul_le_mul hvalues hwidth
    _ < addressSpace := by
        have hspace : addressSpace = 2 ^ 64 := rfl
        omega

/-! ## Runs -/

/-- How a run goes on files, from what is written down about it. -/
inductive FileSystem.Running (fs : FileSystem) (s : RunFile) (format : ReportFormat) (d : Desk) :
    List (Item Host) → Except CommandError Unit → Desk → Prop where
  /-- The first check that fails is reported.  Files have been looked at, and nothing else has been
  done. -/
  | refused {looking : List (Item Host)} {e : RunPlanError} (refuses : fs.Refuses s e)
      (looks : fs.Looks looking) : fs.Running s format d looking (.error (.plan e)) d
  /-- The run is made as planned. -/
  | planned {looking making : List (Item Host)} {plan : RunPlan} {r : Except CommandError Unit}
      {d' : Desk} (accepts : fs.Accepts s plan) (looks : fs.Looks looking)
      (make : (Command.performPlan format plan d).Runs making (r, d')) :
      fs.Running s format d (looking ++ making) r d'

namespace Command

variable {fs : FileSystem} {config : Option String} {file flags s : RunFile} {format : ReportFormat}
  {d d' : Desk} {items : List (Item Host)} {r : Except CommandError Unit}

/-- What is looked at while a program runs that does nothing else. -/
lemma looks_of_runs {α : Type} {p : Program Host α} {a : α} (h : p.Within Reads fun _ => False)
    (run : p.Runs items a) (bears : ∀ item ∈ items, fs.Bears item) : fs.Looks items :=
  fun item hitem => ⟨h.of_runs run item hitem, bears item hitem⟩

/-- A run on files goes as it is planned. -/
lemma running_of_runs (hfile : fs.Says config file)
    (run : (perform format (.run config flags) d).Runs items (r, d'))
    (bears : ∀ item ∈ items, fs.Bears item) :
    fs.Running (RunFile.settings config file flags) format d items r d' := by
  obtain ⟨start, hstart, hmerge⟩ := hfile.gives_startingFile
  obtain ⟨reading, rest, read, _, rfl, hread, hplanning⟩ := Desk.runs_bind_iff.1 run
  obtain ⟨hstarted, rfl⟩ := Desk.runs_onHost_iff.1 hread
  obtain ⟨hreading, hrest⟩ := List.forall_mem_append.1 bears
  have hwithin := startingFile_within config
  obtain rfl : read = .ok start :=
    (FileSystem.existsUnique_gives hwithin).unique ⟨reading, hstarted, hreading⟩ hstart
  obtain ⟨planning, making, planned, _, rfl, hplan, hmaking⟩ := Desk.runs_bind_iff.1 hplanning
  obtain ⟨hplanned, rfl⟩ := Desk.runs_onHost_iff.1 hplan
  have hplanning' := (List.forall_mem_append.1 hrest).1
  have plans := FileSystem.gives_ofRunFile_iff.1 ⟨planning, hplanned, hplanning'⟩
  have looks : fs.Looks (reading ++ planning) := List.forall_mem_append.2
    ⟨looks_of_runs hwithin hstarted hreading,
      looks_of_runs (ofRunFile_within _) hplanned hplanning'⟩
  rw [hmerge] at plans
  cases planned with
  | error e =>
    obtain ⟨rfl, rfl, rfl⟩ := Desk.runs_pure_iff.1 hmaking
    rw [List.append_nil]
    exact .refused plans looks
  | ok plan =>
    rw [← List.append_assoc]
    exact .planned plans looks hmaking

/-- What is planned can happen. -/
lemma exists_looking (hfile : fs.Says config file) {outcome : Except RunPlanError RunPlan}
    (plans : fs.Plans (RunFile.settings config file flags) outcome) :
    ∃ reading planning start, fs.Looks (reading ++ planning) ∧
      (startingFile config).Runs reading (.ok start) ∧
      (RunPlan.ofRunFile (start.merge flags)).Runs planning outcome := by
  obtain ⟨start, ⟨reading, hstarted, hreading⟩, hmerge⟩ := hfile.gives_startingFile
  obtain ⟨planning, hplanned, hplanning⟩ := FileSystem.gives_ofRunFile_iff.2 (hmerge flags ▸ plans)
  exact ⟨reading, planning, start, List.forall_mem_append.2
    ⟨looks_of_runs (startingFile_within config) hstarted hreading,
      looks_of_runs (ofRunFile_within _) hplanned hplanning⟩, hstarted, hplanned⟩

lemma exists_runs_of_refuses (hfile : fs.Says config file) {e : RunPlanError}
    (refuses : fs.Refuses (RunFile.settings config file flags) e) : ∃ looking, fs.Looks looking ∧
      (perform format (.run config flags) d).Runs looking (.error (.plan e), d) := by
  obtain ⟨reading, planning, start, looks, hstarted, hplanned⟩ :=
    exists_looking hfile (show fs.Plans _ (.error e) from refuses)
  refine ⟨reading ++ planning, looks, Desk.runs_bind_iff.2 ⟨_, _, _, d, rfl,
    Desk.runs_onHost_iff.2 ⟨hstarted, rfl⟩, ?_⟩⟩
  refine Desk.runs_bind_iff.2 ⟨planning, [], _, d, (List.append_nil _).symm,
    Desk.runs_onHost_iff.2 ⟨hplanned, rfl⟩, ?_⟩
  exact Desk.runs_pure_iff.2 ⟨rfl, rfl, rfl⟩

lemma exists_runs_of_accepts (hfile : fs.Says config file) {plan : RunPlan}
    (accepts : fs.Accepts (RunFile.settings config file flags) plan) : ∃ looking, fs.Looks looking ∧
      ∀ making r d', (performPlan format plan d).Runs making (r, d') →
        (perform format (.run config flags) d).Runs (looking ++ making) (r, d') := by
  obtain ⟨reading, planning, start, looks, hstarted, hplanned⟩ :=
    exists_looking hfile (show fs.Plans _ (.ok plan) from accepts)
  refine ⟨reading ++ planning, looks, fun making r d' make => ?_⟩
  refine Desk.runs_bind_iff.2 ⟨_, _, _, d, List.append_assoc _ _ _,
    Desk.runs_onHost_iff.2 ⟨hstarted, rfl⟩, ?_⟩
  exact Desk.runs_bind_iff.2 ⟨planning, making, _, d, rfl, Desk.runs_onHost_iff.2 ⟨hplanned, rfl⟩,
    make⟩

/-- **How a run is planned.**  A run on given files comes to one plan, or one check fails first;
there is a plan just if all checks hold, and its inputs are in order unless a literal is enormous.
A run that is refused looks at files and does nothing else, and the process has what it had; a run
that is planned is made as planned.  Each of this can happen. -/
theorem run_as_planned (hfile : fs.Says config file) (hs : s = RunFile.settings config file flags) :
    (∃! outcome, fs.Plans s outcome) ∧
    ((∃ plan, fs.Accepts s plan) ↔
      fs.HasModule s ∧ s.HasEntry ∧ fs.HasLibrary s ∧ ∀ text ∈ s.inputs, IsLiteral text) ∧
    (∀ plan, fs.Accepts s plan → List.Forall₂
      (fun literal tensor => 8 * literal.utf8ByteSize < 2 ^ 63 → tensor.validate = .ok ())
      s.inputs plan.inputs) ∧
    (∀ items r d', (perform format (.run config flags) d).Runs items (r, d') →
      (∀ item ∈ items, fs.Bears item) → fs.Running s format d items r d') ∧
    (∀ e, fs.Refuses s e → ∃ looking, fs.Looks looking ∧
      (perform format (.run config flags) d).Runs looking (.error (.plan e), d)) ∧
    (∀ plan, fs.Accepts s plan → ∃ looking, fs.Looks looking ∧
      ∀ making r d', (performPlan format plan d).Runs making (r, d') →
        (perform format (.run config flags) d).Runs (looking ++ making) (r, d')) := by
  subst hs
  refine ⟨?_, FileSystem.exists_accepts_iff, fun plan accepts => ?_,
    fun items r d' => running_of_runs hfile, fun e => exists_runs_of_refuses hfile,
    fun plan => exists_runs_of_accepts hfile⟩
  · simpa only [FileSystem.gives_ofRunFile_iff] using
      FileSystem.existsUnique_gives (ofRunFile_within _)
  · exact accepts.inputs.imp fun literal tensor => Tensor.validate_of_parse

/-- A run file in a directory, with an entry point from a flag. -/
theorem run_as_planned_relative : ∃ (fs : FileSystem) (file s : RunFile),
    fs.Says (some "conf/run.json") file ∧
      s = RunFile.settings (some "conf/run.json") file { entry := some "a.c" } ∧
      file = { modulePath := some "m", entry := some "a.b", inputs := ["i32=1"] } ∧
      ∃ plan, fs.Accepts s plan ∧ plan.modulePath = "conf/m" ∧ plan.entry = "a.c" ∧
        ∀ tensor ∈ plan.inputs, tensor.validate = .ok () := by
  let fs : FileSystem :=
    ⟨fun _ => .ok (Utf8.encode "[null,\"m\",\"a.b\",[\"i32=1\"]]"), fun path => path == "conf/m"⟩
  let file : RunFile := { modulePath := some "m", entry := some "a.b", inputs := ["i32=1"] }
  let s := RunFile.settings (some "conf/run.json") file { entry := some "a.c" }
  have hdecode : Utf8.decode? (Utf8.encode "[null,\"m\",\"a.b\",[\"i32=1\"]]") =
      some "[null,\"m\",\"a.b\",[\"i32=1\"]]" := by decide +kernel
  have hfile : fs.Says (some "conf/run.json") file := .file rfl hdecode (by decide +kernel)
  have hmodule : s.modulePath = some "conf/m" := by decide
  have hgate :
      fs.HasModule s ∧ s.HasEntry ∧ fs.HasLibrary s ∧ ∀ text ∈ s.inputs, IsLiteral text := by
    refine ⟨⟨"conf/m", hmodule, by decide⟩, ⟨"a.c", rfl, ⟨by decide, by decide, by decide⟩⟩,
      fun path hpath => ?_, fun text htext => ?_⟩
    · cases hpath
    · obtain rfl := List.mem_singleton.1 htext
      exact ⟨⟨.i32, [], [1, 0, 0, 0]⟩, by decide +kernel⟩
  obtain ⟨-, hplan, hvalid, -⟩ := @run_as_planned fs _ file _ s .text {} hfile rfl
  obtain ⟨plan, accepts⟩ := hplan.2 hgate
  refine ⟨fs, file, s, hfile, rfl, rfl, plan, accepts, ?_, ?_, ?_⟩
  · exact Option.some.inj (accepts.module_eq.symm.trans hmodule)
  · exact Option.some.inj (accepts.entry_eq.symm.trans rfl)
  · intro tensor htensor
    obtain ⟨first, rest, hfirst, hrest, hinputs⟩ :=
      List.forall₂_cons_left_iff.1 (hvalid plan accepts)
    obtain rfl := List.forall₂_nil_left_iff.1 hrest
    rw [hinputs, List.mem_singleton] at htensor
    exact htensor ▸ hfirst (by decide)

end Command

end TensorBridge
