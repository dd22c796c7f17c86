import TensorBridge.Library.Basic
import TensorBridge.NameTable
import TensorBridge.Session.Basic

/-!
# One runtime library for a process

A process keeps at most one runtime library for general use.  The first call that needs it opens
it; from then on everyone gets the same one, until it is given up.

A library is closed when nothing holds it any more.  It is held by the process, by callers that
keep a reference under a name, and by the sessions that run on it.  A session holds it four times
over: by itself, and by the guards of its instance, its device and its native session.

The references are counted, one by one, as they are taken and dropped.  Not counted are that of the
process itself, which is the library for general use, and those that are dropped again before the
operation ends that takes them.

One operation is carried out after the other; that several threads may ask for the library at once
is left out, and so is a thread that fails while it has the library for general use in hand.
-/

namespace TensorBridge

/-- A session and the library it runs on. -/
structure HostedSession where
  /-- The session. -/
  session : Session
  /-- Its library. -/
  library : Library
deriving DecidableEq, Repr

/-- What a process keeps. -/
structure Desk where
  /-- The environment of the process. -/
  environment : Environment := {}
  /-- The number of the next library that is opened. -/
  nextLibrary : Nat := 0
  /-- The library for general use. -/
  shared : Option Library := none
  /-- References to libraries, by name. -/
  kept : NameTable Library := {}
  /-- Sessions, by name. -/
  sessions : NameTable HostedSession := {}
  /-- The number of the library of each reference that there is apart from general use. -/
  holders : List Nat := []

/-- A program of a process. -/
abbrev DeskM := StateT Desk (Program Host)

namespace Desk

/-- Has the host carry a program out. -/
def onHost {α : Type} (p : Program Host α) : DeskM α := StateT.lift p

/-- How many references to a library there are apart from general use. -/
def references (d : Desk) (library : Library) : Nat := d.holders.count library.id

/-- Whether anything holds a library. -/
def holds (d : Desk) (library : Library) : Bool :=
  d.shared.any (·.id == library.id) || 0 < d.references library

/-- Closes a library that nothing holds. -/
def closeUnheld (library : Library) : DeskM Unit := do
  unless (← get).holds library do
    onHost (.notify (.libraryUnloading library.path))
    onHost (.perform (I := Host) (.closeLibrary library.id))

/-! ## References -/

/-- Takes a reference to a library. -/
def hold (library : Library) : DeskM Unit :=
  modify fun d => { d with holders := library.id :: d.holders }

/-- Drops a reference to a library, and closes the library if that was the last one. -/
def letGo (library : Library) : DeskM Unit := do
  modify fun d => { d with holders := d.holders.erase library.id }
  closeUnheld library

/-- Keeps a reference under a name, in place of one kept before; without a name the reference is
dropped at once. -/
def keep (name : Option String) (library : Library) : DeskM Unit := do
  hold library
  match name with
  | none => letGo library
  | some name =>
    let old := (← get).kept.get? name
    modify fun d => { d with kept := d.kept.insert name library }
    match old with
    | none => pure ()
    | some old => letGo old

/-- Drops the reference kept under a name and tells whether there was one. -/
def dropKept (name : String) : DeskM Bool := do
  match (← get).kept.get? name with
  | none => return false
  | some library =>
    modify fun d => { d with kept := d.kept.erase name }
    letGo library
    return true

/-! ## Opening -/

/-- Opens a library, apart from general use. -/
def attach (path : String) : DeskM (Except BridgeError Library) := do
  let id := (← get).nextLibrary
  modify fun d => { d with nextLibrary := id + 1 }
  onHost (Library.attach id path).run

/-- Opens the first usable library of a search, apart from general use. -/
def discover (search : LibrarySearch) : DeskM (Except BridgeError Library) := do
  let id := (← get).nextLibrary
  modify fun d => { d with nextLibrary := id + search.paths.length }
  onHost (Library.discover id search).run

/-- The library for general use, opened by a search if there is none yet. -/
def loadWith (search : LibrarySearch) : DeskM (Except BridgeError Library) := do
  match (← get).shared with
  | some library => return .ok library
  | none =>
    match ← discover search with
    | .ok library =>
      modify fun d => { d with shared := some library }
      return .ok library
    | .error e => return .error e

/-- The search that the environment asks for. -/
def search : DeskM LibrarySearch := return .ofEnvironment (← get).environment

/-- Loads the library for general use, trying a path of the caller first. -/
def load (path : Option String) : DeskM (Except BridgeError Unit) := do
  match ← loadWith ((← search).withExplicit path) with
  | .ok _ => return .ok ()
  | .error e => return .error e

/-- The library for general use, loaded from where the environment says if need be. -/
def runtime : DeskM (Except BridgeError Library) := do loadWith (← search)

/-- Gives the library for general use up and tells whether there was one. -/
def unload : DeskM Bool := do
  match (← get).shared with
  | none => return false
  | some library =>
    modify fun d => { d with shared := none }
    let holders := (← get).references library
    if 0 < holders then
      onHost (.notify (.unloadWhileHeld library.path holders))
    closeUnheld library
    return true

/-- Whether there is a library for general use. -/
def isLoaded : DeskM Bool := return (← get).shared.isSome

/-- Whether there can be a library for general use; it is loaded if need be. -/
def isAvailable : DeskM Bool := do
  match ← runtime with
  | .ok _ => return true
  | .error _ => return false

/-- The text of a truth value. -/
def flagText (b : Bool) : String := if b then "true" else "false"

/-- One line about the library for general use; it is loaded if need be.  There is support for a
runtime, as always here. -/
def availabilityDetail : DeskM String := do
  let search ← search
  let found ← loadWith search
  let (there, path) :=
    match found with
    | .ok library => (true, library.path)
    | .error _ => (false, "-")
  return s!"runtime={flagText there} disabled={flagText search.disabled} feature=true path={path}"

/-! ## Sessions -/

/-- Takes the references of a new session: those of the guards of its instance, its device and its
native session, and its own. -/
def holdForSession (library : Library) : DeskM Unit := do
  hold library
  hold library
  hold library
  hold library

/-- Drops the references of a session: those of its guards, the newest one first, and its own. -/
def letGoOfSession (library : Library) : DeskM Unit := do
  letGo library
  letGo library
  letGo library
  letGo library

/-- Makes a session on a library. -/
def createOn (library : Library) (image : List UInt8) (drivers : List String) :
    DeskM (Except BridgeError HostedSession) := do
  match ← onHost (library.host (Session.create library.description image drivers).run) with
  | .ok session =>
    holdForSession library
    return .ok ⟨session, library⟩
  | .error e => return .error e

/-- Makes a session on the library for general use.  An empty module is refused before the library
is asked for. -/
def createSession (image : List UInt8) : DeskM (Except BridgeError HostedSession) := do
  if image.isEmpty then
    return .error (.invalidArgument "module" "module image is empty")
  else
    match ← runtime with
    | .ok library => createOn library image defaultDrivers
    | .error e => return .error e

/-- Destroys a session that is in no table any more, and closes its library if nothing else holds
it. -/
def discard (s : HostedSession) : DeskM Unit := do
  onHost (s.library.host s.session.destroy)
  letGoOfSession s.library

/-- Puts a session under a name and destroys the one that was there before. -/
def addSession (name : String) (s : HostedSession) : DeskM Unit := do
  let old := (← get).sessions.get? name
  modify fun d => { d with sessions := d.sessions.insert name s }
  match old with
  | none => pure ()
  | some old => discard old

/-- Takes the session out that has a name, and destroys it. -/
def destroySession (name : String) : DeskM Bool := do
  match (← get).sessions.get? name with
  | none => return false
  | some s =>
    modify fun d => { d with sessions := d.sessions.erase name }
    discard s
    return true

/-- Invokes an entry point on the session that has a name. -/
def invoke (name entry : String) (s : HostedSession) (inputs : List Tensor) :
    DeskM (Except BridgeError (List Tensor)) := do
  let (result, session) ← onHost (s.library.host (s.session.invoke entry inputs))
  modify fun d => { d with sessions := d.sessions.insert name { s with session := session } }
  return result

/-- Destroys all sessions and drops all references, each in the order of their names, and gives the
library for general use up. -/
def finish : DeskM Unit := do
  (← get).sessions.names.forM fun name => do
    let _ ← destroySession name
  (← get).kept.names.forM fun name => do
    let _ ← dropKept name
  let _ ← unload

end Desk

end TensorBridge
