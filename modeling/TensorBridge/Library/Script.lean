import TensorBridge.Library.Desk
import TensorBridge.Memory.Script

/-!
# Scripts on a process

A script loads, keeps, drops and gives up runtime libraries, sets the environment, and makes, uses
and destroys named sessions.
-/

namespace TensorBridge

namespace Desk

/-- A step of a script. -/
inductive Step where
  /-- Opens a library apart from general use. -/
  | attach (path : String) (keep : Option String)
  /-- Searches for a library apart from general use. -/
  | discover (search : LibrarySearch) (keep : Option String)
  /-- Loads the library for general use by a search. -/
  | loadWith (search : LibrarySearch) (keep : Option String)
  /-- Asks for the library for general use. -/
  | runtime (keep : Option String)
  /-- Loads the library for general use. -/
  | load (path : Option String)
  /-- Drops a kept reference. -/
  | dropKept (name : String)
  /-- Gives the library for general use up. -/
  | unload
  /-- Asks whether there is a library for general use. -/
  | isLoaded
  /-- Asks whether there can be one. -/
  | isAvailable
  /-- Asks for one line about it. -/
  | detail
  /-- Makes a session on the library for general use. -/
  | create (name : String) (image : List UInt8)
  /-- Makes a session on a kept library, with the usual drivers unless some are named. -/
  | createOn (name library : String) (image : List UInt8) (drivers : Option (List String))
  /-- Invokes an entry point. -/
  | invoke (name entry : String) (inputs : Except TensorError (List Tensor))
  /-- Asks for the summary of a session. -/
  | inspect (name : String)
  /-- Destroys a session. -/
  | destroy (name : String)
  /-- Sets or clears the path in the environment. -/
  | setLibraryVariable (value : Option String)
  /-- Sets or clears the disabling variable of the environment. -/
  | setDisableVariable (value : Option String)
  /-- Asks for the search that the environment asks for, with a path of the caller if one is given,
  be it none. -/
  | searchOf (path : Option (Option String))

/-- What a step answers. -/
inductive Answer where
  /-- What steps on any runtime answer. -/
  | basic (answer : StepAnswer)
  /-- A library. -/
  | library (library : Library)
  /-- Whether something was dropped. -/
  | dropped (b : Bool)
  /-- Whether a library was given up. -/
  | unloaded (b : Bool)
  /-- Whether there is a library. -/
  | loaded (b : Bool)
  /-- Whether there can be a library. -/
  | available (b : Bool)
  /-- One line. -/
  | detail (line : String)
  /-- A search. -/
  | search (search : LibrarySearch)
  /-- There is no library of the name. -/
  | noLibrary

/-- Keeps a library that was asked for and answers with it. -/
def answerLibrary (name : Option String) : Except BridgeError Library → DeskM Answer
  | .error e => return .basic (.failed e)
  | .ok library => do
    keep name library
    return .library library

/-- Names a session that was asked for and answers with it. -/
def answerSession (name : String) : Except BridgeError HostedSession → DeskM Answer
  | .error e => return .basic (.failed e)
  | .ok s => do
    addSession name s
    return .basic (.session (s.session.summary s.library.description))

/-- Carries out one step. -/
def step : Step → DeskM Answer
  | .attach path name => do answerLibrary name (← attach path)
  | .discover search name => do answerLibrary name (← discover search)
  | .loadWith search name => do answerLibrary name (← loadWith search)
  | .runtime name => do answerLibrary name (← runtime)
  | .load path => do
    match ← load path with
    | .ok () => return .basic .done
    | .error e => return .basic (.failed e)
  | .dropKept name => do return .dropped (← dropKept name)
  | .unload => do return .unloaded (← unload)
  | .isLoaded => do return .loaded (← isLoaded)
  | .isAvailable => do return .available (← isAvailable)
  | .detail => do return .detail (← availabilityDetail)
  | .create name image => do answerSession name (← createSession image)
  | .createOn name library image drivers => do
    match (← get).kept.get? library with
    | none => return .noLibrary
    | some library =>
      answerSession name (← createOn library image (drivers.getD defaultDrivers))
  | .invoke name entry inputs => do
    match (← get).sessions.get? name, inputs with
    | none, _ => return .basic .noSession
    | some _, .error e => return .basic (.badInput e)
    | some s, .ok inputs =>
      match ← invoke name entry s inputs with
      | .ok tensors => return .basic (.results tensors)
      | .error e => return .basic (.failed e)
  | .inspect name => do
    match (← get).sessions.get? name with
    | none => return .basic .noSession
    | some s => return .basic (.session (s.session.summary s.library.description))
  | .destroy name => do
    return .basic (if ← destroySession name then .done else .noSession)
  | .setLibraryVariable value => do
    modify fun d => { d with environment := { d.environment with library := value } }
    return .basic .done
  | .setDisableVariable value => do
    modify fun d => { d with environment := { d.environment with disable := value } }
    return .basic .done
  | .searchOf path => do
    let search ← search
    return .search (match path with
      | none => search
      | some path => search.withExplicit path)

end Desk

end TensorBridge
