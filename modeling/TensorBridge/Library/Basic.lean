import TensorBridge.Host
import TensorBridge.Library.Search
import TensorBridge.Text.Quoted

/-!
# Runtime libraries

A runtime library is usable if it opens and exports every required symbol; the function that
renders statuses is optional.  A library that lacks a symbol is closed again at once.
`Library.discover` takes the first usable candidate of a search.

The bridge is taken to be built with support for a runtime; without it no library is looked for.
-/

namespace TensorBridge

/-- An open runtime library. -/
structure Library where
  /-- The number by which the host knows it. -/
  id : Nat
  /-- The path from which it was opened. -/
  path : String
  /-- Whether it can render statuses. -/
  rendersStatus : Bool
deriving DecidableEq, Repr

namespace Library

/-- The first required symbol that is not exported. -/
def missingSymbol? (exported : List String) : Option String :=
  requiredSymbols.find? fun symbol => !exported.contains symbol

/-- Opens a library under a number. -/
def attach (id : Nat) (path : String) : Action Host Library := do
  let opened ← .always (.perform (I := Host) (.openLibrary id path))
  match opened with
  | .error detail => throw (.loadFailed path detail)
  | .ok exported =>
    match missingSymbol? exported with
    | some symbol =>
      .always (.perform (I := Host) (.closeLibrary id))
      throw (.symbolNotFound path symbol)
    | none =>
      let rendersStatus := exported.contains renderSymbol
      .always (.notify (.libraryLoaded path (.ofPath path) rendersStatus))
      return ⟨id, path, rendersStatus⟩

/-- Opens the first of the candidates that is usable, numbering the attempts from `id` on. -/
def attachFirst (id : Nat) : List String → Program Host (Option Library)
  | [] => return none
  | path :: rest => do
    match ← (attach id path).run with
    | .ok library => return some library
    | .error e =>
      Program.notify (.candidateRejected path e)
      attachFirst (id + 1) rest

/-- Opens the first usable library of a search, numbering the attempts from `id` on. -/
def discover (id : Nat) (search : LibrarySearch) : Action Host Library :=
  if search.disabled then
    throw (.unavailable s!"disabled by {disableVariable}")
  else do
    match ← .always (attachFirst id search.paths) with
    | some library => return library
    | none => throw (.libraryNotFound search.paths)

/-- Has the operations of a session answered by a library. -/
def host {α : Type} (library : Library) (p : Program Backend α) : Program Host α :=
  Host.ofNative library.id (p.expand (Native.perform library.rendersStatus))

/-- The description of a runtime library. -/
def description (library : Library) : String := s!"IREE runtime at {library.path}"

/-- The description of a library with its properties. -/
def describe (library : Library) : String :=
  s!"IreeLibrary \x7b path: {quoted library.path}, renders_status_messages: " ++
    (if library.rendersStatus then "true \x7d" else "false \x7d")

end Library

end TensorBridge
