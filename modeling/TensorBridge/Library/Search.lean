import TensorBridge.Library.Format
import TensorBridge.Error
import TensorBridge.Text.Blank

/-!
# Where the runtime library is looked for

A search tries a path given by the caller, then one from the environment, then the conventional
names.  The environment can also switch the runtime off.

Values of the environment and paths are texts.  Those that are no text at all are left out.
-/

namespace TensorBridge

/-- The two environment variables that concern the runtime library. -/
structure Environment where
  /-- A path of the runtime library. -/
  library : Option String := none
  /-- Whether the runtime is to be unavailable. -/
  disable : Option String := none
deriving DecidableEq, Repr

/-- Where to look for the runtime library. -/
structure LibrarySearch where
  /-- The path given by the caller. -/
  explicit : Option String := none
  /-- The path from the environment. -/
  environment : Option String := none
  /-- The conventional names. -/
  conventional : List String := []
  /-- Whether nothing is to be looked for at all. -/
  disabled : Bool := false
deriving DecidableEq, Repr

/-- Whether a value of the disabling variable switches the runtime off: one of three words between
optional blanks, in any case. -/
def Environment.isDisabling (value : String) : Bool :=
  let word := String.ofList ((trimBlanks value.toList).map Char.toLower)
  word == "1" || word == "true" || word == "yes"

namespace LibrarySearch

/-- The search that the environment and the platform ask for. -/
def ofEnvironment (env : Environment) : LibrarySearch where
  environment := env.library.filter fun path => !path.isEmpty
  conventional := LibraryFormat.native.conventionalNames
  disabled := (env.disable.map Environment.isDisabling).getD false

/-- The search with a path given by the caller, or with none. -/
def withExplicit (search : LibrarySearch) (path : Option String) : LibrarySearch :=
  { search with explicit := path }

/-- The candidate paths in the order in which they are tried; empty ones are left out. -/
def paths (search : LibrarySearch) : List String :=
  (search.explicit.toList ++ search.environment.toList ++ search.conventional).filter
    fun path => !path.isEmpty

end LibrarySearch

end TensorBridge
