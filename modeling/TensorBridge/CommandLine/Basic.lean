import TensorBridge.CommandLine.Argument
import TensorBridge.Report
import TensorBridge.RunFile.Basic

/-!
# The command line

The arguments name one of three commands, with options for all commands before its name and the
options of the command behind it.  `CommandLine.read` tells which command is meant, or else why
there is none: the user asked for help or for the version, or the arguments are wrong.  What comes
first from the left decides.
-/

namespace TensorBridge

/-- What can be commanded. -/
inductive Command where
  /-- Tells whether the runtime can be loaded, trying a library first. -/
  | probe (library : Option String)
  /-- Makes a run, with what is given in a run file and what is laid over it. -/
  | run (config : Option String) (flags : RunFile)
  /-- Reads literals and shows them. -/
  | parse (literals : List String)
deriving DecidableEq, Repr

/-- A command and the options for all commands. -/
structure CommandLine where
  /-- How much is told besides the results. -/
  verbosity : Nat
  /-- The form of the results. -/
  format : ReportFormat
  /-- The command. -/
  command : Command
deriving DecidableEq, Repr

/-- Why arguments name no command. -/
inductive Usage where
  /-- The user asks for help. -/
  | help
  /-- The user asks for the version. -/
  | version
  /-- The arguments are wrong. -/
  | misuse
deriving DecidableEq, Repr

/-- What is printed in place of results. -/
def Usage.message : Usage → String
  | version => "rt-bridge 0.1.0"
  | help | misuse =>
    "Usage: rt-bridge [-v] [-f text|json] <command>\n\n" ++
    "Commands:\n" ++
    "  probe  Tells whether the runtime library can be loaded\n" ++
    "         [-l library]\n" ++
    "  run    Loads a module and invokes one of its entry points\n" ++
    "         [-c config] [-m module] [-e entry] [-i input]... [-l library]\n" ++
    "  parse  Reads tensor literals and prints them in canonical form\n" ++
    "         literal...\n" ++
    "  help   Prints this text"

/-- The exit code of the program. -/
def Usage.exitCode : Usage → Nat
  | help | version => 0
  | misuse => 2

namespace CommandLine

/-! ## Options -/

/-- The option that asks for help. -/
def helpOption : OptionSpec := ⟨'h', "help", .help⟩

/-- The option that names a library. -/
def libraryOption : OptionSpec := ⟨'l', "library", .value⟩

/-- The options for all commands. -/
def generalOptions : List OptionSpec :=
  [⟨'v', "verbose", .flag⟩, ⟨'f', "format", .value⟩, helpOption, ⟨'V', "version", .version⟩]

/-- The options of a probe. -/
def probeOptions : List OptionSpec := [libraryOption, helpOption]

/-- The options of a run. -/
def runOptions : List OptionSpec :=
  [⟨'c', "config", .value⟩, ⟨'m', "module", .value⟩, ⟨'e', "entry", .value⟩,
    ⟨'i', "input", .value⟩, libraryOption, helpOption]

/-- The options of the reading of literals. -/
def parseOptions : List OptionSpec := [helpOption]

/-- The form of results that a name stands for. -/
def formatNamed? : String → Option ReportFormat
  | "text" => some .text
  | "json" => some .json
  | _ => none

/-- Gives an option its value, which it must not have yet. -/
def setOnce (current : Option String) (value : String) : Except Usage (Option String) :=
  if current.isSome then .error .misuse else .ok (some value)

/-- Gives an option a path as its value, which must not be empty. -/
def setPath (current : Option String) (path : String) : Except Usage (Option String) :=
  if path.isEmpty then .error .misuse else setOnce current path

/-! ## Commands -/

/-- Reads the arguments of a probe. -/
def readProbe : (library : Option String) → List Token → Except Usage Command
  | library, [] => .ok (.probe library)
  | _, .help :: _ => .error .help
  | library, .value _ path :: rest => do readProbe (← setPath library path) rest
  | _, _ => .error .misuse

/-- Takes one option of a run over. -/
def setRunOption (config : Option String) (flags : RunFile) (letter : Char) (value : String) :
    Except Usage (Option String × RunFile) := do
  if letter = 'c' then return (← setPath config value, flags)
  else if letter = 'm' then
    return (config, { flags with modulePath := ← setPath flags.modulePath value })
  else if letter = 'e' then return (config, { flags with entry := ← setOnce flags.entry value })
  else if letter = 'l' then
    return (config, { flags with library := ← setPath flags.library value })
  else return (config, { flags with inputs := flags.inputs ++ [value] })

/-- Reads the arguments of a run. -/
def readRun : (config : Option String) → (flags : RunFile) → List Token → Except Usage Command
  | config, flags, [] => .ok (.run config flags)
  | _, _, .help :: _ => .error .help
  | config, flags, .value letter value :: rest => do
    let (config, flags) ← setRunOption config flags letter value
    readRun config flags rest
  | _, _, _ => .error .misuse

/-- Reads the literals to be shown, of which there must be one. -/
def readParse : (literals : List String) → List Token → Except Usage Command
  | [], [] => .error .misuse
  | literals, [] => .ok (.parse literals)
  | _, .help :: _ => .error .help
  | literals, .word text _ :: rest | literals, .literal text :: rest =>
    readParse (literals ++ [text]) rest
  | _, _ => .error .misuse

/-- The names of the commands. -/
def commandNames : List String := ["probe", "run", "parse", "help"]

/-- Reads a command from its name and the arguments behind it. -/
def readCommand (name : String) (arguments : List String) : Except Usage Command :=
  match name with
  | "probe" => readProbe none (tokens probeOptions arguments)
  | "run" => readRun none {} (tokens runOptions arguments)
  | "parse" => readParse [] (tokens parseOptions arguments)
  | "help" =>
    match arguments with
    | [] => .error .help
    | [topic] => .error (if commandNames.contains topic then .help else .misuse)
    | _ => .error .misuse
  | _ => .error .misuse

/-- Reads the options for all commands, and the command behind them. -/
def readGeneral : (verbosity : Nat) → (format : Option ReportFormat) → List Token →
    Except Usage CommandLine
  | _, _, .help :: _ => .error .help
  | _, _, .version :: _ => .error .version
  | verbosity, format, .flag _ :: rest => readGeneral (verbosity + 1) format rest
  | verbosity, format, .value _ name :: rest =>
    match format, formatNamed? name with
    | none, some format => readGeneral verbosity (some format) rest
    | _, _ => .error .misuse
  | verbosity, format, .word name arguments :: _ =>
    (readCommand name arguments).map fun command => ⟨verbosity, format.getD .text, command⟩
  | _, _, _ => .error .misuse

/-- Reads the arguments of the program. -/
def read (arguments : List String) : Except Usage CommandLine :=
  readGeneral 0 none (tokens generalOptions arguments)

end CommandLine

end TensorBridge
