import TensorBridge.CommandLine.Command
import TensorBridge.Simulation.Basic

/-!
# The program

Carries the command line out on the files and the environment of this process.  Shared libraries
cannot be opened from here, so every command that needs the runtime reports it as missing.
-/

namespace TensorBridge

namespace Main

/-- The reason why a file cannot be opened or read. -/
def faultOf : IO.Error → FileFault
  | .noFileOrDirectory .. | .noSuchThing .. => .notFound
  | .inappropriateType _ code _ =>
    if code = 21 then .isDirectory else .notDirectory
  | e => .other (toString e)

/-- Whether there is something at a path. -/
def exists? (path : String) : IO Bool := do
  try
    let _ ← IO.FS.Handle.mk path .read
    return true
  catch e => return faultOf e != .notFound && faultOf e != .notDirectory

/-- Carries one operation out.  Native functions are never called, for no library is open. -/
def perform : (op : HostOp) → IO op.Reply
  | .openLibrary _ _ => return .error "shared libraries cannot be opened"
  | .closeLibrary _ => return ()
  | .native _ op => return (Simulation.handle op {}).1
  | .readFile path => do
    try return .ok (← IO.FS.readBinFile path).toList
    catch e => return .error (faultOf e)
  | .pathExists path => exists? path
  | .print text => IO.println text

/-- Runs a program, with its notices on the error output if they are to be told. -/
def run {α : Type} (tells : Notice → Bool) : Program Host α → IO α
  | .done a => return a
  | .call op next => do run tells (next (← perform op))
  | .note n next => do
    if tells n then IO.eprintln n.text
    run tells next

end Main

end TensorBridge

open TensorBridge in
/-- The program. -/
def main (arguments : List String) : IO UInt32 := do
  match CommandLine.read arguments with
  | .error usage =>
    if usage = .misuse then IO.eprintln usage.message else IO.println usage.message
    return UInt32.ofNat usage.exitCode
  | .ok line =>
    let environment : Environment := ⟨← IO.getEnv libraryVariable, ← IO.getEnv disableVariable⟩
    let tells (n : Notice) : Bool := n.level = .warning || 0 < line.verbosity
    let work := (line.command.perform line.format).run { environment := environment }
    match (← Main.run tells work).1 with
    | .ok () => return 0
    | .error e =>
      IO.eprintln e.chain.render
      return 1
