import TensorBridge.Native.Backend

/-!
# What the bridge needs from its host

Files, shared libraries, the functions in them, and a place to print to.  A library that is asked
for gets a number from the asker, by which it is called and closed; the same file opened twice is
two libraries.
-/

namespace TensorBridge

/-- Why a file cannot be read. -/
inductive FileFault where
  /-- There is no such file. -/
  | notFound
  /-- Something on the way to the file is no directory. -/
  | notDirectory
  /-- The file is a directory. -/
  | isDirectory
  /-- The path, or a segment of it, is too long. -/
  | nameTooLong
  /-- The path holds a null character. -/
  | nullInName
  /-- Any other reason, in the words of the system. -/
  | other (detail : String)
deriving DecidableEq, Repr

/-- The text of the fault. -/
def FileFault.message : FileFault → String
  | notFound => "No such file or directory (os error 2)"
  | notDirectory => "Not a directory (os error 20)"
  | isDirectory => "Is a directory (os error 21)"
  | nameTooLong => "File name too long (os error 36)"
  | nullInName => "file name contained an unexpected NUL byte"
  | other detail => detail

/-- The operations of a host. -/
inductive HostOp where
  /-- Opens a shared library and tells the symbols it exports. -/
  | openLibrary (id : Nat) (path : String)
  /-- Closes a library. -/
  | closeLibrary (id : Nat)
  /-- Calls a function of a library. -/
  | native (id : Nat) (op : NativeOp)
  /-- Reads a file. -/
  | readFile (path : String)
  /-- Asks whether there is something at a path. -/
  | pathExists (path : String)
  /-- Prints a text and a line break. -/
  | print (text : String)
deriving DecidableEq, Repr

/-- What each operation replies.  A library that cannot be opened has a reason in the words of the
system. -/
abbrev HostOp.Reply : HostOp → Type
  | openLibrary .. => Except String (List String)
  | closeLibrary _ | print _ => Unit
  | native _ op => op.Reply
  | readFile _ => Except FileFault (List UInt8)
  | pathExists _ => Bool

/-- The interface of a host. -/
abbrev Host : Interface := ⟨HostOp, HostOp.Reply⟩

/-- Has native calls answered by a library. -/
def Host.ofNative {α : Type} (id : Nat) (p : Program Native α) : Program Host α :=
  p.expand fun op => Program.perform (I := Host) (.native id op)

end TensorBridge
