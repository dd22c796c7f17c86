import TensorBridge.Host
import TensorBridge.Path
import TensorBridge.Text.Utf8

/-!
# A tree of files

Files and directories below a working directory, found by walking along the segments of a path.
Every step must start from a directory, and a slash at the end asks for one.  Of what lies outside
the working directory only the directories above it are known, the root among them.
-/

namespace TensorBridge

/-- What is at a place. -/
inductive FileNode where
  /-- A file with its bytes. -/
  | file (bytes : List UInt8)
  /-- A directory. -/
  | directory
deriving DecidableEq, Repr

/-- Files and directories by their segments below the working directory. -/
structure FileTree where
  /-- What has been put there.  The directories on the way to it are there as well. -/
  entries : List (List String × FileNode) := []
deriving DecidableEq, Repr

namespace FileTree

/-- A place, reached by going up a number of times and then down along names. -/
structure Place where
  /-- How often up from the working directory. -/
  up : Nat := 0
  /-- The names downwards. -/
  names : List String := []
deriving DecidableEq, Repr

/-- The root.  All that is known of it is that it is a directory above the working directory, and so
is every place reached by going up from it, as the root is its own parent. -/
def root : Place := { up := 1 }

/-- What is at a place. -/
def nodeAt? (t : FileTree) (p : Place) : Option FileNode :=
  match p.up, p.names with
  | _, [] => some .directory
  | 0, names =>
    match t.entries.find? fun e => e.1 == names with
    | some e => some e.2
    | none =>
      if t.entries.any fun e => names.isPrefixOf e.1 then some .directory else none
  | _ + 1, _ => none

/-- The number of bytes that a segment of a path can have. -/
def segmentLimit : Nat := 255

/-- The number of bytes that a path can have. -/
def pathLimit : Nat := 4095

/-- The place that a step leads to, which must be there. -/
def stepTo (t : FileTree) (p : Place) (segment : List Char) : Except FileFault Place :=
  match t.nodeAt? p with
  | none => .error .notFound
  | some (.file _) => .error .notDirectory
  | some .directory =>
    if segment = [] ∨ segment = ['.'] then .ok p
    else if segment = ['.', '.'] then
      .ok (if p.names.isEmpty then { p with up := p.up + 1 }
        else { p with names := p.names.dropLast })
    else if segmentLimit < byteCount segment then .error .nameTooLong
    else
      let next := { p with names := p.names ++ [String.ofList segment] }
      if (t.nodeAt? next).isSome then .ok next else .error .notFound

/-- The place that a path leads to. -/
def walk (t : FileTree) (path : String) : Except FileFault Place :=
  if path.toList.contains '\x00' then .error .nullInName
  else if path.isEmpty then .error .notFound
  else if pathLimit < byteCount path.toList then .error .nameTooLong
  else
    (Path.segments path.toList).foldlM t.stepTo (if Path.isAbsolute path then root else {})

/-- Reads a file. -/
def read (t : FileTree) (path : String) : Except FileFault (List UInt8) := do
  let place ← t.walk path
  match t.nodeAt? place with
  | some (.file bytes) => return bytes
  | some .directory => throw .isDirectory
  | none => throw .notFound

/-- Whether there is something at a path. -/
def contains (t : FileTree) (path : String) : Bool :=
  match t.walk path with
  | .ok _ => true
  | .error _ => false

/-- Puts a file or a directory at a path, given by its segments alone. -/
def put (t : FileTree) (path : String) (node : FileNode) : FileTree :=
  let names := (Path.segments path.toList).filter fun s => Path.counts false s
  ⟨t.entries ++ [(names.map String.ofList, node)]⟩

end FileTree

end TensorBridge
