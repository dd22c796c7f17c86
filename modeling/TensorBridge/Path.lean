/-!
# Paths

A path is a text; slashes separate its segments.  Empty segments do not count, nor do single dots,
except for one at the very beginning.  The functions here look at the text alone, not at any file.
Paths that are no text are left out.
-/

namespace TensorBridge

namespace Path

/-- The texts between slashes. -/
def segments : List Char → List (List Char)
  | [] => [[]]
  | c :: rest =>
    if c = '/' then [] :: segments rest
    else
      match segments rest with
      | [] => [[c]]
      | segment :: more => (c :: segment) :: more

/-- Whether a path starts at the root. -/
def isAbsolute (path : String) : Bool := path.toList.head? == some '/'

/-- Whether a segment counts, given whether it is the first of the path. -/
def counts (first : Bool) (segment : List Char) : Bool :=
  !segment.isEmpty && (first || segment != ['.'])

/-- Drops the segments at the end that do not count. -/
def trim : List (List Char) → List (List Char)
  | [] => []
  | head :: tail =>
    let tail := (tail.reverse.dropWhile fun s => !counts false s).reverse
    if tail.isEmpty && !counts true head then [] else head :: tail

/-- The segments of a path up to the last that counts. -/
def trimmed (path : String) : List (List Char) := trim (segments path.toList)

/-- The last segment that counts, if it names a file. -/
def fileName? (path : String) : Option (List Char) :=
  match (trimmed path).getLast? with
  | some name => if name = ['.'] ∨ name = ['.', '.'] then none else some name
  | none => none

/-- The part of the file name behind its last dot; a dot at the beginning does not count. -/
def extension? (path : String) : Option String :=
  match fileName? path with
  | none => none
  | some name =>
    let behind := (name.reverse.takeWhile (· ≠ '.')).reverse
    let stem := name.length - behind.length - 1
    if behind.length < name.length ∧ 0 < stem then some (String.ofList behind) else none

/-- The path without its last segment that counts; neither the root nor the empty path has one. -/
def parent? (path : String) : Option String :=
  if (trimmed path).isEmpty then none
  else
    let before := trim (trimmed path).dropLast
    some (if before.isEmpty && isAbsolute path then "/"
      else String.ofList (['/'].intercalate before))

/-- A path taken relative to a directory; an absolute path is left as it is. -/
def join (directory path : String) : String :=
  if isAbsolute path || directory.isEmpty then path
  else if directory.toList.getLast? = some '/' then directory ++ path
  else directory ++ "/" ++ path

end Path

end TensorBridge
