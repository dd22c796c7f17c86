/-!
# Messages with their causes

What a person reads when something fails: one message, and below it the causes, from the nearest
to the deepest.  A single cause is only indented; several causes are numbered from zero.  Further
lines of a cause are indented as far as its first line.
-/

namespace TensorBridge

/-- A message and its causes, the nearest first. -/
structure ErrorChain where
  /-- What failed. -/
  message : String
  /-- Why it failed. -/
  causes : List String := []
deriving DecidableEq, Repr

namespace ErrorChain

/-- The message and the causes as one list. -/
def texts (e : ErrorChain) : List String := e.message :: e.causes

/-- Puts a text behind a lead, and indents the lines after the first. -/
def hanging (lead : String) (indent : Nat) (text : String) : String :=
  lead ++ String.ofList (text.toList.flatMap fun c =>
    if c = '\n' then '\n' :: List.replicate indent ' ' else [c])

/-- A number between blanks, five characters wide, with a colon. -/
def numbering (n : Nat) : String :=
  let digits := Nat.toDigits 10 n
  String.ofList (List.replicate (5 - digits.length) ' ' ++ digits) ++ ": "

/-- The causes, one below the other. -/
def causesText : List String → String
  | [cause] => "\n" ++ hanging "    " 4 cause
  | causes => String.join (causes.mapIdx fun n cause => "\n" ++ hanging (numbering n) 7 cause)

/-- The whole text. -/
def render (e : ErrorChain) : String :=
  "Error: " ++ e.message ++
    if e.causes.isEmpty then "" else "\n\nCaused by:" ++ causesText e.causes

end ErrorChain

end TensorBridge
