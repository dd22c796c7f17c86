import TensorBridge.RunFile.Basic
import TensorBridge.Text.Hexadecimal

/-!
# Run files in TOML

`Toml.settings?` reads settings from a TOML document.  A run file only holds strings and arrays of
strings under plain keys, so the reader knows no other values, no tables and no dotted keys; a
document with any of these is no run file, and the answer is the same as for a text that is no TOML
at all.

The functions that take something from the beginning of a text return what they found and the rest
of the text.
-/

namespace TensorBridge

namespace Toml

/-! ## Lines and blanks -/

/-- Whether a character may stand in a comment or, apart from quotes and backslashes, in a string:
every character but the control characters, and the tab. -/
def isInline (c : Char) : Bool := c == '\t' || (0x20 ≤ c.toNat && c.toNat != 0x7f)

/-- Whether a character is a space or a tab. -/
def isSpace (c : Char) : Bool := c == ' ' || c == '\t'

/-- Takes the end of a line: a line feed, perhaps behind a carriage return. -/
def takeBreak? : List Char → Option (List Char)
  | '\n' :: rest => some rest
  | '\r' :: '\n' :: rest => some rest
  | _ => none

/-- Drops the end of a line, if there is one. -/
def dropBreak (text : List Char) : List Char := (takeBreak? text).getD text

/-- Drops blanks, ends of lines and comments.  The flag says whether a comment has begun. -/
def dropFiller : (comment : Bool) → List Char → List Char
  | _, [] => []
  | _, '\r' :: '\n' :: rest => dropFiller false rest
  | comment, c :: rest =>
    if c = '\n' then dropFiller false rest
    else if isSpace c || (comment && isInline c) then dropFiller comment rest
    else if c = '#' then dropFiller true rest
    else c :: rest

/-- Takes what may stand behind a value: blanks, a comment, and the end of the line or text. -/
def takeLineEnd? (text : List Char) : Option (List Char) :=
  let text := text.dropWhile isSpace
  let text := if text.head? = some '#' then text.dropWhile isInline else text
  if text.isEmpty then some [] else takeBreak? text

/-! ## Strings -/

/-- How a string is quoted. -/
structure Quotes where
  /-- The quote at both ends. -/
  mark : Char
  /-- Whether a backslash begins an escape. -/
  escapes : Bool
deriving DecidableEq, Repr

/-- Strings with escapes. -/
def Quotes.basic : Quotes := ⟨'"', true⟩

/-- Strings without escapes. -/
def Quotes.literal : Quotes := ⟨'\'', false⟩

/-- Takes a character that is written by its code point, with a number of digits. -/
def takeCodePoint? (count : Nat) (text : List Char) : Option (Char × List Char) :=
  match takeHex? count text with
  | some (n, rest) => if n.isValidChar then some (Char.ofNat n, rest) else none
  | none => none

/-- Takes what stands behind a backslash. -/
def takeEscape? : List Char → Option (Char × List Char)
  | 'b' :: rest => some ('\x08', rest)
  | 't' :: rest => some ('\t', rest)
  | 'n' :: rest => some ('\n', rest)
  | 'f' :: rest => some ('\x0c', rest)
  | 'r' :: rest => some ('\r', rest)
  | '"' :: rest => some ('"', rest)
  | '\\' :: rest => some ('\\', rest)
  | 'u' :: rest => takeCodePoint? 4 rest
  | 'U' :: rest => takeCodePoint? 8 rest
  | _ => none

/-- Takes a string on one line, from behind its first quote up to and with its last. -/
def takeLine? (quotes : Quotes) : (fuel : Nat) → List Char → Option (List Char × List Char)
  | 0, _ => none
  | _ + 1, [] => none
  | fuel + 1, c :: rest =>
    if c = quotes.mark then some ([], rest)
    else if quotes.escapes ∧ c = '\\' then do
      let (c, rest) ← takeEscape? rest
      let (tail, rest) ← takeLine? quotes fuel rest
      return (c :: tail, rest)
    else if isInline c then do
      let (tail, rest) ← takeLine? quotes fuel rest
      return (c :: tail, rest)
    else
      none

/-- Drops blanks and ends of lines. -/
def dropBlankLines : List Char → List Char
  | [] => []
  | '\r' :: '\n' :: rest => dropBlankLines rest
  | c :: rest => if isSpace c || c == '\n' then dropBlankLines rest else c :: rest

/-- Takes the end of a line behind a backslash, with all blanks and empty lines after it. -/
def takeFold? (text : List Char) : Option (List Char) :=
  (takeBreak? (text.dropWhile isSpace)).map dropBlankLines

/-- Takes a string that may run over several lines, from behind its first three quotes up to and
with its last three.  Up to two more quotes before these belong to the string. -/
def takeLines? (quotes : Quotes) : (fuel : Nat) → List Char → Option (List Char × List Char)
  | 0, _ => none
  | _ + 1, [] => none
  | fuel + 1, c :: rest =>
    let run := ((c :: rest).takeWhile (· = quotes.mark)).length
    if 3 ≤ run then
      let inner := min (run - 3) 2
      some (List.replicate inner quotes.mark, (c :: rest).drop (inner + 3))
    else if quotes.escapes ∧ c = '\\' then
      match takeFold? rest with
      | some rest => takeLines? quotes fuel rest
      | none => do
        let (c, rest) ← takeEscape? rest
        let (tail, rest) ← takeLines? quotes fuel rest
        return (c :: tail, rest)
    else if isInline c then do
      let (tail, rest) ← takeLines? quotes fuel rest
      return (c :: tail, rest)
    else do
      let rest ← takeBreak? (c :: rest)
      let (tail, rest) ← takeLines? quotes fuel rest
      return ('\n' :: tail, rest)

/-- Takes a string of either kind of quotes, with one or three of them at each end. -/
def takeString? (text : List Char) : Option (String × List Char) :=
  let found :=
    match text with
    | '"' :: '"' :: '"' :: rest => takeLines? .basic text.length (dropBreak rest)
    | '\'' :: '\'' :: '\'' :: rest => takeLines? .literal text.length (dropBreak rest)
    | '"' :: rest => takeLine? .basic text.length rest
    | '\'' :: rest => takeLine? .literal text.length rest
    | _ => none
  found.map fun f => (String.ofList f.1, f.2)

/-! ## Settings -/

/-- Takes the strings of an array, from behind its bracket up to and with the closing one.  A comma
may follow the last string. -/
def takeStrings? : (fuel : Nat) → List Char → Option (List String × List Char)
  | 0, _ => none
  | fuel + 1, text =>
    match dropFiller false text with
    | ']' :: rest => some ([], rest)
    | text => do
      let (s, rest) ← takeString? text
      match dropFiller false rest with
      | ',' :: rest =>
        let (more, rest) ← takeStrings? fuel rest
        return (s :: more, rest)
      | ']' :: rest => return ([s], rest)
      | _ => none

/-- Takes a value. -/
def takeSetting? : List Char → Option (Setting × List Char)
  | '[' :: rest => (takeStrings? (rest.length + 1) rest).map fun f => (.texts f.1, f.2)
  | text => (takeString? text).map fun f => (.text f.1, f.2)

/-- Whether a character may stand in a key without quotes. -/
def isKeyCharacter (c : Char) : Bool := c.isAlphanum || c == '-' || c == '_'

/-- Takes a key, with or without quotes. -/
def takeKey? (text : List Char) : Option (String × List Char) :=
  match text with
  | '"' :: rest => (takeLine? .basic text.length rest).map fun f => (String.ofList f.1, f.2)
  | '\'' :: rest => (takeLine? .literal text.length rest).map fun f => (String.ofList f.1, f.2)
  | _ =>
    let key := text.takeWhile isKeyCharacter
    if key.isEmpty then none else some (String.ofList key, text.dropWhile isKeyCharacter)

/-- Takes a line with a key and a value. -/
def takeLineSetting? (text : List Char) : Option ((String × Setting) × List Char) := do
  let (key, rest) ← takeKey? text
  match rest.dropWhile isSpace with
  | '=' :: rest =>
    let (value, rest) ← takeSetting? (rest.dropWhile isSpace)
    let rest ← takeLineEnd? rest
    return ((key, value), rest)
  | _ => none

/-- Reads settings up to the end of the text. -/
def readSettings? : (fuel : Nat) → List Char → Option (List (String × Setting))
  | 0, _ => none
  | fuel + 1, text =>
    match dropFiller false text with
    | [] => some []
    | text => do
      let (setting, rest) ← takeLineSetting? text
      let more ← readSettings? fuel rest
      return setting :: more

/-- The settings of a document.  A byte order mark at its beginning does not count. -/
def settings? (text : String) : Option (List (String × Setting)) :=
  let text := text.toList
  let text := if text.head? = some '\uFEFF' then text.drop 1 else text
  readSettings? (text.length + 1) text

end Toml

end TensorBridge
