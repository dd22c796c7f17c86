import TensorBridge.Json.Number
import TensorBridge.Text.Quoted

/-!
# JSON values and their text

A JSON value, with the members of an object in the order in which they are written.
`Json.pretty` writes one value or member a line, indented by two spaces a level.
-/

namespace TensorBridge

/-- A JSON value. -/
inductive Json where
  /-- The null value. -/
  | null
  /-- A truth value. -/
  | bool (b : Bool)
  /-- A number. -/
  | number (n : JsonNumber)
  /-- A string. -/
  | string (s : String)
  /-- An array. -/
  | array (elements : List Json)
  /-- An object, its members in order. -/
  | object (members : List (String × Json))
deriving Repr

namespace Json

/-- Left fills a number with zeros up to four hexadecimal digits. -/
def fourHexDigits (n : Nat) : List Char :=
  let digits := hexDigits n
  List.replicate (4 - digits.length) '0' ++ digits

/-- A character inside a JSON string: quotes, backslashes and control characters are escaped. -/
def escape (c : Char) : List Char :=
  if c = '"' then ['\\', '"']
  else if c = '\\' then ['\\', '\\']
  else if c = '\x08' then ['\\', 'b']
  else if c = '\x0c' then ['\\', 'f']
  else if c = '\n' then ['\\', 'n']
  else if c = '\r' then ['\\', 'r']
  else if c = '\t' then ['\\', 't']
  else if c.toNat < 0x20 then ['\\', 'u'] ++ fourHexDigits c.toNat
  else [c]

/-- A string with its quotes. -/
def stringText (s : String) : String :=
  String.ofList ('"' :: s.toList.flatMap escape ++ ['"'])

/-- A line break and the indentation of a level. -/
def newLine (level : Nat) : String :=
  String.ofList ('\n' :: List.replicate (2 * level) ' ')

mutual

/-- The text of a value that stands at a level of indentation. -/
def prettyAt (level : Nat) : Json → String
  | null => "null"
  | bool b => if b then "true" else "false"
  | number n => n.text
  | string s => stringText s
  | array [] => "[]"
  | array elements => "[" ++ prettyElements (level + 1) elements ++ newLine level ++ "]"
  | object [] => "\x7b\x7d"
  | object members => "\x7b" ++ prettyMembers (level + 1) members ++ newLine level ++ "\x7d"

/-- Each element on a line of its own, with commas between. -/
def prettyElements (level : Nat) : List Json → String
  | [] => ""
  | [v] => newLine level ++ prettyAt level v
  | v :: rest => newLine level ++ prettyAt level v ++ "," ++ prettyElements level rest

/-- Each member on a line of its own, with commas between. -/
def prettyMembers (level : Nat) : List (String × Json) → String
  | [] => ""
  | [(name, v)] => newLine level ++ stringText name ++ ": " ++ prettyAt level v
  | (name, v) :: rest =>
    newLine level ++ stringText name ++ ": " ++ prettyAt level v ++ "," ++ prettyMembers level rest

end

/-- The text of a value. -/
def pretty (v : Json) : String := v.prettyAt 0

end Json

end TensorBridge
