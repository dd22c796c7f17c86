import TensorBridge.Json.Basic
import TensorBridge.Text.Blank
import TensorBridge.Text.Hexadecimal

/-!
# Reading JSON

`Json.read?` reads a text as one JSON value with blanks around it.  Nothing beyond the standard is
accepted: no comments, no commas at the end, no control characters in strings and no half of a
surrogate pair.
-/

namespace TensorBridge

namespace Json

/-- Reads the digits of an escaped code unit, and the second half behind a first half of a
surrogate pair. -/
def takeCodePoint? (text : List Char) : Option (Char × List Char) := do
  let (unit, rest) ← takeHex? 4 text
  if 0xd800 ≤ unit ∧ unit < 0xdc00 then
    match rest with
    | '\\' :: 'u' :: rest =>
      let (low, rest) ← takeHex? 4 rest
      if 0xdc00 ≤ low ∧ low < 0xe000 then
        return (Char.ofNat (0x10000 + (unit - 0xd800) * 0x400 + (low - 0xdc00)), rest)
      else
        none
    | _ => none
  else if 0xdc00 ≤ unit ∧ unit < 0xe000 then
    none
  else
    return (Char.ofNat unit, rest)

/-- The character that a letter behind a backslash stands for. -/
def escaped? : Char → Option Char
  | '"' => some '"'
  | '\\' => some '\\'
  | '/' => some '/'
  | 'b' => some '\x08'
  | 'f' => some '\x0c'
  | 'n' => some '\n'
  | 'r' => some '\r'
  | 't' => some '\t'
  | _ => none

/-- Reads the characters of a string up to and with the closing quote. -/
def takeString? : (fuel : Nat) → List Char → Option (List Char × List Char)
  | 0, _ => none
  | _ + 1, [] => none
  | _ + 1, '"' :: rest => some ([], rest)
  | fuel + 1, '\\' :: 'u' :: rest => do
    let (c, rest) ← takeCodePoint? rest
    let (tail, rest) ← takeString? fuel rest
    return (c :: tail, rest)
  | fuel + 1, '\\' :: c :: rest => do
    let c ← escaped? c
    let (tail, rest) ← takeString? fuel rest
    return (c :: tail, rest)
  | fuel + 1, c :: rest =>
    if c = '\\' ∨ c.toNat < 0x20 then none
    else do
      let (tail, rest) ← takeString? fuel rest
      return (c :: tail, rest)

/-- Drops a given beginning. -/
def dropStart? (start text : List Char) : Option (List Char) :=
  if start.isPrefixOf text then some (text.drop start.length) else none

mutual

/-- Reads a value behind blanks. -/
def takeValue? : (fuel : Nat) → List Char → Option (Json × List Char)
  | 0, _ => none
  | fuel + 1, text =>
    match text.dropWhile isPlainBlank with
    | '"' :: rest => do
      let (s, rest) ← takeString? (rest.length + 1) rest
      return (string (String.ofList s), rest)
    | '[' :: rest =>
      match rest.dropWhile isPlainBlank with
      | ']' :: rest => some (array [], rest)
      | rest => do
        let (elements, rest) ← takeElements? fuel rest
        return (array elements, rest)
    | '\x7b' :: rest =>
      match rest.dropWhile isPlainBlank with
      | '\x7d' :: rest => some (object [], rest)
      | rest => do
        let (members, rest) ← takeMembers? fuel rest
        return (object members, rest)
    | 'n' :: rest => (dropStart? "ull".toList rest).map (null, ·)
    | 't' :: rest => (dropStart? "rue".toList rest).map (bool true, ·)
    | 'f' :: rest => (dropStart? "alse".toList rest).map (bool false, ·)
    | text => (JsonNumber.read? text).map fun found => (number found.1, found.2)

/-- Reads the elements of an array up to and with the closing bracket. -/
def takeElements? : (fuel : Nat) → List Char → Option (List Json × List Char)
  | 0, _ => none
  | fuel + 1, text => do
    let (v, rest) ← takeValue? fuel text
    match rest.dropWhile isPlainBlank with
    | ',' :: rest =>
      let (elements, rest) ← takeElements? fuel rest
      return (v :: elements, rest)
    | ']' :: rest => return ([v], rest)
    | _ => none

/-- Reads the members of an object up to and with the closing brace. -/
def takeMembers? : (fuel : Nat) → List Char → Option (List (String × Json) × List Char)
  | 0, _ => none
  | fuel + 1, text =>
    match text.dropWhile isPlainBlank with
    | '"' :: rest => do
      let (name, rest) ← takeString? (rest.length + 1) rest
      match rest.dropWhile isPlainBlank with
      | ':' :: rest =>
        let (v, rest) ← takeValue? fuel rest
        match rest.dropWhile isPlainBlank with
        | ',' :: rest =>
          let (members, rest) ← takeMembers? fuel rest
          return ((String.ofList name, v) :: members, rest)
        | '\x7d' :: rest => return ([(String.ofList name, v)], rest)
        | _ => none
      | _ => none
    | _ => none

end

/-- Reads a text as one value. -/
def read? (text : List Char) : Option Json :=
  match takeValue? (2 * text.length + 2) text with
  | some (v, rest) => if rest.all isPlainBlank then some v else none
  | none => none

end Json

end TensorBridge
