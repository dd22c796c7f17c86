/-!
# Arguments

A list of arguments is read from left to right as a list of tokens: options, words that stand by
themselves, and words that stand behind a double dash.

* An option has a letter and a word: `-f` and `--format`.
* Letters can be written together behind one dash, `-vf`; the first that takes a value ends the
  group, and what follows it is the value, without an equals sign at its beginning.
* The value of a word can follow it behind an equals sign.
* Any other value is the next argument, which must not begin with a dash unless it is only a dash.
* A single dash and the empty argument are words.

Nothing is read past a token that shows misuse.
-/

namespace TensorBridge

/-- What an option is for. -/
inductive OptionKind where
  /-- It is given or not. -/
  | flag
  /-- It has a value. -/
  | value
  /-- It asks for help. -/
  | help
  /-- It asks for the version. -/
  | version
deriving DecidableEq, Repr

/-- An option. -/
structure OptionSpec where
  /-- What stands behind one dash. -/
  letter : Char
  /-- What stands behind two dashes. -/
  word : String
  /-- What it is for. -/
  kind : OptionKind
deriving DecidableEq, Repr

/-- A part of the arguments. -/
inductive Token where
  /-- A flag, by its letter. -/
  | flag (letter : Char)
  /-- An option with its value. -/
  | value (letter : Char) (text : String)
  /-- A word, and all arguments behind it. -/
  | word (text : String) (rest : List String)
  /-- A word behind a double dash. -/
  | literal (text : String)
  /-- The user asks for help. -/
  | help
  /-- The user asks for the version. -/
  | version
  /-- The arguments are wrong. -/
  | misuse
deriving DecidableEq, Repr

/-- How an argument looks. -/
inductive ArgumentShape where
  /-- A double dash. -/
  | doubleDash
  /-- Two dashes, a word, and perhaps a value. -/
  | long (word : String) (attached : Option String)
  /-- One dash and letters. -/
  | letters (letters : List Char)
  /-- Anything else. -/
  | word
deriving DecidableEq, Repr

/-- Looks at an argument. -/
def ArgumentShape.of (argument : String) : ArgumentShape :=
  match argument.toList with
  | ['-', '-'] => .doubleDash
  | '-' :: '-' :: body =>
    let name := String.ofList (body.takeWhile (· ≠ '='))
    match body.dropWhile (· ≠ '=') with
    | _ :: attached => .long name (some (String.ofList attached))
    | [] => .long name none
  | '-' :: c :: rest => .letters (c :: rest)
  | _ => .word

/-- What an argument amounts to: tokens, and perhaps an option that still needs its value. -/
structure Reading where
  /-- The tokens found. -/
  tokens : List Token
  /-- The letter of the option whose value is the next argument. -/
  pending : Option Char := none
deriving DecidableEq, Repr

/-- The reading of an option, given what is attached to it as its value. -/
def OptionSpec.read (option : OptionSpec) (attached : Option String) : Reading :=
  match option.kind, attached with
  | .value, some text => ⟨[.value option.letter text], none⟩
  | .value, none => ⟨[], some option.letter⟩
  | .flag, none => ⟨[.flag option.letter], none⟩
  | .help, none => ⟨[.help], none⟩
  | .version, none => ⟨[.version], none⟩
  | _, some _ => ⟨[.misuse], none⟩

/-- The reading of a group of letters. -/
def readLetters (options : List OptionSpec) : List Char → Reading
  | [] => ⟨[], none⟩
  | c :: rest =>
    match options.find? (·.letter == c) with
    | none => ⟨[.misuse], none⟩
    | some option =>
      if option.kind = .value then
        option.read (if rest.isEmpty then none
          else some (String.ofList (if rest.head? = some '=' then rest.drop 1 else rest)))
      else
        let more := readLetters options rest
        ⟨(option.read none).tokens ++ more.tokens, more.pending⟩

/-- Whether an argument can be the value of the option before it. -/
def canBeValue (argument : String) : Bool := ArgumentShape.of argument == .word

/-- Reads arguments, the first of which may be the value of a pending option. -/
def readArguments (options : List OptionSpec) : (pending : Option Char) → List String → List Token
  | none, [] => []
  | some _, [] => [.misuse]
  | some letter, argument :: rest =>
    if canBeValue argument then .value letter argument :: readArguments options none rest
    else [.misuse]
  | none, argument :: rest =>
    match ArgumentShape.of argument with
    | .doubleDash => rest.map .literal
    | .word => .word argument rest :: readArguments options none rest
    | .letters letters =>
      let reading := readLetters options letters
      reading.tokens ++ readArguments options reading.pending rest
    | .long word attached =>
      match options.find? (·.word == word) with
      | none => [.misuse]
      | some option =>
        let reading := option.read attached
        reading.tokens ++ readArguments options reading.pending rest

/-- The tokens of all arguments. -/
def tokens (options : List OptionSpec) (arguments : List String) : List Token :=
  readArguments options none arguments

end TensorBridge
