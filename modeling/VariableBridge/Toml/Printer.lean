import VariableBridge.Number.Text
import VariableBridge.Toml.Value

/-!
# Writing a configuration text

Each string is written in the plainest of five ways that can hold it: between
double quotes, between single quotes, and the same with three quotes and line
breaks; escapes come last. Arrays of more than one element stand on several
lines.
-/

namespace VariableBridge.Toml

open Number (Double NumberStyle)

/-- The longest run of a character. -/
def longestRun (c : Char) : List Char → Nat → Nat
  | [], run => run
  | d :: rest, run => if d = c then longestRun c rest (run + 1) else max run (longestRun c rest 0)

/-- Must this character be escaped in every notation with escapes? Tabs and line
breaks need not. -/
def isControlCode (c : Char) : Bool :=
  (c.toNat < 0x20 && c != '\t' && c != '\n') || c == '\x7f'

/-- What decides how a string is written. -/
structure TextTraits where
  /-- Does it hold a control character? -/
  controls : Bool
  /-- Does it hold a backslash? -/
  backslash : Bool
  /-- Does it hold a line break? -/
  newline : Bool
  /-- Longest run of double quotes. -/
  doubleQuotes : Nat
  /-- Longest run of single quotes. -/
  singleQuotes : Nat
  deriving DecidableEq, Repr

/-- The traits of a string. -/
def TextTraits.of (cs : List Char) : TextTraits where
  controls := cs.any isControlCode
  backslash := cs.contains '\\'
  newline := cs.contains '\n'
  doubleQuotes := longestRun '"' cs 0
  singleQuotes := longestRun '\'' cs 0

/-- The ways to write a string. -/
inductive TextNotation where
  /-- Double quotes on one line. -/
  | basic
  /-- Single quotes on one line. -/
  | literal
  /-- Three double quotes. -/
  | basicBlock
  /-- Three single quotes. -/
  | literalBlock
  deriving DecidableEq, Repr

/-- The plainest way that can hold a string with these traits. -/
def TextTraits.notationFor (t : TextTraits) : TextNotation :=
  if !t.controls && !t.backslash && t.doubleQuotes == 0 && !t.newline then .basic
  else if !t.controls && t.singleQuotes == 0 && !t.newline then .literal
  else if !t.controls && !t.backslash && t.doubleQuotes ≤ 2 then .basicBlock
  else if !t.controls && t.singleQuotes ≤ 2 then .literalBlock
  else if t.newline then .basicBlock
  else .basic

/-- A hexadecimal digit in upper case. -/
def upperDigit (n : Nat) : Char := (Nat.digitChar n).toUpper

/-- A control character by its code point. -/
def escapeCode (c : Char) : List Char :=
  ['\\', 'u', '0', '0', upperDigit (c.toNat / 16), upperDigit (c.toNat % 16)]

/-- A character inside of double quotes; `block` says whether line breaks stay as they are. -/
def escapeChar (block : Bool) (c : Char) : List Char :=
  match c with
  | '\x08' => ['\\', 'b']
  | '\t' => ['\\', 't']
  | '\n' => if block then ['\n'] else ['\\', 'n']
  | '\x0c' => ['\\', 'f']
  | '\r' => ['\\', 'r']
  | '\\' => ['\\', '\\']
  | c => if isControlCode c then escapeCode c else [c]

/-- The characters of a string inside of double quotes. Up to `allowed` quotes in a row
stay as they are; `run` is the number of quotes just before. -/
def escapeText (block : Bool) (allowed : Nat) : Nat → List Char → List Char
  | _, [] => []
  | run, '"' :: rest =>
    if run < allowed then '"' :: escapeText block allowed (run + 1) rest
    else '\\' :: '"' :: escapeText block allowed 0 rest
  | _, c :: rest => escapeChar block c ++ escapeText block allowed 0 rest

/-- The line break behind the opening of a block that has line breaks of its own. -/
def blockStart (newline : Bool) : List Char := if newline then ['\n'] else []

/-- A string in the notation that suits it. -/
def writeString (s : String) : List Char :=
  let cs := s.toList
  let traits := TextTraits.of cs
  match traits.notationFor with
  | .basic => ['"'] ++ escapeText false 0 0 cs ++ ['"']
  | .literal => ['\''] ++ cs ++ ['\'']
  | .basicBlock =>
    ['"', '"', '"'] ++ blockStart traits.newline ++ escapeText true 2 0 cs ++ ['"', '"', '"']
  | .literalBlock =>
    ['\'', '\'', '\''] ++ blockStart traits.newline ++ cs ++ ['\'', '\'', '\'']

/-- Floats always have a fraction, and what is not finite is named. -/
def floatStyle : NumberStyle := ⟨".0", "nan", "inf"⟩

/-- A float. -/
def writeFloat (x : Double) : List Char := (floatStyle.render .binary64 x.datum).toList

/-- A truth value. -/
def writeBool (b : Bool) : List Char := (if b then "true" else "false").toList

/-- A natural number. -/
def writeNat (n : Nat) : List Char := Nat.toDigits 10 n

/-- An array of texts: on one line if there is at most one element. -/
def writeStrings : List String → List Char
  | [] => ['[', ']']
  | [s] => ['['] ++ writeString s ++ [']']
  | ss =>
    ['[', '\n'] ++ ss.flatMap (fun s => "    ".toList ++ writeString s ++ [',', '\n']) ++ [']']

/-- A key with its value on a line. -/
def writeMember (name : String) (value : List Char) : List Char :=
  name.toList ++ " = ".toList ++ value ++ ['\n']

/-- A table under its header. -/
def writeTable (name : String) (members : List (String × List Char)) : List Char :=
  ['['] ++ name.toList ++ [']', '\n'] ++ members.flatMap fun m => writeMember m.1 m.2

end VariableBridge.Toml
