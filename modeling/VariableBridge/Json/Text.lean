/-!
# JSON strings

Inside quotes a string is a sequence of units: plain characters and escaped
16-bit codes. Two codes of a surrogate pair that stand next to each other are
one character; a code of a pair that stands alone is no text.
-/

namespace VariableBridge.Json

/-- One unit of a string. -/
inductive TextUnit where
  /-- A character, written plainly or escaped by letter. -/
  | char (c : Char)
  /-- A character escaped by its 16-bit code. -/
  | code (value : Nat)
  deriving DecidableEq, Repr

/-- Value of a hexadecimal digit. -/
def hexValue (c : Char) : Option Nat :=
  if '0' ≤ c ∧ c ≤ '9' then some (c.toNat - '0'.toNat)
  else if 'a' ≤ c ∧ c ≤ 'f' then some (c.toNat - 'a'.toNat + 10)
  else if 'A' ≤ c ∧ c ≤ 'F' then some (c.toNat - 'A'.toNat + 10)
  else none

/-- Value of four hexadecimal digits. -/
def hexCode (a b c d : Char) : Option Nat := do
  let w ← hexValue a
  let x ← hexValue b
  let y ← hexValue c
  let z ← hexValue d
  return ((w * 16 + x) * 16 + y) * 16 + z

/-- The character that a letter behind a backslash stands for. -/
def escapeLetter : Char → Option Char
  | '"' => some '"'
  | '\\' => some '\\'
  | '/' => some '/'
  | 'b' => some '\x08'
  | 'f' => some '\x0c'
  | 'n' => some '\n'
  | 'r' => some '\r'
  | 't' => some '\t'
  | _ => none

/-- Units up to the closing quote, and what stands behind it. -/
def readUnits : List Char → Option (List TextUnit × List Char)
  | [] => none
  | '"' :: rest => some ([], rest)
  | '\\' :: 'u' :: a :: b :: c :: d :: rest =>
    match hexCode a b c d, readUnits rest with
    | some code, some (units, after) => some (.code code :: units, after)
    | _, _ => none
  | '\\' :: letter :: rest =>
    match escapeLetter letter, readUnits rest with
    | some c, some (units, after) => some (.char c :: units, after)
    | _, _ => none
  | c :: rest =>
    if c.toNat < 0x20 ∨ c = '\\' then none
    else match readUnits rest with
      | some (units, after) => some (.char c :: units, after)
      | none => none

/-- Does a code begin a surrogate pair? -/
def isHighSurrogate (code : Nat) : Bool := 0xD800 ≤ code && code < 0xDC00

/-- Does a code end a surrogate pair? -/
def isLowSurrogate (code : Nat) : Bool := 0xDC00 ≤ code && code < 0xE000

/-- The character of a surrogate pair. -/
def pairChar (high low : Nat) : Char :=
  Char.ofNat (0x10000 + (high - 0xD800) * 0x400 + (low - 0xDC00))

/-- The text of units, if they form one. -/
def decodeUnits : List TextUnit → Option (List Char)
  | [] => some []
  | .char c :: rest => (decodeUnits rest).map (c :: ·)
  | .code high :: .code low :: rest =>
    if isHighSurrogate high then
      if isLowSurrogate low then (decodeUnits rest).map (pairChar high low :: ·) else none
    else if isLowSurrogate high then none
    else (decodeUnits (.code low :: rest)).map (Char.ofNat high :: ·)
  | .code code :: rest =>
    if isHighSurrogate code || isLowSurrogate code then none
    else (decodeUnits rest).map (Char.ofNat code :: ·)

/-- Read a string behind its opening quote. -/
def readText (cs : List Char) : Option (Option String × List Char) :=
  match readUnits cs with
  | some (units, rest) => some ((decodeUnits units).map String.ofList, rest)
  | none => none

/-- Hexadecimal digits of a byte. -/
def byteDigits (n : Nat) : List Char := [Nat.digitChar (n / 16), Nat.digitChar (n % 16)]

/-- A character between quotes. -/
def writeChar (c : Char) : List Char :=
  match c with
  | '"' => ['\\', '"']
  | '\\' => ['\\', '\\']
  | '\x08' => ['\\', 'b']
  | '\x0c' => ['\\', 'f']
  | '\n' => ['\\', 'n']
  | '\r' => ['\\', 'r']
  | '\t' => ['\\', 't']
  | c => if c.toNat < 0x20 then ['\\', 'u', '0', '0'] ++ byteDigits c.toNat else [c]

/-- A string with its quotes. -/
def writeText (s : String) : List Char := '"' :: s.toList.flatMap writeChar ++ ['"']

end VariableBridge.Json
