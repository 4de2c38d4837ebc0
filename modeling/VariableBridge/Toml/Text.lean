import VariableBridge.Json.Text

/-!
# Strings of a configuration text

There are four ways to write a string: on one line or on several, with escapes
or without. A string of several lines may hold up to two quotes in a row, and a
line break right behind its opening is left out.
-/

namespace VariableBridge.Toml

/-- May this character stand in a comment? -/
def isCommentChar (c : Char) : Bool :=
  c == '\t' || (0x20 ≤ c.toNat && c.toNat ≤ 0x7E) || 0x80 ≤ c.toNat

/-- May this character stand plainly between quotes of this kind? -/
def isPlain (quote c : Char) : Bool := isCommentChar c && c != quote

/-- Is this a blank inside of a line? -/
def isWs (c : Char) : Bool := c == ' ' || c == '\t'

/-- Drop the blanks at the start. -/
def skipWs (cs : List Char) : List Char := cs.dropWhile isWs

/-- Value of hexadecimal digits. -/
def hexNumber (cs : List Char) : Option Nat :=
  cs.foldlM (fun n c => (Json.hexValue c).map (16 * n + ·)) 0

/-- The character with a code point. -/
def charOfCode (code : Nat) : Option Char :=
  if code.isValidChar then some (Char.ofNat code) else none

/-- A character by a fixed number of hexadecimal digits. -/
def readCode (digits : Nat) (cs : List Char) : Option (Char × List Char) :=
  if cs.length < digits then none
  else do
    let code ← hexNumber (cs.take digits)
    let c ← charOfCode code
    return (c, cs.drop digits)

/-- The character that an escape stands for, behind its backslash. -/
def readEscape : List Char → Option (Char × List Char)
  | 'b' :: rest => some ('\x08', rest)
  | 't' :: rest => some ('\t', rest)
  | 'n' :: rest => some ('\n', rest)
  | 'f' :: rest => some ('\x0c', rest)
  | 'r' :: rest => some ('\r', rest)
  | '"' :: rest => some ('"', rest)
  | '\\' :: rest => some ('\\', rest)
  | 'u' :: rest => readCode 4 rest
  | 'U' :: rest => readCode 8 rest
  | _ => none

/-- A line break. -/
def readNewline : List Char → Option (List Char)
  | '\n' :: rest => some rest
  | '\r' :: '\n' :: rest => some rest
  | _ => none

/-- Drop blanks and line breaks at the start. -/
def skipBlankLines : Nat → List Char → List Char
  | 0, cs => cs
  | budget + 1, cs =>
    let rest := skipWs cs
    match readNewline rest with
    | some after => skipBlankLines budget after
    | none => rest

/-- What stands behind a backslash that ends its line, without the blank lines. -/
def joinLines (cs : List Char) : Option (List Char) :=
  (readNewline (skipWs cs)).map fun rest => skipBlankLines rest.length rest

/-- Put a character in front of a string that was read. -/
def consChar (c : Char) (r : Option (List Char × List Char)) : Option (List Char × List Char) :=
  r.map fun r => (c :: r.1, r.2)

/-- A string on one line with escapes, behind its opening quote. -/
def readBasic : Nat → List Char → Option (List Char × List Char)
  | 0, _ => none
  | _ + 1, [] => none
  | _ + 1, '"' :: rest => some ([], rest)
  | budget + 1, '\\' :: rest =>
    match readEscape rest with
    | some (c, rest) => consChar c (readBasic budget rest)
    | none => none
  | budget + 1, c :: rest => if isPlain '"' c then consChar c (readBasic budget rest) else none

/-- A string on one line without escapes, behind its opening quote. -/
def readLiteral (cs : List Char) : Option (List Char × List Char) :=
  match cs.dropWhile (isPlain '\'') with
  | '\'' :: rest => some (cs.takeWhile (isPlain '\''), rest)
  | _ => none

/-- What a run of at least three quotes ends with: up to two more quotes belong to the string. -/
def readClosing (quote : Char) : List Char → List Char × List Char
  | a :: b :: rest =>
    if a = quote then if b = quote then ([quote, quote], rest) else ([quote], b :: rest)
    else ([], a :: b :: rest)
  | [a] => if a = quote then ([quote], []) else ([], [a])
  | [] => ([], [])

/-- A string of several lines behind its opening; `escapes` says whether a backslash is special. -/
def readLines (quote : Char) (escapes : Bool) : Nat → List Char → Option (List Char × List Char)
  | 0, _ => none
  | _ + 1, [] => none
  | budget + 1, c :: rest =>
    if c = quote then
      match rest with
      | a :: b :: after =>
        if a = quote ∧ b = quote then some (readClosing quote after)
        else consChar c (readLines quote escapes budget rest)
      | _ => none
    else if escapes ∧ c = '\\' then
      match joinLines rest with
      | some after => readLines quote escapes budget after
      | none =>
        match readEscape rest with
        | some (d, after) => consChar d (readLines quote escapes budget after)
        | none => none
    else
      match readNewline (c :: rest) with
      | some after => consChar '\n' (readLines quote escapes budget after)
      | none =>
        if isPlain quote c then consChar c (readLines quote escapes budget rest) else none

/-- A string of several lines; a line break right behind the opening is left out. -/
def readBlock (quote : Char) (escapes : Bool) (cs : List Char) : Option (List Char × List Char) :=
  let body := (readNewline cs).getD cs
  readLines quote escapes (body.length + 1) body

/-- A string of any kind. -/
def readString : List Char → Option (String × List Char)
  | '"' :: '"' :: '"' :: rest => (readBlock '"' true rest).map fun r => (String.ofList r.1, r.2)
  | '\'' :: '\'' :: '\'' :: rest =>
    (readBlock '\'' false rest).map fun r => (String.ofList r.1, r.2)
  | '"' :: rest => (readBasic (rest.length + 1) rest).map fun r => (String.ofList r.1, r.2)
  | '\'' :: rest => (readLiteral rest).map fun r => (String.ofList r.1, r.2)
  | _ => none

end VariableBridge.Toml
