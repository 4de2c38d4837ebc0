import VariableBridge.Toml.Scalar

/-!
# Reading a configuration text

A text is a sequence of lines: blank lines, comments, headers of tables, and
keys with their values. The reader keeps the finished tables and the one that
the last header has begun. Arrays may span lines; a table that is a value may
not. Keys and values may be nested only to a fixed depth. Every call is paid
from a budget that the text cannot use up.
-/

namespace VariableBridge.Toml

/-- Parts of a key, and containers around a value, must be fewer than this. -/
def depthBound : Nat := 80

/-- May this character stand in a key without quotes? -/
def isBareKeyChar (c : Char) : Bool := c.isAlphanum || c == '_' || c == '-'

/-- One part of a key. -/
def readKeyPart : List Char → Option (String × List Char)
  | '"' :: rest => (readBasic (rest.length + 1) rest).map fun r => (String.ofList r.1, r.2)
  | '\'' :: rest => (readLiteral rest).map fun r => (String.ofList r.1, r.2)
  | cs =>
    let bare := cs.takeWhile isBareKeyChar
    if bare.isEmpty then none else some (String.ofList bare, cs.dropWhile isBareKeyChar)

/-- The parts of a key between points, with blanks around them. -/
def readKeyParts : Nat → List Char → Option (List String × List Char)
  | 0, _ => none
  | budget + 1, cs =>
    match readKeyPart (skipWs cs) with
    | none => none
    | some (part, rest) =>
      match skipWs rest with
      | '.' :: after => (readKeyParts budget after).map fun r => (part :: r.1, r.2)
      | after => some ([part], after)

/-- A key, as its path and its last part. -/
def readKey (cs : List Char) : Option ((List String × String) × List Char) :=
  match readKeyParts (cs.length + 1) cs with
  | some (parts, rest) =>
    match parts.getLast? with
    | some last => if parts.length < depthBound then some ((parts.dropLast, last), rest) else none
    | none => none
  | none => none

/-- Drop a comment. -/
def skipComment : List Char → List Char
  | '#' :: rest => rest.dropWhile isCommentChar
  | cs => cs

/-- Drop blanks, comments and line breaks inside of an array. -/
def skipGap : Nat → List Char → List Char
  | 0, cs => cs
  | budget + 1, cs =>
    let rest := skipComment (skipWs cs)
    match readNewline rest with
    | some after => skipGap budget after
    | none => rest

/-- Drop blanks, comments and line breaks inside of an array. -/
def skipLines (cs : List Char) : List Char := skipGap cs.length cs

mutual

/-- A value with at most so many containers nested in it. -/
def readValue : Nat → Nat → List Char → Option (Value × List Char)
  | 0, _, _ => none
  | budget + 1, depth, cs =>
    match cs with
    | '"' :: _ => (readString cs).map fun r => (.string r.1, r.2)
    | '\'' :: _ => (readString cs).map fun r => (.string r.1, r.2)
    | 't' :: 'r' :: 'u' :: 'e' :: rest => some (.bool true, rest)
    | 'f' :: 'a' :: 'l' :: 's' :: 'e' :: rest => some (.bool false, rest)
    | '[' :: rest =>
      match depth with
      | 0 => none
      | depth + 1 => (readElements budget depth (skipLines rest)).map fun r => (.array r.1, r.2)
    | '\x7b' :: rest =>
      match depth with
      | 0 => none
      | depth + 1 =>
        match skipWs rest with
        | '\x7d' :: after => some (.table .onLine [], after)
        | inner => (readMembers budget depth [] inner).map fun r => (.table .onLine r.1, r.2)
    | _ => readNumber cs

/-- The elements of an array up to its end. -/
def readElements : Nat → Nat → List Char → Option (List Value × List Char)
  | 0, _, _ => none
  | budget + 1, depth, cs =>
    match cs with
    | ']' :: after => some ([], after)
    | _ =>
      match readValue budget depth cs with
      | none => none
      | some (value, rest) =>
        match skipLines rest with
        | ']' :: after => some ([value], after)
        | ',' :: inner =>
          (readElements budget depth (skipLines inner)).map fun r => (value :: r.1, r.2)
        | _ => none

/-- The members of a table on one line up to its end, added to those before. -/
def readMembers : Nat → Nat → Members → List Char → Option (Members × List Char)
  | 0, _, _, _ => none
  | budget + 1, depth, before, cs =>
    match readKey cs with
    | some ((path, name), '=' :: rest) =>
      match readValue budget depth (skipWs rest) with
      | none => none
      | some (value, rest) =>
        match changeOnLine (addMember path name value) path .onLine before with
        | none => none
        | some (_, members) =>
          match skipWs rest with
          | '\x7d' :: after => some (members, after)
          | ',' :: inner => readMembers budget depth members inner
          | _ => none
    | _ => none

end

/-- Is the rest of a line empty, a comment apart? Gives what stands behind the line. -/
def endLine (cs : List Char) : Option (List Char) :=
  match skipComment (skipWs cs) with
  | [] => some []
  | rest => readNewline rest

/-- What has been read so far. -/
structure Progress where
  /-- The finished tables. -/
  root : Members
  /-- Path to the table that is being read. -/
  path : List String
  /-- Is it one of the tables of a repeated header? -/
  repeated : Bool
  /-- Form of the table that is being read. -/
  form : TableForm
  /-- Members of the table that is being read. -/
  members : Members

namespace Progress

/-- Nothing has been read. -/
def start : Progress := ⟨[], [], false, .named, []⟩

/-- Put a finished table under its name. -/
def place (repeated : Bool) (name : String) (value : Value) (form : TableForm)
    (members : Members) : Option (TableForm × Members) :=
  match repeated, members.lookup name with
  | true, none => some (form, members.put name (.tables [value]))
  | true, some (.tables elements) => some (form, members.put name (.tables (elements ++ [value])))
  | false, none => some (form, members.put name value)
  | _, _ => none

/-- Put the table that is being read into its place. -/
def finish (p : Progress) : Option Members :=
  match p.path.getLast? with
  | none => some p.members
  | some name =>
    (changeAt false (place p.repeated name (.table p.form p.members)) p.path.dropLast .named
      p.root).map Prod.snd

/-- Add a key with its value to the table that is being read. -/
def add (p : Progress) (path : List String) (name : String) (value : Value) : Option Progress :=
  (changeAt true (addMember path name value) path p.form p.members).map fun t =>
    { p with form := t.1, members := t.2 }

/-- Take a table away that a header may name: one that so far is only part of longer names. -/
def claim (name : String) (form : TableForm) (members : Members) : Option (TableForm × Members) :=
  match members.lookup name with
  | none => some (form, members)
  | some (.table childForm _) =>
    if childForm.implicit && !childForm.dotted && !childForm.inline then
      some (form, members.erase name)
    else none
  | some _ => none

/-- The members of the table at the end of a path. -/
def membersAt : List String → Members → Members
  | [], members => members
  | name :: rest, members =>
    match members.lookup name with
    | some (.table _ child) => membersAt rest child
    | some (.tables elements) =>
      match elements.getLast? with
      | some (.table _ child) => membersAt rest child
      | _ => []
    | _ => []

/-- Begin the table of a header. -/
def beginTable (p : Progress) (path : List String) (name : String) : Option Progress := do
  let root ← p.finish
  let (_, claimed) ← changeAt false (claim name) path .named root
  return ⟨claimed, path ++ [name], false, .named, membersAt (path ++ [name]) root⟩

/-- Can a table be added under the name of a repeated header? -/
def allowRepeated (name : String) (form : TableForm) (members : Members) :
    Option (TableForm × Members) :=
  match members.lookup name with
  | none => some (form, members)
  | some (.tables _) => some (form, members)
  | some _ => none

/-- Begin a table of a repeated header. -/
def beginRepeated (p : Progress) (path : List String) (name : String) : Option Progress := do
  let root ← p.finish
  let (_, allowed) ← changeAt false (allowRepeated name) path .named root
  return ⟨allowed, path ++ [name], true, .named, []⟩

end Progress

/-- A line that is not blank, with its end. -/
def readLine (p : Progress) (cs : List Char) : Option (Progress × List Char) :=
  match cs with
  | '#' :: _ => (endLine cs).map fun rest => (p, rest)
  | '[' :: '[' :: rest => do
    let ((path, name), rest) ← readKey rest
    let rest ← dropText [']', ']'] rest
    let rest ← endLine rest
    let p ← p.beginRepeated path name
    return (p, rest)
  | '[' :: rest => do
    let ((path, name), rest) ← readKey rest
    let rest ← dropText [']'] rest
    let rest ← endLine rest
    let p ← p.beginTable path name
    return (p, rest)
  | cs => do
    let ((path, name), rest) ← readKey cs
    let rest ← dropText ['='] rest
    let rest := skipWs rest
    let (value, rest) ← readValue (2 * rest.length + 2) (depthBound - 1) rest
    let rest ← endLine rest
    let p ← p.add path name value
    return (p, rest)

/-- All lines. -/
def readAll : Nat → Progress → List Char → Option Members
  | 0, _, _ => none
  | budget + 1, p, cs =>
    match skipWs cs with
    | [] => p.finish
    | line =>
      match readNewline line with
      | some rest => readAll budget p rest
      | none =>
        match readLine p line with
        | some (p, rest) => readAll budget p rest
        | none => none

/-- The members of a configuration text. A byte-order mark at the start is passed over. -/
def parse (text : String) : Option Members :=
  let cs := match text.toList with
    | '\uFEFF' :: rest => rest
    | cs => cs
  readAll (cs.length + 1) .start cs

end VariableBridge.Toml
