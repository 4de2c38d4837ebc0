import VariableBridge.Number.Binary

/-!
# Configuration values

The values of a configuration text. A table remembers how it came about, since
that decides whether a later line may add to it: it may be written on one line,
be named by a header, or only be part of a longer name.
-/

namespace VariableBridge.Toml

open Number (Double)

/-- How a table came about. -/
structure TableForm where
  /-- Was it only named as a part of a longer name? -/
  implicit : Bool
  /-- Was it named by a dotted key, not by a header? -/
  dotted : Bool
  /-- Was it written as a value on one line? -/
  inline : Bool
  deriving DecidableEq, Repr, Inhabited

/-- A value of a configuration text. -/
inductive Value where
  /-- A text. -/
  | string (content : String)
  /-- An integer of 64 bits. -/
  | integer (value : Int)
  /-- A float. -/
  | float (value : Double)
  /-- A truth value. -/
  | bool (value : Bool)
  /-- A date, a time or both. -/
  | moment
  /-- An array. -/
  | array (elements : List Value)
  /-- A table. -/
  | table (form : TableForm) (members : List (String × Value))
  /-- Tables that are named by repeated headers. -/
  | tables (elements : List Value)
  deriving Repr, Inhabited

/-- The members of a table. -/
abbrev Members := List (String × Value)

namespace TableForm

/-- A table that a header names. -/
def named : TableForm := ⟨false, false, false⟩

/-- A table that is part of a longer name. -/
def through (dotted : Bool) : TableForm := ⟨true, dotted, false⟩

/-- A table that is written on one line. -/
def onLine : TableForm := ⟨false, false, true⟩

/-- A table that is part of a longer name inside of a table on one line. -/
def throughOnLine : TableForm := ⟨true, true, true⟩

end TableForm

/-- Put a value under a name, over the one that is there. -/
def Members.put (members : Members) (name : String) (value : Value) : Members :=
  if members.any (fun m => m.1 == name) then
    members.map fun m => if m.1 == name then (name, value) else m
  else members ++ [(name, value)]

/-- Take a name away. -/
def Members.erase (members : Members) (name : String) : Members :=
  members.filter fun m => m.1 != name

/-- Replace the last element of a list. -/
def replaceLast (elements : List Value) (value : Value) : List Value :=
  elements.dropLast ++ [value]

/-- Follow a path from a table and change the table at its end. Tables on the way
that do not exist are made; repeated headers lead into their last table. A dotted
key may not lead through a table that has been named. -/
def changeAt (dotted : Bool) (change : TableForm → Members → Option (TableForm × Members)) :
    List String → TableForm → Members → Option (TableForm × Members)
  | [], form, members => change form members
  | name :: rest, form, members =>
    match members.lookup name with
    | none => do
      let (childForm, child) ← changeAt dotted change rest (.through dotted) []
      return (form, members.put name (.table childForm child))
    | some (.table childForm child) =>
      if childForm.inline || (dotted && !childForm.implicit) then none
      else do
        let (childForm, child) ← changeAt dotted change rest childForm child
        return (form, members.put name (.table childForm child))
    | some (.tables elements) =>
      match elements.getLast? with
      | some (.table childForm child) => do
        let (childForm, child) ← changeAt dotted change rest childForm child
        return (form, members.put name (.tables (replaceLast elements (.table childForm child))))
      | _ => none
    | some _ => none

/-- Follow a dotted key inside of a table on one line. -/
def changeOnLine (change : TableForm → Members → Option (TableForm × Members)) :
    List String → TableForm → Members → Option (TableForm × Members)
  | [], form, members => change form members
  | name :: rest, form, members =>
    match members.lookup name with
    | none => do
      let (childForm, child) ← changeOnLine change rest .throughOnLine []
      return (form, members.put name (.table childForm child))
    | some (.table childForm child) =>
      if childForm.implicit then do
        let (childForm, child) ← changeOnLine change rest childForm child
        return (form, members.put name (.table childForm child))
      else none
    | some _ => none

/-- Add a member to the table at the end of a path. The name must be new, and only a
path of dotted keys may lead to a dotted table. -/
def addMember (path : List String) (name : String) (value : Value) (form : TableForm)
    (members : Members) : Option (TableForm × Members) :=
  if form.dotted == path.isEmpty then none
  else if members.any (fun m => m.1 == name) then none
  else some (form, members ++ [(name, value)])

end VariableBridge.Toml
