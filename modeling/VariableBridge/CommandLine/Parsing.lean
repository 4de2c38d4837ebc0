import VariableBridge.CommandLine.Options

/-!
# Reading the command line

Arguments are taken from left to right. An option without an attached value
waits for one, and is settled when the next option or flag is recognised or the
arguments end; so an argument that is not known is reported before a bad value
in front of it. All options but the list of variables may be given once.
-/

namespace VariableBridge.CommandLine

/-- Why the arguments cannot be used as they are. -/
inductive UsageError where
  /-- An argument is not known. -/
  | unknownArgument
  /-- A value is missing or empty. -/
  | invalidValue
  /-- A value is no number of the option's range. -/
  | valueValidation
  /-- An option is given twice. -/
  | argumentConflict
  /-- A flag is given a value. -/
  | tooManyValues
  /-- The help text was asked for. -/
  | displayHelp
  /-- The version was asked for. -/
  | displayVersion
  deriving DecidableEq, Repr

/-- What can be given by name. -/
inductive Name where
  /-- Where the configuration file lies. -/
  | config
  /-- Write the default configuration. -/
  | init
  /-- Variables to send. -/
  | vars
  /-- Cycles to skip. -/
  | skip
  /-- Cycles to run. -/
  | cycles
  /-- Port of the sample server. -/
  | serve
  /-- Leave single samples out. -/
  | quiet
  /-- The help text. -/
  | help
  /-- The version. -/
  | version
  deriving DecidableEq, Repr

namespace Name

/-- Does the name stand before a value? -/
def takesValue : Name → Bool
  | .config => true
  | .vars => true
  | .skip => true
  | .cycles => true
  | .serve => true
  | _ => false

/-- The name of a word behind two hyphens. -/
def ofLong (word : String) : Option Name :=
  [("config", Name.config), ("init", .init), ("vars", .vars), ("skip", .skip),
    ("cycles", .cycles), ("serve", .serve), ("quiet", .quiet), ("help", .help),
    ("version", .version)].lookup word

/-- The name of a letter behind one hyphen. -/
def ofShort (letter : Char) : Option Name :=
  [('c', Name.config), ('q', .quiet), ('h', .help), ('V', .version)].lookup letter

end Name

/-- What the arguments so far have said. -/
structure Progress where
  /-- The options that are settled. -/
  options : Options
  /-- Names that may not be given again. -/
  given : List Name
  /-- An option that is not settled yet, with its value if it has one. -/
  waiting : Option (Name × Option String)
  /-- Have the options ended? -/
  ended : Bool
  deriving Repr

namespace Progress

/-- No argument has been taken. -/
def start : Progress := ⟨.none, [], none, false⟩

/-- An integer in decimal digits with an optional sign. -/
def readInteger (text : String) : Option Int :=
  match text.toList with
  | '-' :: rest => (readDigits rest).map fun n => -(n : Int)
  | '+' :: rest => (readDigits rest).map fun n => (n : Int)
  | cs => (readDigits cs).map fun n => (n : Int)
where
  /-- Decimal digits. -/
  readDigits (cs : List Char) : Option Nat :=
    if cs.isEmpty || !cs.all Char.isDigit then none else some (Nat.ofDigitChars 10 cs 0)

/-- A number from zero to below a bound; a minus sign is allowed before a zero. -/
def readRanged (bound : Nat) (text : String) : Except UsageError Nat :=
  match readInteger text with
  | some value =>
    if 0 ≤ value ∧ value < bound then .ok value.toNat else .error .valueValidation
  | none => .error .valueValidation

/-- A number from zero to below a bound without a minus sign. -/
def readUnsigned (bound : Nat) (text : String) : Except UsageError Nat :=
  match readNatural bound text with
  | some value => .ok value
  | none => .error .valueValidation

/-- Options with the value of one of them. -/
def assign (o : Options) (text : String) : Name → Except UsageError Options
  | .config => if text = "" then .error .invalidValue else .ok { o with config := some text }
  | .vars => .ok { o with vars := some (o.vars.getD [] ++ Text.splitAt ',' text) }
  | .skip => (readRanged UInt32.size text).map fun n => { o with skip := some (UInt32.ofNat n) }
  | .serve => (readRanged UInt16.size text).map fun n => { o with serve := some (UInt16.ofNat n) }
  | .cycles =>
    (readUnsigned UInt64.size text).map fun n => { o with cycles := some (UInt64.ofNat n) }
  | _ => .ok o

/-- Settle an option with its value: a missing value is reported first, then a
repetition, then a bad value. -/
def settle (p : Progress) (name : Name) (value : Option String) : Except UsageError Progress :=
  match value with
  | none => .error .invalidValue
  | some text =>
    if p.given.contains name then .error .argumentConflict
    else
      (assign p.options text name).map fun options =>
        { p with options, given := if name = .vars then p.given else name :: p.given }

/-- Settle the option that is waiting. -/
def settleWaiting (p : Progress) : Except UsageError Progress :=
  match p.waiting with
  | none => .ok p
  | some (name, value) => { p with waiting := none }.settle name value

/-- Take a flag. -/
def takeFlag (p : Progress) (name : Name) : Except UsageError Progress := do
  let p ← p.settleWaiting
  match name with
  | .help => .error .displayHelp
  | .version => .error .displayVersion
  | _ =>
    if p.given.contains name then .error .argumentConflict
    else
      let options := match name with
        | .init => { p.options with init := true }
        | .quiet => { p.options with quiet := true }
        | _ => p.options
      return { p with options, given := name :: p.given }

/-- Take an option with the value that is attached to it, if one is. -/
def takeOption (p : Progress) (name : Name) (attached : Option String) :
    Except UsageError Progress := do
  let p ← p.settleWaiting
  match attached with
  | some text => p.settle name (some text)
  | none => return { p with waiting := some (name, none) }

/-- Take a word behind two hyphens. -/
def takeLong (p : Progress) (cs : List Char) : Except UsageError Progress :=
  let word := cs.takeWhile (· != '=')
  let attached := match cs.dropWhile (· != '=') with
    | _ :: value => some (String.ofList value)
    | [] => none
  match Name.ofLong (String.ofList word) with
  | none => .error .unknownArgument
  | some name =>
    if name.takesValue then p.takeOption name attached
    else if attached.isSome then .error .tooManyValues
    else p.takeFlag name

/-- The value attached to a letter: an equals sign in front of it is left out. -/
def attachedToLetter : List Char → Option String
  | [] => none
  | '=' :: value => some (String.ofList value)
  | value => some (String.ofList value)

/-- Take letters behind one hyphen. The first one that takes a value takes the rest. -/
def takeShort (p : Progress) : List Char → Except UsageError Progress
  | [] => .ok p
  | letter :: rest =>
    match Name.ofShort letter with
    | none => .error .unknownArgument
    | some name =>
      if name.takesValue then p.takeOption name (attachedToLetter rest)
      else
        match p.takeFlag name with
        | .error error => .error error
        | .ok p => takeShort p rest

/-- Take a word that is no option: it is the value that is waited for. -/
def takeWord (p : Progress) (word : String) : Except UsageError Progress :=
  match p.waiting with
  | some (name, none) => .ok { p with waiting := some (name, some word) }
  | _ => .error .unknownArgument

/-- Take one argument. -/
def take (p : Progress) (argument : String) : Except UsageError Progress :=
  if p.ended then .error .unknownArgument
  else
    match argument.toList with
    | ['-', '-'] => .ok { p with ended := true }
    | '-' :: '-' :: word => p.takeLong word
    | '-' :: letter :: rest => p.takeShort (letter :: rest)
    | _ => p.takeWord argument

end Progress

/-- The options of the arguments. -/
def parse (arguments : List String) : Except UsageError Options := do
  let taken ← arguments.foldlM Progress.take .start
  let settled ← taken.settleWaiting
  return settled.options

end VariableBridge.CommandLine
