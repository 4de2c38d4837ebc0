import VariableBridge.Program.Start
import VariableBridge.Stream.Console

/-!
# The command line

The outer layer of the program. It reads the arguments, the environment and the
files on the way to the configuration, lets the program start on them, brings
the files that have changed to the disk, and prints. The cycles of a run follow
each other at the rate of the signal. A client of the sample server is served
by a feed of the bus; no connection is accepted here. The system is not asked for
the policy of the thread, which counts as an ordinary one, and no log is written.
-/

namespace VariableBridge.Program

open Demo (Run)
open Files (Node Place Tree)

/-- The variables of the environment that the program asks for. -/
def askedVariables : List String := [
  "HOME", "USERPROFILE", "VARSTREAM_VARS", "VARSTREAM_SOURCE_ID", "VARSTREAM_SKIP",
  "VARSTREAM_WS_PORT"]

/-- The variables that are set. -/
def readEnvironment : IO Environment :=
  askedVariables.filterMapM fun name => do
    return (← IO.getEnv name).map fun value => (name, value)

/-- A path to a place. -/
def placePath (place : Place) : String :=
  if place.absolute then "/" ++ "/".intercalate place.parts
  else if place.parts.isEmpty then "."
  else "/".intercalate place.parts

/-- What lies at a path of the disk. -/
def readNode (path : String) : IO (Option Node) := do
  match ← (IO.FS.readBinFile path).toBaseIO with
  | .ok bytes => return some (.file (String.fromUTF8? bytes) privateFileMode)
  | .error (.noFileOrDirectory ..) => return none
  | .error (.inappropriateType ..) => return some (.directory Files.plainDirectoryMode)
  | .error _ => return some (.file none privateFileMode)

/-- The part of the disk that lies on the way from a place; no way leads through a file. -/
def readWay (place : Place) (tree : Tree) : List String → IO Tree
  | [] => return tree
  | part :: rest => do
    let next := place.step part
    match ← readNode (placePath next) with
    | some (.directory mode) => readWay next (tree.put next (.directory mode)) rest
    | some node => return tree.put next node
    | none => readWay next tree rest

/-- The part of the disk that lies on the way to a path. -/
def readTree (path : String) : IO Tree :=
  let way := Files.Route.ofPath path
  readWay way.start .empty way.parts

/-- Three bits of an access mode. -/
def accessRight (bits : Nat) : IO.AccessRight where
  read := bits / 4 % 2 == 1
  write := bits / 2 % 2 == 1
  execution := bits % 2 == 1

/-- Set the access mode of a path. -/
def setMode (path : String) (mode : Nat) : IO Unit :=
  IO.setAccessRights path ⟨accessRight (mode / 64), accessRight (mode / 8), accessRight mode⟩

/-- Bring what has changed to the disk; directories come before what they hold. -/
def writeTree (before after : Tree) : IO Unit := do
  let changed := after.nodes.filter fun n => before.nodes.lookup n.1 != some n.2
  for (place, node) in changed.mergeSort fun a b => a.1.parts.length ≤ b.1.parts.length do
    let path := placePath place
    match node with
    | .directory mode =>
      IO.FS.createDirAll path
      setMode path mode
    | .file content mode =>
      IO.FS.writeFile path (content.getD "")
      if (before.at? place).isNone then setMode path mode

/-- Print the messages that have arrived. -/
def printMessages (quiet : Bool) (printer : Subscriber) (bus : Bus) : IO Subscriber := do
  let (events, printer) := printer.drain bus
  for event in events do
    if let some line := event.line? quiet then IO.println line
  return printer

/-- Milliseconds between two cycles. -/
def pause (shape : Shape) : UInt32 := (1000.0 * Float.ofBits shape.period.bits).toUInt32

/-- Run the cycles from this one on; with zero wanted cycles they have no end. -/
partial def runCycles (r : Running) (cycle : Nat) (run : Run) (printer : Subscriber) :
    IO (Run × Subscriber) := do
  let printer ← printMessages r.quiet printer run.bus
  if r.cycles != 0 && r.cycles ≤ cycle then return (run, printer)
  match run.step cycle with
  | (.error _, stepped) => return (stepped, printer)
  | (.ok (), stepped) =>
    IO.sleep (pause r.shape)
    runCycles r (cycle + 1) stepped printer

/-- Print the lines of a run that is over and leave its files behind. -/
def finish (before : Tree) (f : Finished) : IO UInt32 := do
  writeTree before f.files
  f.lines.forM IO.println
  return UInt32.ofNat f.code

/-- The program on these arguments. -/
def runProgram (arguments : List String) : IO UInt32 := do
  let env ← readEnvironment
  let options := (CommandLine.parse arguments).toOption.getD .none
  let files ← readTree (options.config.getD env.configPath)
  match start arguments env .ordinary files with
  | .finished f => finish files f
  | .running r =>
    r.lines.forM IO.println
    let (last, printer) ← runCycles r 0 r.run ⟨0⟩
    let (finished, released) := r.finish last
    discard (printMessages r.quiet printer released.bus)
    return UInt32.ofNat finished.code

end VariableBridge.Program

/-- The program. -/
def main (arguments : List String) : IO UInt32 := VariableBridge.Program.runProgram arguments
