import VariableBridge.CommandLine.Parsing
import VariableBridge.Config.Storage
import VariableBridge.Demo.Run
import VariableBridge.Number.Fixed
import VariableBridge.Program.Text

/-!
# Starting the program

The program reads its arguments, loads the configuration, and either does one
small thing and ends, or prepares a bridge over the simulated host. A run that
has begun ends abnormally: behind the last cycle it would wait for the printer,
and the clock of that wait has stopped with the tasks of the run. So does one whose
cycles are too far apart to wait for the next.
-/

namespace VariableBridge.Program

open CommandLine (Options UsageError)
open Demo (Run)
open Files (Tree)

/-- Code of a run that did what it was told. -/
def successCode : Nat := 0

/-- Code of a run that could not be done. -/
def failureCode : Nat := 1

/-- Code of arguments that cannot be used. -/
def usageCode : Nat := 2

/-- Code of an abnormal end. -/
def abnormalCode : Nat := 101

/-- A run that is over. -/
structure Finished where
  /-- Its code. -/
  code : Nat
  /-- Its lines. -/
  lines : List String
  /-- The files afterwards. -/
  files : Tree

/-- A run whose cycles begin. -/
structure Running where
  /-- The lines so far. -/
  lines : List String
  /-- The files. -/
  files : Tree
  /-- The host, the prepared bridge and the bus. -/
  run : Run
  /-- Cycles to run; zero runs until it is interrupted. -/
  cycles : Nat
  /-- The signal of the host. -/
  shape : Shape
  /-- Leave single samples out of the output? -/
  quiet : Bool

/-- A run after its start. -/
inductive Start where
  /-- It is over. -/
  | finished (f : Finished)
  /-- Its cycles begin. -/
  | running (r : Running)

/-- The end of a run with arguments that do not start it. -/
def usageEnd (error : UsageError) (files : Tree) : Finished :=
  match error with
  | .displayHelp => ⟨successCode, helpLines, files⟩
  | .displayVersion => ⟨successCode, [versionLine], files⟩
  | _ => ⟨usageCode, [], files⟩

/-- Write the default configuration. -/
def writeDefault (files : Tree) (path : String) : Finished :=
  match Configuration.save .default files path with
  | (.ok (), written) => ⟨successCode, banner ++ [writtenLine path], written⟩
  | (.error error, left) => ⟨failureCode, banner ++ [saveErrorLine error.message], left⟩

/-- The configuration to run with, and what is said about it. Without a usable file the
defaults hold, and the environment overrides them too. -/
def configure (files : Tree) (env : Environment) (path : String) : Configuration × List String :=
  match Configuration.load files env path with
  | .ok (some c) => (c, [loadedLine path])
  | .ok none => (env.override .default, [missingLine path])
  | .error error => (env.override .default, loadErrorLines error.message)

/-- Prepare the bridge of a configuration, to be called by a thread of which the system tells
this. -/
def startRun (c : Configuration) (thread : Probe) (lines : List String) (files : Tree)
    (path : String) (quiet : Bool) : Start :=
  let serving := if c.demo.wsPort = 0 then [] else [servingLine c.demo.wsPort.toNat]
  let pipeline := Demo.Pipeline.new c.demo.spectrumBins.toNat c.demo.reallocEvery.toNat
  let run : Run := ⟨pipeline, .new c.bridge none thread, .new Bus.defaultCapacity⟩
  let (result, prepared) := run.prepare c.demo.shape
  match result with
  | .error error =>
    let advice := if error.isConfiguration then [adviceLine path] else []
    .finished ⟨failureCode, lines ++ serving ++ [errorLine error.message] ++ advice, files⟩
  | .ok () =>
    let rate := (c.demo.shape.streamRate c.bridge.skip).fixedText 1
    let bridging := bridgingLine prepared.plugin.control.settings.vars rate
    let lines := lines ++ serving ++ [bridging]
    if c.demo.shape.isPaced then
      .running ⟨lines, files, prepared, c.demo.cycles.toNat, c.demo.shape, quiet⟩
    else .finished ⟨abnormalCode, lines, files⟩

/-- Start the program with these options. -/
def startWith (options : Options) (env : Environment) (thread : Probe) (files : Tree) : Start :=
  let path := options.config.getD env.configPath
  if options.init then .finished (writeDefault files path)
  else
    let (loaded, said) := configure files env path
    startRun (options.override loaded) thread (banner ++ said) files path options.quiet

/-- Start the program. -/
def start (arguments : List String) (env : Environment) (thread : Probe) (files : Tree) : Start :=
  match CommandLine.parse arguments with
  | .error error => .finished (usageEnd error files)
  | .ok options => startWith options env thread files

/-- The end of a run after its last cycle. -/
def Running.finish (r : Running) (last : Run) : Finished × Run :=
  (⟨abnormalCode, r.lines, r.files⟩, last.release)

end VariableBridge.Program
