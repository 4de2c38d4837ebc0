import VariableBridge.Bridge.Plugin
import VariableBridge.Demo.Pipeline

/-!
# Running the simulated host

A run alternates cycles of the host and of the bridge until a number of cycles
has passed, the run is interrupted or the bridge fails.
-/

namespace VariableBridge.Demo

/-- A bridge over the simulated host. -/
structure Run where
  /-- The host. -/
  pipeline : Pipeline
  /-- The bridge. -/
  plugin : Plugin
  /-- The bus that it sends on. -/
  bus : Bus
  deriving Inhabited

namespace Run

/-- The world around the bridge. -/
def host (r : Run) : Host := .ofSpace r.pipeline.space

/-- Prepare the bridge. -/
def prepare (r : Run) (shape : Shape) : Except BridgeError Unit × Run :=
  let prepared := r.plugin.prepare r.host shape r.bus
  (prepared.result, { r with plugin := prepared.state, bus := prepared.bus })

/-- One cycle of the host and then of the bridge. -/
def step (r : Run) (cycle : Nat) : Except BridgeError Unit × Run :=
  let advanced := { r with pipeline := r.pipeline.advance cycle }
  let processed := advanced.plugin.process advanced.host advanced.bus
  (processed.result, { advanced with plugin := processed.state, bus := processed.bus })

/-- So many cycles from this one on. Gives the number of the cycle that would be next. -/
def cyclesFrom : Nat → Nat → Run → Except BridgeError Nat × Run
  | 0, cycle, r => (.ok cycle, r)
  | left + 1, cycle, r =>
    match r.step cycle with
    | (.error error, stepped) => (.error error, stepped)
    | (.ok (), stepped) => cyclesFrom left (cycle + 1) stepped

/-- How many cycles a run has: zero wanted cycles are as many as pass until the interruption.
A run that nothing ends has no number. -/
def length? (wanted : Nat) (interruption : Option Nat) : Option Nat :=
  if wanted = 0 then interruption
  else some (min wanted (interruption.getD wanted))

/-- Release the bridge and drop what the processing side was done with. -/
def release (r : Run) : Run :=
  let (plugin, bus) := r.plugin.release r.bus
  let (_, control, bus) := plugin.control.collect bus
  { r with plugin := { plugin with control }, bus }

end Run

end VariableBridge.Demo
