import VariableBridge.Config.Environment

/-!
# Options

The options of the command line, and what they change in the configuration. An
option that is given wins over the file and the environment.
-/

namespace VariableBridge.CommandLine

/-- What was given on the command line. -/
structure Options where
  /-- Where the configuration file lies. -/
  config : Option String
  /-- Write the default configuration and stop? -/
  init : Bool
  /-- Variables to send. -/
  vars : Option (List String)
  /-- Cycles to skip. -/
  skip : Option UInt32
  /-- Cycles to run. -/
  cycles : Option UInt64
  /-- Port of the sample server. -/
  serve : Option UInt16
  /-- Leave single samples out of the output? -/
  quiet : Bool
  deriving DecidableEq, Repr, Inhabited

namespace Options

/-- Nothing was given. -/
def none : Options := ⟨.none, false, .none, .none, .none, .none, false⟩

/-- A configuration with the options that were given. -/
def override (o : Options) (c : Configuration) : Configuration where
  bridge := { c.bridge with
    vars := (o.vars.map cleanNames).getD c.bridge.vars
    skip := o.skip.getD c.bridge.skip }
  demo := { c.demo with
    cycles := o.cycles.getD c.demo.cycles
    wsPort := o.serve.getD c.demo.wsPort }

end Options

end VariableBridge.CommandLine
