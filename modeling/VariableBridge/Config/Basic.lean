import VariableBridge.Bridge.Settings

/-!
# Configuration

The configuration holds the settings of the bridge and those of the simulated
host.
-/

namespace VariableBridge

open Number (Double)

/-- Settings of the simulated host. -/
structure DemoSettings where
  /-- Samples of the signal per second. -/
  sampleRate : Double
  /-- Samples of the signal per cycle. -/
  fragmentSize : UInt32
  /-- Cycles to run; zero runs until it is interrupted. -/
  cycles : UInt64
  /-- Port of the sample server; zero switches it off. -/
  wsPort : UInt16
  /-- Length of the simulated spectrum. -/
  spectrumBins : UInt32
  /-- The spectrum gets a new buffer each time this many cycles have passed; with zero never. -/
  reallocEvery : UInt64
  deriving DecidableEq, Repr

namespace DemoSettings

/-- Ten cycles a second for ten seconds. -/
def default : DemoSettings := ⟨Double.ofNat 48000, 4800, 100, 0, 8, 25⟩

instance : Inhabited DemoSettings := ⟨default⟩

/-- Are two settings equal as numbers? A rate that is no number equals nothing. -/
def same (x y : DemoSettings) : Bool :=
  x.sampleRate.sameNumber y.sampleRate && decide ({ x with sampleRate := y.sampleRate } = y)

/-- The signal of the simulated host. -/
def shape (d : DemoSettings) : Shape := ⟨d.sampleRate, d.fragmentSize⟩

end DemoSettings

/-- All that is configured. -/
structure Configuration where
  /-- Settings of the bridge. -/
  bridge : Settings
  /-- Settings of the simulated host. -/
  demo : DemoSettings
  deriving DecidableEq, Repr

namespace Configuration

/-- What holds without any configuration. -/
def default : Configuration := ⟨.default, .default⟩

instance : Inhabited Configuration := ⟨default⟩

/-- Are two configurations equal as numbers and texts? -/
def same (x y : Configuration) : Bool := decide (x.bridge = y.bridge) && x.demo.same y.demo

end Configuration

end VariableBridge
