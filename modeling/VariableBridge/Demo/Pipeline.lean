import VariableBridge.Number.Circle
import VariableBridge.Space.Basic

/-!
# The simulated host

The simulated host has four variables: slowly swinging levels, a turning
spectrum, the number of the cycle and a constant gain. Most cycles write in
place; in between the spectrum gets a new buffer.
-/

namespace VariableBridge.Demo

open Number (Double Single)
open Space (Buffer Element)

/-- Name of the levels. -/
def levelName : String := "level"

/-- Name of the spectrum. -/
def spectrumName : String := "spec"

/-- Name of the cycle number. -/
def frameName : String := "frame"

/-- Name of the gain. -/
def gainName : String := "gain"

/-- One full turn. -/
def fullTurn : Single := ⟨0x40C90FDB⟩

/-- An eighth of a turn. -/
def eighthTurn : Single := ⟨0x3F490FDB⟩

/-- One half. -/
def half : Single := ⟨0x3F000000⟩

/-- Number of levels. -/
def levelCount : Nat := 4

/-- Cycles after which the levels repeat. -/
def levelPeriod : Nat := 20

/-- Cycles after which the spectrum repeats. -/
def spectrumPeriod : Nat := 64

/-- The part of a full turn that a cycle has reached in a period. -/
def phase (cycle period : Nat) : Single :=
  Single.ofNat (cycle % period) / Single.ofNat period * fullTurn

/-- The levels at a cycle. -/
def levels (cycle : Nat) : List Single :=
  (List.range levelCount).map fun channel =>
    half + half * (phase cycle levelPeriod + Single.ofNat channel * eighthTurn).sin

/-- The spectrum at a cycle: the magnitude falls and the angle grows with the bin. -/
def spectrum (bins cycle : Nat) : List Space.Complex :=
  (List.range bins).map fun bin =>
    let order := Single.ofNat bin + Single.ofNat 1
    let magnitude := Single.ofNat 1 / order
    let angle := phase cycle spectrumPeriod * order
    ⟨magnitude * angle.cos, magnitude * angle.sin⟩

/-- The number of a cycle in 32 bits. -/
def frameNumber (cycle : Nat) : Int32 := (UInt32.ofNat cycle).toInt32

/-- The simulated host. -/
structure Pipeline where
  /-- Its variables. -/
  space : Space
  /-- Length of a new spectrum. -/
  bins : Nat
  /-- Cycles between two new buffers of the spectrum; zero keeps the first one. -/
  reallocEvery : Nat
  deriving Inhabited

namespace Pipeline

/-- The host before its first cycle. -/
def new (bins reallocEvery : Nat) : Pipeline where
  space := (((Space.empty.insert levelName (.float32 (List.replicate levelCount (Single.ofNat 0)))
    ).insert spectrumName (.complex (spectrum bins 0))
    ).insert frameName (.int32 [0])
    ).insert gainName (.float64 [Double.ofNat 1])
  bins := bins
  reallocEvery := reallocEvery

/-- Does the spectrum get a new buffer at this cycle? -/
def reallocates (p : Pipeline) (cycle : Nat) : Bool :=
  0 < p.reallocEvery && 0 < cycle && cycle % p.reallocEvery == 0

/-- Elements of the spectrum as it is now. -/
def spectrumLength (p : Pipeline) : Nat :=
  match p.space.get? spectrumName with
  | some (.complex elements) => elements.length
  | _ => 0

/-- One cycle of the host. -/
def advance (p : Pipeline) (cycle : Nat) : Pipeline :=
  let (_, s₁) := p.space.write levelName (.copy ((levels cycle).map Element.single))
  let (_, s₂) := s₁.write frameName (.set 0 (.int32 (frameNumber cycle)))
  if p.reallocates cycle then
    let (_, s₃) := s₂.collectRetired
    { p with space := s₃.insert spectrumName (.complex (spectrum p.bins cycle)) }
  else
    let fresh := spectrum p.spectrumLength cycle
    { p with space := (s₂.write spectrumName (.copy (fresh.map Element.complex))).2 }

end Pipeline

end VariableBridge.Demo
