import VariableBridge.Error
import VariableBridge.Number.Arithmetic
import VariableBridge.Text.Blank
import VariableBridge.Text.Quoted

/-!
# Settings and shape

The settings are the parameters of a bridge; the shape is what the host says of
its signal when it prepares the bridge. A variable name in the settings must be
one that a listing can hold.
-/

namespace VariableBridge

open Number (Double)

/-- Parameters of a bridge. -/
structure Settings where
  /-- Variables to send; with none, all of them. -/
  vars : List String
  /-- Identifier of the source. -/
  sourceId : String
  /-- Is a real-time thread refused? -/
  rtStrict : Bool
  /-- Are samples sent? -/
  activate : Bool
  /-- Cycles to skip after each one that sends. -/
  skip : UInt32
  deriving DecidableEq, Repr

namespace Settings

/-- Settings that send every variable at every cycle. -/
def default : Settings := ⟨[], "", true, true, 0⟩

instance : Inhabited Settings := ⟨default⟩

/-- Can a name stand in a listing? -/
def isListable (name : String) : Bool := name != "" && !name.toList.any Text.isBlank

/-- The first name that cannot stand in a listing is an error. -/
def checkNames (names : List String) : Except BridgeError Unit :=
  match names.find? (!isListable ·) with
  | some name => .error (.invalidConfig
      ("invalid variable name " ++ Text.quoted name ++ " in \"vars\""))
  | none => .ok ()

/-- Check the settings. -/
def validate (s : Settings) : Except BridgeError Unit := checkNames s.vars

/-- A list of names is accepted exactly if each of them can be listed: the check has no other reason
to fail. -/
theorem checkNames_eq_ok_iff {names : List String} :
    checkNames names = .ok () ↔ ∀ name ∈ names, isListable name = true := by
  unfold checkNames
  cases h : names.find? (!isListable ·) with
  | none => simpa using h
  | some name =>
    have hm := List.mem_of_find?_eq_some h
    have hn := List.find?_some h
    simp only [reduceCtorEq, false_iff]
    intro hall
    simp [hall name hm] at hn

end Settings

/-- The signal of the host. -/
structure Shape where
  /-- Samples of the signal per second. -/
  sampleRate : Double
  /-- Samples of the signal per cycle. -/
  fragmentSize : UInt32
  deriving DecidableEq, Repr, Inhabited

namespace Shape

/-- Cycles per second. -/
def cycleRate (s : Shape) : Double := s.sampleRate / Double.ofNat s.fragmentSize.toNat

/-- Seconds from one cycle to the next. -/
def period (s : Shape) : Double := Double.ofNat 1 / s.cycleRate

/-- Can the time from one cycle to the next be waited for? Clocks count seconds in 64 bits. -/
def isPaced (s : Shape) : Bool :=
  match s.period.datum with
  | .finite false m e => Number.scaleUp m e < Number.scaleUp UInt64.size (-e)
  | _ => false

/-- Samples per second of a stream that skips this many cycles after each sample. -/
def streamRate (s : Shape) (skip : UInt32) : Double :=
  s.cycleRate / Double.ofNat (skip.toNat + 1)

/-- Check the shape: the rate is a finite number above zero and a cycle has samples. -/
def validate (s : Shape) : Except BridgeError Unit :=
  if !s.sampleRate.isFinitePositive then
    .error (.invalidConfig ("sample rate must be positive, got " ++ s.sampleRate.plainText))
  else if s.fragmentSize = 0 then .error (.invalidConfig "fragment size must be positive")
  else .ok ()

end Shape

example : (Shape.mk (Double.ofNat 48000) 4800).isPaced = true := by decide +kernel
example : (Shape.mk ⟨1⟩ 1).isPaced = false := by decide +kernel

end VariableBridge
