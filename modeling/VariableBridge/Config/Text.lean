import VariableBridge.Config.Basic
import VariableBridge.Toml.Printer
import VariableBridge.Toml.Reader

/-!
# The text of a configuration

A configuration is written as two tables. Reading takes tables in any form;
what is missing has its default, and unknown names are passed over. A table may
also be given as an array of its values in order. Numbers that do not fit into
the text's integers cannot be written.
-/

namespace VariableBridge

open Number (Double)
open Toml (Members Value)

namespace Toml.Value

/-- The text of a value. -/
def toText? : Value → Option String
  | .string content => some content
  | _ => none

/-- A truth value. -/
def toBool? : Value → Option Bool
  | .bool value => some value
  | _ => none

/-- A natural number below a bound. -/
def toNatBelow? (bound : Nat) : Value → Option Nat
  | .integer value => if 0 ≤ value ∧ value.toNat < bound then some value.toNat else none
  | _ => none

/-- A float; integers are floats too. -/
def toDouble? : Value → Option Double
  | .float value => some value
  | .integer value => some (Double.nearest (value < 0) value.natAbs 1)
  | _ => none

/-- Texts of an array. -/
def toTexts? : Value → Option (List String)
  | .array elements => elements.mapM toText?
  | _ => none

/-- The values under these names in their order. A moment has none of them, and an array
gives its elements in order. -/
def fields? (names : List String) : Value → Option (List (Option Value))
  | .table _ members => some (names.map fun name => members.lookup name)
  | .moment => some (names.map fun _ => none)
  | .array elements => some (names.zipIdx.map fun n => elements[n.2]?)
  | .tables elements => some (names.zipIdx.map fun n => elements[n.2]?)
  | _ => none

/-- A value that has a default. -/
def optional {α : Type} (decode : Value → Option α) (fallback : α) : Option Value → Option α
  | none => some fallback
  | some value => decode value

end Toml.Value

open Toml.Value (optional toBool? toDouble? toNatBelow? toText? toTexts?)

namespace Settings

/-- The settings of a table. -/
def ofToml? (v : Value) : Option Settings :=
  match v.fields? ["vars", "source_id", "rt_strict", "activate", "skip"] with
  | some [vars, sourceId, rtStrict, activate, skip] => do
    return {
      vars := ← optional toTexts? default.vars vars
      sourceId := ← optional toText? default.sourceId sourceId
      rtStrict := ← optional toBool? default.rtStrict rtStrict
      activate := ← optional toBool? default.activate activate
      skip := ← (optional (toNatBelow? UInt32.size) default.skip.toNat skip).map UInt32.ofNat }
  | _ => none

/-- The members of settings. -/
def tomlMembers (s : Settings) : List (String × List Char) := [
  ("vars", Toml.writeStrings s.vars), ("source_id", Toml.writeString s.sourceId),
  ("rt_strict", Toml.writeBool s.rtStrict), ("activate", Toml.writeBool s.activate),
  ("skip", Toml.writeNat s.skip.toNat)]

end Settings

namespace DemoSettings

/-- The settings of a table. -/
def ofToml? (v : Value) : Option DemoSettings :=
  match v.fields? ["sample_rate", "fragment_size", "cycles", "ws_port", "spectrum_bins",
    "realloc_every"] with
  | some [sampleRate, fragmentSize, cycles, wsPort, spectrumBins, reallocEvery] => do
    return {
      sampleRate := ← optional toDouble? default.sampleRate sampleRate
      fragmentSize := ←
        (optional (toNatBelow? UInt32.size) default.fragmentSize.toNat fragmentSize).map
          UInt32.ofNat
      cycles := ← (optional (toNatBelow? UInt64.size) default.cycles.toNat cycles).map UInt64.ofNat
      wsPort := ← (optional (toNatBelow? UInt16.size) default.wsPort.toNat wsPort).map UInt16.ofNat
      spectrumBins := ←
        (optional (toNatBelow? UInt32.size) default.spectrumBins.toNat spectrumBins).map
          UInt32.ofNat
      reallocEvery := ←
        (optional (toNatBelow? UInt64.size) default.reallocEvery.toNat reallocEvery).map
          UInt64.ofNat }
  | _ => none

/-- The members of settings. -/
def tomlMembers (d : DemoSettings) : List (String × List Char) := [
  ("sample_rate", Toml.writeFloat d.sampleRate),
  ("fragment_size", Toml.writeNat d.fragmentSize.toNat), ("cycles", Toml.writeNat d.cycles.toNat),
  ("ws_port", Toml.writeNat d.wsPort.toNat),
  ("spectrum_bins", Toml.writeNat d.spectrumBins.toNat),
  ("realloc_every", Toml.writeNat d.reallocEvery.toNat)]

/-- Do all numbers fit into the integers of a text? -/
def isWritable (d : DemoSettings) : Bool :=
  d.cycles.toNat < Toml.integerBound && d.reallocEvery.toNat < Toml.integerBound

end DemoSettings

namespace Configuration

/-- The configuration of the members of a text. -/
def ofMembers? (members : Members) : Option Configuration := do
  return {
    bridge := ← optional Settings.ofToml? .default (members.lookup "bridge")
    demo := ← optional DemoSettings.ofToml? .default (members.lookup "demo") }

/-- The configuration of a text. -/
def read (text : String) : Option Configuration := (Toml.parse text).bind ofMembers?

/-- The text of a configuration. -/
def write (c : Configuration) : Option String :=
  if c.demo.isWritable then
    some (String.ofList (Toml.writeTable "bridge" c.bridge.tomlMembers ++
      '\n' :: Toml.writeTable "demo" c.demo.tomlMembers))
  else none

end Configuration

end VariableBridge
