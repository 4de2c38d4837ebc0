import VariableBridge.Bridge.Settings
import VariableBridge.Json.Decoding
import VariableBridge.Json.Printer
import VariableBridge.Json.Reader
import VariableBridge.Space.Buffer

/-!
# JSON of the bridge

The forms of type tags, complex numbers, settings and shapes. Settings may leave
out members, which then have their defaults.
-/

namespace VariableBridge

open Json (Value optional required)

namespace TypeTag

/-- The name of a tag that has no code of its own. -/
def plainNames : List (String × TypeTag) := [
  ("Int32", .int32), ("Float32", .float32), ("Float64", .float64), ("DomainReal", .real),
  ("DomainComplex", .complex), ("Text", .text)]

/-- The JSON form of a tag. -/
def toJson : TypeTag → Value
  | .int32 => .text "Int32"
  | .float32 => .text "Float32"
  | .float64 => .text "Float64"
  | .real => .text "DomainReal"
  | .complex => .text "DomainComplex"
  | .text => .text "Text"
  | .other code => .record [("Other", .number (.ofNat code.toNat))]

/-- The tag of a JSON value. -/
def ofJson? (v : Value) : Option TypeTag :=
  match v.choice? with
  | some (name, content) =>
    if name = "Other" then (required Value.toUInt32? content).map .other
    else if Value.isNoContent false content then plainNames.lookup name
    else none
  | none => none

end TypeTag

namespace Space.Complex

/-- The JSON form of a complex number. -/
def toJson (z : Complex) : Value := .record [("re", Json.ofSingle z.re), ("im", Json.ofSingle z.im)]

/-- The complex number of a JSON value. -/
def ofJson? (v : Value) : Option Complex :=
  match v.fields? ["re", "im"] with
  | some [re, im] => do
    let re ← required Value.toSingle? re
    let im ← required Value.toSingle? im
    return ⟨re, im⟩
  | _ => none

end Space.Complex

namespace Settings

/-- Names of the members. -/
def memberNames : List String := ["vars", "source_id", "rt_strict", "activate", "skip"]

/-- The JSON form of settings. -/
def toJson (s : Settings) : Value := .record [
  ("vars", .array (s.vars.map .text)), ("source_id", .text s.sourceId),
  ("rt_strict", .bool s.rtStrict), ("activate", .bool s.activate),
  ("skip", .number (.ofNat s.skip.toNat))]

/-- The settings of a JSON value. -/
def ofJson? (v : Value) : Option Settings :=
  match v.fields? memberNames with
  | some [vars, sourceId, rtStrict, activate, skip] => do
    return {
      vars := ← optional (Value.toList? Value.toText?) default.vars vars
      sourceId := ← optional Value.toText? default.sourceId sourceId
      rtStrict := ← optional Value.toBool? default.rtStrict rtStrict
      activate := ← optional Value.toBool? default.activate activate
      skip := ← optional Value.toUInt32? default.skip skip }
  | _ => none

/-- The text of settings. -/
def write (s : Settings) : String := Json.print s.toJson

/-- The settings of a text. -/
def read (text : String) : Option Settings := (Json.parse text).bind ofJson?

end Settings

namespace Shape

/-- The JSON form of a shape. -/
def toJson (s : Shape) : Value := .record [
  ("sample_rate", Json.ofDouble s.sampleRate),
  ("fragment_size", .number (.ofNat s.fragmentSize.toNat))]

/-- The shape of a JSON value. -/
def ofJson? (v : Value) : Option Shape :=
  match v.fields? ["sample_rate", "fragment_size"] with
  | some [sampleRate, fragmentSize] => do
    let sampleRate ← required Value.toDouble? sampleRate
    let fragmentSize ← required Value.toUInt32? fragmentSize
    return ⟨sampleRate, fragmentSize⟩
  | _ => none

end Shape

end VariableBridge
