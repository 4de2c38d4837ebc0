import VariableBridge.Json.Decoding
import VariableBridge.Json.Printer
import VariableBridge.Json.Reader
import VariableBridge.Stream.Identity
import VariableBridge.Stream.Message
import VariableBridge.Time.Stamp

/-!
# JSON of streams

The forms in which streams, samples and bus messages travel to clients. A
message carries its kind as one of its members; the other members are those of
the kind.
-/

namespace VariableBridge

open Json (Value required)
open Number (Single)

namespace ChannelFormat

/-- The JSON form of a format. -/
def toJson (f : ChannelFormat) : Value := .text f.name

/-- The format of a name. -/
def ofName? (name : String) : Option ChannelFormat :=
  if name = "int32" then some .int32
  else if name = "float32" then some .float32
  else if name = "double64" then some .double64
  else none

/-- The format of a JSON value. -/
def ofJson? (stored : Bool) (v : Value) : Option ChannelFormat :=
  match v.choice? with
  | some (name, content) => if Value.isNoContent stored content then ofName? name else none
  | none => none

end ChannelFormat

namespace StreamInfo

/-- Names of the members. -/
def memberNames : List String :=
  ["name", "type_label", "channel_count", "nominal_srate", "channel_format", "source_id"]

/-- The JSON form of metadata. -/
def toJson (i : StreamInfo) : Value := .record [
  ("name", .text i.name), ("type_label", .text i.typeLabel),
  ("channel_count", .number (.ofNat i.channelCount.toNat)),
  ("nominal_srate", Json.ofDouble i.nominalRate),
  ("channel_format", i.channelFormat.toJson), ("source_id", .text i.sourceId)]

/-- The metadata of a JSON value. -/
def ofJson? (stored : Bool) (v : Value) : Option StreamInfo :=
  match v.fields? memberNames with
  | some [name, typeLabel, channelCount, nominalRate, channelFormat, sourceId] => do
    return {
      name := ← required Value.toText? name
      typeLabel := ← required Value.toText? typeLabel
      channelCount := ← required Value.toUInt32? channelCount
      nominalRate := ← required Value.toDouble? nominalRate
      channelFormat := ← required (ChannelFormat.ofJson? stored) channelFormat
      sourceId := ← required Value.toText? sourceId }
  | _ => none

end StreamInfo

namespace StreamId

/-- The JSON form of an identity. -/
def toJson (id : StreamId) : Value := .text id.write

/-- The identity of a JSON value. -/
def ofJson? (v : Value) : Option StreamId := v.toText?.bind read

end StreamId

namespace SampleValues

/-- The JSON form of values. -/
def toJson : SampleValues → Value
  | .int32 values => .record [("int32", .array (values.map fun n => .number (.ofInt n.toInt)))]
  | .float32 values => .record [("float32", .array (values.map Json.ofSingle))]
  | .float64 values => .record [("float64", .array (values.map Json.ofDouble))]

/-- The values of a JSON value. -/
def ofJson? (v : Value) : Option SampleValues :=
  match v.choice? with
  | some (name, some content) =>
    if name = "int32" then (content.toList? Value.toInt32?).map .int32
    else if name = "float32" then (content.toList? Value.toSingle?).map .float32
    else if name = "float64" then (content.toList? Value.toDouble?).map .float64
    else none
  | _ => none

end SampleValues

/-- The first sequence number that does not fit into a message. -/
def sequenceBound : Nat := UInt64.size

namespace SampleFrame

/-- Names of the members. -/
def memberNames : List String := ["uid", "name", "seq", "timestamp", "values"]

/-- The members of a sample. -/
def members (f : SampleFrame) : List (String × Value) := [
  ("uid", f.id.toJson), ("name", .text f.name), ("seq", .number (.ofNat f.sequence)),
  ("timestamp", .text f.timestamp.write), ("values", f.values.toJson)]

/-- The JSON form of a sample. -/
def toJson (f : SampleFrame) : Value := .record f.members

/-- The sample of a JSON value. -/
def ofJson? (v : Value) : Option SampleFrame :=
  match v.fields? memberNames with
  | some [id, name, sequence, timestamp, values] => do
    return {
      id := ← required StreamId.ofJson? id
      name := ← required Value.toText? name
      sequence := ← required (Value.toNatBelow? sequenceBound) sequence
      timestamp := ← required (fun t => t.toText?.bind Time.Instant.read) timestamp
      values := ← required SampleValues.ofJson? values }
  | _ => none

end SampleFrame

namespace BusMessage

/-- The JSON form of a message. -/
def toJson : BusMessage → Value
  | .opened id info => .record
    [("kind", .text "stream_opened"), ("uid", id.toJson), ("info", info.toJson)]
  | .sample frame => .record (("kind", .text "sample") :: frame.members)
  | .closed id name => .record
    [("kind", .text "stream_closed"), ("uid", id.toJson), ("name", .text name)]

/-- The kind of a message, and the value of its other members. -/
def splitKind : Value → Option (String × Value)
  | .object members =>
    match members.partition fun m => m.1 == some "kind" with
    | ([(_, kind)], others) => kind.toText?.map fun name => (name, .object others)
    | _ => none
  | .array (kind :: others) => kind.toText?.map fun name => (name, .array others)
  | _ => none

/-- An opening of a stream. -/
def openedOfJson? (v : Value) : Option BusMessage :=
  match v.fields? ["uid", "info"] with
  | some [id, info] => do
    let id ← required StreamId.ofJson? id
    let info ← required (StreamInfo.ofJson? true) info
    return .opened id info
  | _ => none

/-- A closing of a stream. -/
def closedOfJson? (v : Value) : Option BusMessage :=
  match v.fields? ["uid", "name"] with
  | some [id, name] => do
    let id ← required StreamId.ofJson? id
    let name ← required Value.toText? name
    return .closed id name
  | _ => none

/-- The message of a JSON value. -/
def ofJson? (v : Value) : Option BusMessage :=
  if v.isSound Value.nestingLimit then
    match splitKind v with
    | some (kind, content) =>
      if kind = "stream_opened" then openedOfJson? content
      else if kind = "sample" then (SampleFrame.ofJson? content).map .sample
      else if kind = "stream_closed" then closedOfJson? content
      else none
    | none => none
  else none

/-- The text of a message. -/
def write (m : BusMessage) : String := Json.print m.toJson

/-- The message of a text. -/
def read (text : String) : Option BusMessage := (Json.parse text).bind ofJson?

end BusMessage

end VariableBridge
