import VariableBridge.Stream.Info
import VariableBridge.Time.Instant

/-!
# Samples and messages

Three kinds of messages tell the life of a stream: it is opened, it sends
samples that are numbered from zero, and it is closed.
-/

namespace VariableBridge

open Number (Single Double)

/-- The values of one sample. -/
inductive SampleValues where
  /-- Signed integers. -/
  | int32 (values : List Int32)
  /-- 32-bit floats. -/
  | float32 (values : List Single)
  /-- 64-bit floats. -/
  | float64 (values : List Double)
  deriving DecidableEq, Repr, Inhabited

namespace SampleValues

/-- Number of values. -/
def length : SampleValues → Nat
  | .int32 values => values.length
  | .float32 values => values.length
  | .float64 values => values.length

/-- Is there no value? -/
def isEmpty (v : SampleValues) : Bool := v.length == 0

/-- Format of the values. -/
def format : SampleValues → ChannelFormat
  | .int32 _ => .int32
  | .float32 _ => .float32
  | .float64 _ => .double64

end SampleValues

/-- One sample of a stream. -/
structure SampleFrame where
  /-- The stream. -/
  id : StreamId
  /-- Name of the stream. -/
  name : String
  /-- Number of the sample in its stream, from zero. -/
  sequence : Nat
  /-- When the sample was sent. -/
  timestamp : Time.Instant
  /-- The values. -/
  values : SampleValues
  deriving DecidableEq, Repr, Inhabited

/-- What travels over the bus. -/
inductive BusMessage where
  /-- A stream was opened. -/
  | opened (id : StreamId) (info : StreamInfo)
  /-- A stream sent a sample. -/
  | sample (frame : SampleFrame)
  /-- A stream was closed. -/
  | closed (id : StreamId) (name : String)
  deriving DecidableEq, Repr, Inhabited

namespace BusMessage

/-- The stream that a message belongs to. -/
def streamId : BusMessage → StreamId
  | .opened id _ => id
  | .sample frame => frame.id
  | .closed id _ => id

/-- Name of the stream that a message belongs to. -/
def streamName : BusMessage → String
  | .opened _ info => info.name
  | .sample frame => frame.name
  | .closed _ name => name

end BusMessage

end VariableBridge
