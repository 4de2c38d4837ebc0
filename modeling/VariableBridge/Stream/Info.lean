import VariableBridge.Number.Binary

/-!
# Streams

A stream carries samples of one variable. Its metadata is fixed when it is
opened, and so is its identity: a stream that is opened again is another one.
-/

namespace VariableBridge

open Number (Double)

/-- The number format of the values of a sample. -/
inductive ChannelFormat where
  /-- Signed 32-bit integers. -/
  | int32
  /-- 32-bit floats. -/
  | float32
  /-- 64-bit floats. -/
  | double64
  deriving DecidableEq, Repr, Inhabited

/-- The name of a format. -/
def ChannelFormat.name : ChannelFormat → String
  | .int32 => "int32"
  | .float32 => "float32"
  | .double64 => "double64"

/-- Metadata of a stream. -/
structure StreamInfo where
  /-- Name of the stream. -/
  name : String
  /-- Label of the variable's type. -/
  typeLabel : String
  /-- Values in each sample. -/
  channelCount : UInt32
  /-- Samples per second that are announced. -/
  nominalRate : Double
  /-- Format of the values. -/
  channelFormat : ChannelFormat
  /-- Identifier of the source. -/
  sourceId : String
  deriving DecidableEq, Repr, Inhabited

/-- The identity of one opened stream. -/
structure StreamId where
  /-- The identity as a 128-bit number. -/
  number : Nat
  deriving DecidableEq, Repr, Inhabited

end VariableBridge
