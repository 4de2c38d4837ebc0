import VariableBridge.Bridge.Layout
import VariableBridge.Space.Buffer
import VariableBridge.Space.Catalogue
import VariableBridge.Stream.Bus

/-!
# Adapters

An adapter binds one stream to the memory of one variable. It reads whatever
lies at its address when it sends, and it never looks the variable up itself.
-/

namespace VariableBridge

open Number (Single Double)
open Space (Address Descriptor Memory)

/-- What all streams of a bridge have in common. -/
structure StreamContext where
  /-- Samples per second that are announced. -/
  rate : Double
  /-- Identifier of the source. -/
  sourceId : String
  deriving DecidableEq, Repr, Inhabited

/-- The world around a bridge at one moment. -/
structure Host where
  /-- The variables. -/
  catalogue : Catalogue
  /-- The memory that descriptors point into. -/
  memory : Memory
  /-- Streams that the host refuses before the bus is asked. -/
  refusal : StreamInfo → Option BridgeError

namespace Host

/-- The world around a bridge that sends the variables of a space and may open any stream. -/
def ofSpace (s : Space) : Host := ⟨.ofSpace s, s.memory, fun _ => none⟩

/-- Open a stream, unless the host or the bus refuses it. -/
def openStream (h : Host) (info : StreamInfo) (bus : Bus) : Except BridgeError (Outlet × Bus) :=
  match h.refusal info with
  | some error => .error error
  | none => bus.createOutlet info

end Host

/-- A stream bound to memory. -/
structure Adapter where
  /-- The sending end of the stream. -/
  outlet : Outlet
  /-- Where the elements lie. -/
  address : Address
  /-- Number of elements. -/
  count : UInt32
  /-- How elements become values. -/
  layout : Layout
  deriving DecidableEq, Repr, Inhabited

/-- The layout of a variable; a type that cannot be sent is an error. -/
def layoutFor (name : String) (d : Descriptor) : Except BridgeError Layout :=
  match Layout.ofTag d.tag with
  | some layout => .ok layout
  | none => .error (.unknownType name d.tag)

/-- The metadata of a stream for a variable with this layout. -/
def streamInfo (name : String) (layout : Layout) (count : UInt32) (context : StreamContext) :
    StreamInfo where
  name := name
  typeLabel := layout.label
  channelCount := layout.channels count
  nominalRate := context.rate
  channelFormat := layout.channelFormat
  sourceId := context.sourceId

/-- The metadata of a stream for a variable; a type that cannot be sent is an error. -/
def streamInfoFor (name : String) (d : Descriptor) (context : StreamContext) :
    Except BridgeError StreamInfo :=
  match layoutFor name d with
  | .ok layout => .ok (streamInfo name layout d.count context)
  | .error error => .error error

/-- The values at an address. -/
def valuesAt (m : Memory) (address : Address) (layout : Layout) (count : Nat) : SampleValues :=
  match layout with
  | .int32 => .int32 ((m.read address count).map UInt32.toInt32)
  | .float32 => .float32 ((m.read address count).map Single.mk)
  | .real => .float32 ((m.read address count).map Single.mk)
  | .float64 => .float64 (Space.doublesOfWords (m.read address (2 * count)))
  | .complex => .float32 ((m.read address (2 * count)).map Single.mk)

namespace Adapter

/-- Open a stream for a variable and bind it to the variable's memory. -/
def create (h : Host) (name : String) (d : Descriptor) (context : StreamContext) (bus : Bus) :
    Except BridgeError (Adapter × Bus) :=
  match layoutFor name d with
  | .error error => .error error
  | .ok layout =>
    match h.openStream (streamInfo name layout d.count context) bus with
    | .error error => .error error
    | .ok (outlet, bus') => .ok (⟨outlet, d.address, d.count, layout⟩, bus')

/-- The type that the adapter sends. -/
def tag (a : Adapter) : TypeTag := a.layout.tag

/-- Channels of the stream. -/
def channels (a : Adapter) : UInt32 := a.outlet.info.channelCount

/-- The values that the adapter would send now. -/
def values (a : Adapter) (m : Memory) : SampleValues :=
  valuesAt m a.address a.layout a.count.toNat

/-- Send one sample. -/
def send (a : Adapter) (m : Memory) (bus : Bus) : Adapter × Bus :=
  let (outlet, bus') := bus.push a.outlet (a.values m)
  ({ a with outlet }, bus')

/-- Point the adapter elsewhere. -/
def setAddress (a : Adapter) (address : Address) : Adapter := { a with address }

/-- Does the variable still fit the stream? -/
def fits (a : Adapter) (d : Descriptor) : Bool := a.tag == d.tag && a.channels == d.channels

end Adapter

end VariableBridge
