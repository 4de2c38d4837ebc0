import VariableBridge.Error
import VariableBridge.Stream.Message

/-!
# The bus

The bus keeps every published message in order and a table of the streams that
are open. An outlet is the sending end of one stream: opening it announces the
stream, each push sends the next sample, and closing it ends the stream. A
refused stream leaves no trace on the bus.
-/

namespace VariableBridge

/-- The sending end of one stream. Samples are numbered without a bound here; a number of 64 bits
would begin anew only after more samples than any stream sends. -/
structure Outlet where
  /-- Identity of the stream. -/
  id : StreamId
  /-- Metadata of the stream. -/
  info : StreamInfo
  /-- Number of the next sample. -/
  sequence : Nat
  deriving DecidableEq, Repr, Inhabited

/-- The bus. -/
structure Bus where
  /-- Messages that a subscriber may be behind, before the room is rounded up. -/
  capacity : Nat
  /-- All published messages, the oldest first. -/
  log : Array BusMessage
  /-- The open streams in the order of their opening. -/
  openStreams : List (StreamId × StreamInfo)
  /-- Identity number of the next stream. -/
  nextId : Nat
  /-- The time that samples are stamped with. -/
  now : Time.Instant
  deriving Repr

namespace Bus

/-- Messages that a subscriber may be behind on a bus that was not told otherwise. -/
def defaultCapacity : Nat := 1024

/-- A bus without streams and messages. -/
def new (capacity : Nat) : Bus := ⟨capacity, #[], [], 0, .epoch⟩

instance : Inhabited Bus := ⟨new defaultCapacity⟩

/-- Add a message to the log. -/
def publish (b : Bus) (m : BusMessage) : Bus := { b with log := b.log.push m }

/-- Why a stream with this metadata cannot be opened, if it cannot: it needs a name, and
a rate that is a finite number not below zero. -/
def objection (info : StreamInfo) : Option BridgeError :=
  if info.name = "" then some (.outlet "stream name must not be empty")
  else if info.nominalRate.isFiniteNonneg then none
  else some (.outlet
    ("stream \"" ++ info.name ++ "\": invalid nominal rate " ++ info.nominalRate.plainText))

/-- Open a stream that nothing speaks against. -/
def announce (b : Bus) (info : StreamInfo) : Outlet × Bus :=
  let id : StreamId := ⟨b.nextId⟩
  (⟨id, info, 0⟩,
    { b with openStreams := b.openStreams ++ [(id, info)], nextId := b.nextId + 1 }.publish
      (.opened id info))

/-- Open a stream. -/
def createOutlet (b : Bus) (info : StreamInfo) : Except BridgeError (Outlet × Bus) :=
  match objection info with
  | some error => .error error
  | none => .ok (b.announce info)

/-- Send the next sample of a stream. -/
def push (b : Bus) (o : Outlet) (values : SampleValues) : Outlet × Bus :=
  ({ o with sequence := o.sequence + 1 },
    b.publish (.sample ⟨o.id, o.info.name, o.sequence, b.now, values⟩))

/-- Close a stream. -/
def close (b : Bus) (o : Outlet) : Bus :=
  { b with openStreams := b.openStreams.filter fun s => s.1 != o.id }.publish
    (.closed o.id o.info.name)

/-- Close streams one after the other. -/
def closeAll (b : Bus) (os : List Outlet) : Bus := os.foldl close b

/-- The announcements of all open streams. -/
def announcements (b : Bus) : List BusMessage := b.openStreams.map fun s => .opened s.1 s.2

/-- Messages that a subscriber may really be behind: the capacity rounded up to a power of two. -/
def room (b : Bus) : Nat := b.capacity.nextPowerOfTwo

/-- A message that is published comes to the end of the log, and nothing that stands in the log
before it changes. -/
@[simp] theorem log_publish (b : Bus) (m : BusMessage) : (b.publish m).log = b.log.push m := rfl

/-- To publish a message opens and closes no stream, whatever the message says: the table is kept by
other calls. -/
@[simp] theorem openStreams_publish (b : Bus) (m : BusMessage) :
    (b.publish m).openStreams = b.openStreams := rfl

/-- A sample that is sent is logged with the identity and the name of its stream, its number and the
time of the bus. -/
@[simp] theorem log_push (b : Bus) (o : Outlet) (values : SampleValues) :
    (b.push o values).2.log =
      b.log.push (.sample ⟨o.id, o.info.name, o.sequence, b.now, values⟩) := rfl

/-- To send a sample opens and closes no stream, also if the stream of the sender is not in the
table any more. -/
@[simp] theorem openStreams_push (b : Bus) (o : Outlet) (values : SampleValues) :
    (b.push o values).2.openStreams = b.openStreams := rfl

/-- A closed stream is logged with its identity and its name, which tell the subscribers which
stream has ended. -/
@[simp] theorem log_close (b : Bus) (o : Outlet) :
    (b.close o).log = b.log.push (.closed o.id o.info.name) := rfl

end Bus

end VariableBridge
