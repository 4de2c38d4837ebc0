import VariableBridge.Stream.Json
import VariableBridge.Stream.Subscriber

/-!
# Feeds of clients

A client of the sample server first gets the announcements of all open streams,
then every message of the bus that its filter lets through. The client may name
the streams that it wants; without names it wants all of them. The filter is
asked when a message is handed over, so the announcement of a stream passes only
if the filter of that moment lets it through. Messages that were lost are not
made up for.
-/

namespace VariableBridge

/-- What a client sends. -/
inductive ClientMessage where
  /-- A text, which may be a request. -/
  | text (content : String)
  /-- Bytes, which are passed over. -/
  | binary (content : List UInt8)
  deriving DecidableEq, Repr

namespace ClientMessage

/-- The streams that a message asks for, if it is a request. -/
def wantedStreams? : ClientMessage → Option (List String)
  | .binary _ => none
  | .text content =>
    match (Json.parse content).bind (Json.Value.fields? ["subscribe"]) with
    | some [names] => Json.required (Json.Value.toList? Json.Value.toText?) names
    | _ => none

example : (text "\x7b\"subscribe\":[\"level\"]\x7d").wantedStreams? = some ["level"] := by
  decide +kernel

example : (text "hello").wantedStreams? = none := by decide +kernel

end ClientMessage

/-- The connection of a client. -/
structure Feed where
  /-- The place in the log. -/
  subscriber : Subscriber
  /-- Names of the streams that the client wants; without any it wants all. -/
  streams : List String
  deriving DecidableEq, Repr, Inhabited

namespace Bus

/-- Connect a client: what it is sent at once, and its feed of the messages from now on. The feed
is opened before the table of open streams is read, so that no announcement falls in between. -/
def connect (b : Bus) : List BusMessage × Feed := (b.announcements, ⟨b.subscribe, []⟩)

end Bus

namespace BusEvent

/-- The message of an event that is one. -/
def message? : BusEvent → Option BusMessage
  | .message m => some m
  | .lagged _ => none

end BusEvent

namespace Feed

/-- Does the filter let a message through? -/
def wants (f : Feed) (m : BusMessage) : Bool :=
  f.streams.isEmpty || f.streams.contains m.streamName

/-- Hand over everything that is on the bus by now. -/
def deliver (f : Feed) (b : Bus) : List BusMessage × Feed :=
  let (events, subscriber) := f.subscriber.drain b
  ((events.filterMap BusEvent.message?).filter f.wants, { f with subscriber })

/-- Take a message of the client: a request replaces the filter, anything else is passed over. -/
def receive (f : Feed) (m : ClientMessage) : Feed :=
  { f with streams := m.wantedStreams?.getD f.streams }

/-- Without names the filter lets every message through, so that a client that asks for nothing is
told everything. -/
@[simp] theorem wants_of_streams_eq_nil {f : Feed} (h : f.streams = []) (m : BusMessage) :
    f.wants m = true := by
  simp [wants, h]

/-- The filter is changed by requests of the client only; to hand messages over leaves it as it
is. -/
@[simp] theorem streams_deliver (f : Feed) (b : Bus) : (f.deliver b).2.streams = f.streams := rfl

/-- A message of the client does not touch the place in the log, so that nothing is skipped or
repeated by a request. -/
@[simp] theorem subscriber_receive (f : Feed) (m : ClientMessage) :
    (f.receive m).subscriber = f.subscriber := rfl

/-- A message that is no request changes nothing: neither the filter nor the place in the log. -/
theorem receive_of_no_request {f : Feed} {m : ClientMessage} (h : m.wantedStreams? = none) :
    f.receive m = f := by
  simp [receive, h]

/-- A client that wants all streams and is not too far behind gets exactly the messages of
the log, each of them once and in order. -/
theorem deliver_of_streams_eq_nil {f : Feed} {b : Bus} (hs : f.streams = [])
    (hm : f.subscriber.missed b = 0) :
    (f.deliver b).1 = b.log.toList.drop f.subscriber.position := by
  simp only [deliver, Subscriber.drain_of_missed_eq_zero hm, List.filterMap_map]
  rw [List.filter_eq_self.2 fun m _ => wants_of_streams_eq_nil hs m]
  simp [Function.comp_def, BusEvent.message?]

end Feed

end VariableBridge
