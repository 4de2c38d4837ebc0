import VariableBridge.Proofs.Stream.Listening
import VariableBridge.Stream.Feed

/-!
# Connections

A connection is followed step by step: streams are opened, send and end on the bus, the
server handles one message of the bus at a time, and the client sends texts and bytes, in
any order. Subscription and greeting are one step: see `connect` for what this leaves out.
Main statements: handling one message after the other is delivering them all; and a client
that asks for no part of the streams, and that the server does not leave behind, knows what
is open on the bus and gets each message once and in order.
-/

namespace VariableBridge

namespace Subscriber

variable {s : Subscriber} {b : Bus}

/-- Receive what comes next, if there is anything: how many messages were lost, or a message. -/
def recv (s : Subscriber) (b : Bus) : Option BusEvent × Subscriber :=
  if s.missed b = 0 then
    match b.log[s.position]? with
    | some m => (some (.message m), ⟨s.position + 1⟩)
    | none => (none, s)
  else (some (.lagged (s.missed b)), ⟨s.position + s.missed b⟩)

/-- A subscriber has missed nothing exactly as long as it is no further behind than the bus has room
for. -/
theorem missed_eq_zero_iff : s.missed b = 0 ↔ b.log.size - s.position ≤ b.room :=
  Nat.sub_eq_zero_iff_le

/-- A subscriber that has missed nothing receives the message at its place in the log and goes on to
the next place. -/
theorem recv_of_getElem? (h : s.missed b = 0) {m : BusMessage}
    (hm : b.log[s.position]? = some m) : s.recv b = (some (.message m), ⟨s.position + 1⟩) := by
  rw [recv, if_pos h, hm]

/-- A subscriber that has missed nothing and stands at the end of the log receives nothing and stays
there. -/
theorem recv_of_getElem?_eq_none (h : s.missed b = 0) (hm : b.log[s.position]? = none) :
    s.recv b = (none, s) := by
  rw [recv, if_pos h, hm]

/-- What a subscriber receives bit by bit is what it receives at once. -/
theorem drain_eq_recv (s : Subscriber) (b : Bus) :
    s.drain b = ((s.recv b).1.toList ++ ((s.recv b).2.drain b).1, ((s.recv b).2.drain b).2) := by
  by_cases h : s.missed b = 0
  · cases hm : b.log[s.position]? with
    | none => rw [recv_of_getElem?_eq_none h hm, Option.toList_none, List.nil_append]
    | some m =>
      have hlt : s.position < b.log.toList.length :=
        (Array.getElem?_eq_some_iff.mp hm).1
      have hnext : Subscriber.missed ⟨s.position + 1⟩ b = 0 := by
        simp only [missed] at h ⊢
        omega
      have hget : b.log.toList[s.position] = m := by
        simpa using (Array.getElem?_eq_some_iff.mp hm).2
      rw [recv_of_getElem? h hm, Prod.mk.injEq]
      refine ⟨?_, rfl⟩
      rw [drain_of_missed_eq_zero h, drain_of_missed_eq_zero hnext,
        List.drop_eq_getElem_cons hlt, hget]
      rfl
  · have hnext : Subscriber.missed ⟨s.position + s.missed b⟩ b = 0 := by
      simp only [missed] at h ⊢
      omega
    rw [recv, if_neg h, Prod.mk.injEq]
    refine ⟨?_, rfl⟩
    rw [drain_of_missed_eq_zero hnext, drain, if_neg h]
    rfl

end Subscriber

namespace Feed

/-- Handle what comes next from the bus: a message goes to the client if the filter lets it
through. -/
def handle (f : Feed) (b : Bus) : Option BusMessage × Feed :=
  let (event, subscriber) := f.subscriber.recv b
  ((event.bind BusEvent.message?).filter f.wants, { f with subscriber })

/-- What is handed over message by message is what is handed over at once. -/
theorem deliver_eq_handle (f : Feed) (b : Bus) :
    f.deliver b =
      ((f.handle b).1.toList ++ ((f.handle b).2.deliver b).1, ((f.handle b).2.deliver b).2) := by
  rw [deliver, f.subscriber.drain_eq_recv b, Prod.mk.injEq]
  refine ⟨?_, rfl⟩
  rw [List.filterMap_append, List.filter_append]
  congr 1
  simp only [handle]
  rw [Option.toList_filter]
  cases (f.subscriber.recv b).1 with
  | none => rfl
  | some event => cases event <;> rfl

/-- Nothing is handed over if there is nothing: a feed at the end of the log stays as it is. -/
theorem deliver_of_position_eq {f : Feed} {b : Bus} (h : f.subscriber.position = b.log.size) :
    f.deliver b = ([], f) := by
  obtain ⟨⟨position⟩, streams⟩ := f
  obtain rfl : position = b.log.size := h
  have hnone : b.log.toList.drop b.log.size = [] := List.drop_eq_nil_of_le (by simp)
  simp only [deliver, Subscriber.drain, Subscriber.missed, Nat.sub_self, Nat.zero_sub,
    Nat.add_zero, hnone]
  rfl

end Feed

/-- A bus and the outlets that send on it. -/
structure Senders where
  /-- The bus. -/
  bus : Bus
  /-- The outlets. -/
  outlets : List Outlet
  deriving Repr

namespace Senders

/-- What can be done on a bus. -/
inductive Action where
  /-- A stream is opened, if nothing speaks against it. -/
  | opens (info : StreamInfo)
  /-- A stream sends a sample, if it is open. -/
  | sends (i : StreamId) (values : SampleValues)
  /-- A stream is closed, if it is open. -/
  | closes (i : StreamId)
  /-- Time passes. -/
  | waits (now : Time.Instant)
  deriving DecidableEq, Repr

/-- Nothing was done yet. -/
def start (capacity : Nat) : Senders := ⟨.new capacity, []⟩

/-- The outlet of a stream. -/
def outlet? (s : Senders) (i : StreamId) : Option Outlet := s.outlets.find? fun o => o.id = i

/-- Do one thing. -/
def perform (s : Senders) : Action → Senders
  | .opens info =>
    match s.bus.createOutlet info with
    | .ok (o, bus) => ⟨bus, o :: s.outlets⟩
    | .error _ => s
  | .sends i values =>
    match s.outlet? i with
    | some o => ⟨(s.bus.push o values).2, (s.bus.push o values).1 :: s.outlets.erase o⟩
    | none => s
  | .closes i =>
    match s.outlet? i with
    | some o => ⟨s.bus.close o, s.outlets.erase o⟩
    | none => s
  | .waits now => { s with bus.now := now }

/-- Do one thing after the other. -/
def after (s : Senders) (actions : List Action) : Senders := actions.foldl perform s

/-- The outlets of the bus are handled, whatever is done, and actions on outlets that are not there
do nothing. -/
theorem perform_handling (s : Senders) (a : Action) :
    Handling [] s.outlets s.bus (s.perform a).outlets (s.perform a).bus := by
  cases a with
  | opens info =>
    simp only [perform, Bus.createOutlet]
    cases Bus.objection info with
    | some error => exact .idle
    | none => exact .step .idle (.opened s.outlets s.bus info)
  | sends i values =>
    simp only [perform]
    cases ho : s.outlet? i with
    | none => exact .idle
    | some o =>
      have hperm := List.perm_cons_erase (List.mem_of_find?_eq_some ho)
      exact (Handling.perm .idle hperm).step (.sent o _ s.bus values)
  | closes i =>
    simp only [perform]
    cases ho : s.outlet? i with
    | none => exact .idle
    | some o =>
      have hperm := List.perm_cons_erase (List.mem_of_find?_eq_some ho)
      exact (Handling.perm .idle hperm).step (.closed o _ s.bus fun hk => nomatch hk)
  | waits now => exact .wait .idle now

/-- Whatever is done on a bus only handles outlets: streams are opened, send and are closed by those
that hold them. -/
theorem after_handling (s : Senders) (actions : List Action) :
    Handling [] s.outlets s.bus (s.after actions).outlets (s.after actions).bus := by
  induction actions generalizing s with
  | nil => exact .idle
  | cons a actions ih => exact (s.perform_handling a).trans (ih (s.perform a))

/-- On a bus from its beginning on, exactly the streams of the outlets that were not closed are
open. -/
theorem holds_after (capacity : Nat) (actions : List Action) :
    ((start capacity).after actions).bus.Holds ((start capacity).after actions).outlets :=
  ((start capacity).after_handling actions).holds (Bus.holds_new capacity)

end Senders

/-- A connection with all that happens around it. -/
structure Connection where
  /-- The bus and what sends on it. -/
  senders : Senders
  /-- The server's end. -/
  feed : Feed
  /-- All messages that the client has got. -/
  received : List BusMessage
  /-- The messages that the server has taken from the bus, each with the streams that the client
  wanted then. -/
  handled : List (BusMessage × List String)
  deriving Repr

namespace Connection

/-- What can happen around a connection. -/
inductive Action where
  /-- Something is done on the bus. -/
  | bus (a : Senders.Action)
  /-- The server handles what comes next from the bus. -/
  | handle
  /-- The server hears from the client. -/
  | hear (m : ClientMessage)
  deriving DecidableEq, Repr

/-- A client connects and is greeted with the announcements. The server takes its place in the log
first and looks at the table of open streams, under its lock, after that, so that no announcement
is missed in between; one that falls in between is told twice, by the table and by the log. Here
both happen at once, and everything on the bus comes before or after them. -/
def connect (s : Senders) : Connection := ⟨s, s.bus.connect.2, s.bus.connect.1, []⟩

/-- The message that comes next from the bus. -/
def next? (c : Connection) : Option BusMessage :=
  (c.feed.subscriber.recv c.senders.bus).1.bind BusEvent.message?

/-- One thing happens. -/
def perform (c : Connection) : Action → Connection
  | .bus a => { c with senders := c.senders.perform a }
  | .handle =>
    let (sent, feed) := c.feed.handle c.senders.bus
    { c with
      feed
      received := c.received ++ sent.toList
      handled := c.handled ++ (c.next?.map fun m => (m, c.feed.streams)).toList }
  | .hear m => { c with feed := c.feed.receive m }

/-- One thing happens after the other. -/
def after (c : Connection) (acts : List Action) : Connection := acts.foldl perform c

/-- Number of messages that the server has not taken from the bus yet. -/
def outstanding (c : Connection) : Nat := c.senders.bus.log.size - c.feed.subscriber.position

/-- At no moment are more messages outstanding than the bus has room for. The room is the
capacity, rounded up to a power of two. -/
def KeepsUp (c : Connection) : List Action → Prop
  | [] => c.outstanding ≤ c.senders.bus.room
  | a :: acts => c.outstanding ≤ c.senders.bus.room ∧ (c.perform a).KeepsUp acts

instance decidableKeepsUp : (c : Connection) → (acts : List Action) → Decidable (c.KeepsUp acts)
  | _, [] => inferInstanceAs (Decidable (_ ≤ _))
  | c, a :: acts => @instDecidableAnd _ _ _ (decidableKeepsUp (c.perform a) acts)

/-- Does the filter of then let a message through? -/
def passes (p : BusMessage × List String) : Bool := p.2.isEmpty || p.2.contains p.1.streamName

variable {s : Senders} {c : Connection}

/-- Where nothing happens, a connection stays as it is, with what was sent and received before. -/
@[simp] theorem after_nil (c : Connection) : c.after [] = c := rfl

/-- What happens to a connection happens one after the other, the first thing first. -/
@[simp] theorem after_cons (c : Connection) (a : Action) (acts : List Action) :
    c.after (a :: acts) = (c.perform a).after acts := rfl

/-- A server that is behind by no more than the room of the bus has lost no message. -/
theorem missed_eq_zero (h : c.outstanding ≤ c.senders.bus.room) :
    c.feed.subscriber.missed c.senders.bus = 0 :=
  Subscriber.missed_eq_zero_iff.mpr h

/-- At the end, too, no more messages are outstanding than there is room for. -/
theorem KeepsUp.last {acts : List Action} (h : c.KeepsUp acts) :
    (c.after acts).outstanding ≤ (c.after acts).senders.bus.room := by
  induction acts generalizing c with
  | nil => exact h
  | cons a acts ih => exact ih h.2

/-- A server that keeps up with a history keeps up at its beginning. -/
theorem KeepsUp.head {acts : List Action} (h : c.KeepsUp acts) :
    c.outstanding ≤ c.senders.bus.room := by
  cases acts with
  | nil => exact h
  | cons a acts => exact h.1

/-- The server takes the next message and hands it over exactly if its filter lets it through. -/
theorem perform_handle_of_getElem? (h : c.outstanding ≤ c.senders.bus.room) {m : BusMessage}
    (hm : c.senders.bus.log[c.feed.subscriber.position]? = some m) :
    c.perform .handle =
      { c with
        feed.subscriber := ⟨c.feed.subscriber.position + 1⟩
        received := c.received ++ if passes (m, c.feed.streams) then [m] else []
        handled := c.handled ++ [(m, c.feed.streams)] } := by
  have hrecv := Subscriber.recv_of_getElem? (missed_eq_zero h) hm
  simp only [perform, Feed.handle, next?, hrecv, Option.bind_some, BusEvent.message?,
    Option.map_some, Option.toList_some, Option.filter_some]
  by_cases hw : c.feed.wants m = true
  · have hp : passes (m, c.feed.streams) = true := hw
    rw [if_pos hw, if_pos hp, Option.toList_some]
  · have hp : ¬passes (m, c.feed.streams) = true := hw
    rw [if_neg hw, if_neg hp, Option.toList_none]

/-- The server has nothing to take once it stands at the end of the log. -/
theorem perform_handle_of_getElem?_eq_none (h : c.outstanding ≤ c.senders.bus.room)
    (hm : c.senders.bus.log[c.feed.subscriber.position]? = none) : c.perform .handle = c := by
  have hrecv := Subscriber.recv_of_getElem?_eq_none (missed_eq_zero h) hm
  simp only [perform, Feed.handle, next?, hrecv, Option.bind_none, Option.filter_none,
    Option.toList_none, Option.map_none, List.append_nil]

/-- Handling what is outstanding, one message after the other, is delivering it. -/
theorem after_handles (hr : c.feed.subscriber.position ≤ c.senders.bus.log.size)
    (hk : c.outstanding ≤ c.senders.bus.room) :
    (c.after (List.replicate c.outstanding .handle)).received =
        c.received ++ (c.feed.deliver c.senders.bus).1 ∧
      (c.after (List.replicate c.outstanding .handle)).feed =
        (c.feed.deliver c.senders.bus).2 := by
  generalize hn : c.outstanding = n
  induction n generalizing c with
  | zero =>
    have hposition : c.feed.subscriber.position = c.senders.bus.log.size := by
      unfold outstanding at hn
      omega
    rw [List.replicate_zero, after_nil, Feed.deliver_of_position_eq hposition]
    exact ⟨(List.append_nil _).symm, rfl⟩
  | succ n ih =>
    have hlt : c.feed.subscriber.position < c.senders.bus.log.size := by
      unfold outstanding at hn
      omega
    have hstep := perform_handle_of_getElem? hk (Array.getElem?_eq_getElem hlt)
    have hposition : (c.perform .handle).feed.subscriber.position =
        c.feed.subscriber.position + 1 := by
      rw [hstep]
    have hleft : (c.perform .handle).outstanding = n := by
      have hbus : (c.perform .handle).senders = c.senders := rfl
      rw [outstanding] at hn ⊢
      rw [hposition, hbus]
      omega
    obtain ⟨hreceived, hfeed⟩ := ih (c := c.perform .handle) (hposition ▸ hlt)
      (by
        rw [hleft]
        exact Nat.le_trans (Nat.le_of_succ_le (Nat.le_of_eq hn.symm)) hk) hleft
    rw [List.replicate_succ, after_cons, hreceived, hfeed, c.feed.deliver_eq_handle]
    exact ⟨List.append_assoc .., rfl⟩

/-- What a connection comes to if the server is never left behind. -/
structure Follows (s : Senders) (c : Connection) : Prop where
  /-- Since the connect the outlets were handled. -/
  handling : Handling [] s.outlets s.bus c.senders.outlets c.senders.bus
  /-- The server began with what was published after the connect. -/
  begun : s.bus.log.size ≤ c.feed.subscriber.position
  /-- It is not ahead of the bus. -/
  reached : c.feed.subscriber.position ≤ c.senders.bus.log.size
  /-- It has taken all messages up to its place. -/
  handled : s.bus.log.toList ++ c.handled.map Prod.fst =
    c.senders.bus.log.toList.take c.feed.subscriber.position
  /-- The client has got the announcements and what the filters let through. -/
  received : c.received = s.bus.announcements ++ (c.handled.filter passes).map Prod.fst

/-- After the connect, before anything else happens, the client has got the announcements and the
server has handled nothing. -/
theorem follows_connect (s : Senders) : Follows s (connect s) where
  handling := .idle
  begun := Nat.le_refl _
  reached := Nat.le_refl _
  handled := by
    change s.bus.log.toList ++ [] = s.bus.log.toList.take s.bus.log.size
    rw [List.append_nil, ← Array.length_toList, List.take_length]
  received := (List.append_nil _).symm

namespace Follows

/-- The bus goes on, and the connection follows it still: what is outstanding grows by what is
published. -/
theorem bus (h : Follows s c) (a : Senders.Action) : Follows s (c.perform (.bus a)) := by
  have hstep := c.senders.perform_handling a
  obtain ⟨more, hmore⟩ := hstep.log_prefix
  have hsize : c.senders.bus.log.size ≤ (c.senders.perform a).bus.log.size := by
    simpa using hstep.log_prefix.length_le
  refine ⟨h.handling.trans hstep, h.begun, Nat.le_trans h.reached hsize, ?_, h.received⟩
  refine h.handled.trans ?_
  change _ = (c.senders.perform a).bus.log.toList.take c.feed.subscriber.position
  rw [← hmore, List.take_append_of_le_length (by simpa using h.reached)]

/-- The server takes a message or finds none, and what was received stays what was let through of
what was handled. -/
theorem handle (h : Follows s c) (hk : c.outstanding ≤ c.senders.bus.room) :
    Follows s (c.perform .handle) := by
  cases hm : c.senders.bus.log[c.feed.subscriber.position]? with
  | none =>
    rw [perform_handle_of_getElem?_eq_none hk hm]
    exact h
  | some m =>
    have hlt : c.feed.subscriber.position < c.senders.bus.log.size :=
      (Array.getElem?_eq_some_iff.mp hm).1
    rw [perform_handle_of_getElem? hk hm]
    refine ⟨h.handling, Nat.le_succ_of_le h.begun, hlt, ?_, ?_⟩
    · have hlist : c.senders.bus.log.toList[c.feed.subscriber.position]? = some m := by
        rw [Array.getElem?_toList, hm]
      rw [List.map_append, ← List.append_assoc, h.handled, List.take_add_one, hlist]
      rfl
    · change c.received ++ _ = _
      rw [h.received, List.filter_append, List.map_append, ← List.append_assoc]
      congr 1
      by_cases hp : passes (m, c.feed.streams) = true
      · rw [if_pos hp, List.filter_singleton, hp]
        rfl
      · rw [if_neg hp, List.filter_cons_of_neg hp]
        rfl

/-- A connection follows the bus after anything that happens to it, if the server was not left
behind before. -/
theorem perform (h : Follows s c) (hk : c.outstanding ≤ c.senders.bus.room) (a : Action) :
    Follows s (c.perform a) := by
  cases a with
  | bus a => exact h.bus a
  | handle => exact h.handle hk
  | hear m => exact ⟨h.handling, h.begun, h.reached, h.handled, h.received⟩

/-- A connection follows the bus through any history that the server keeps up with. -/
theorem after (h : Follows s c) {acts : List Action} (hk : c.KeepsUp acts) :
    Follows s (c.after acts) := by
  induction acts generalizing c with
  | nil => exact h
  | cons a acts ih => exact ih (h.perform hk.head a) hk.2

/-- What was handled is what the bus published after the connect, up to the server's place. -/
theorem handled_append (h : Follows s c) :
    c.handled.map Prod.fst ++ c.senders.bus.log.toList.drop c.feed.subscriber.position =
      c.senders.bus.log.toList.drop s.bus.log.size := by
  have hall := List.take_append_drop c.feed.subscriber.position c.senders.bus.log.toList
  rw [← h.handled, List.append_assoc] at hall
  have hdrop := congrArg (List.drop s.bus.log.size) hall
  rwa [List.drop_left' Array.length_toList] at hdrop

/-- With the announcements and what was handled, each stream is heard, and it is open in these
messages exactly if it is open on the bus as far as that was handled. -/
theorem heard (h : Follows s c) (h₀ : s.bus.Holds s.outlets) (i : StreamId) :
    let told := s.bus.announcements ++ c.handled.map Prod.fst
    let known := c.senders.bus.log.toList.take c.feed.subscriber.position
    (concerning i told = [] ∧ ∀ info, ¬OpenIn known i info) ∨
      ∃ info first ended, IsHeard i info first ended (concerning i told) ∧
        (i ∉ s.outlets.map Outlet.id → first = 0) ∧
        ∀ other, OpenIn known i other ↔ ended = false ∧ other = info := by
  obtain ⟨os, b, hb, hlog⟩ := h.handling.at_prefix h.begun h.reached
  rw [← h.handled] at hlog
  have hheard := h₀.heard (hb.holds h₀) hlog i
  rw [hlog, h.handled] at hheard
  exact hheard

/-- Announcements and handled messages together tell of each stream one part of its life, which
begins with its metadata. -/
theorem allHeard (h : Follows s c) (h₀ : s.bus.Holds s.outlets) :
    AllHeard (s.bus.announcements ++ c.handled.map Prod.fst) := by
  intro i
  rcases h.heard h₀ i with ⟨hnone, _⟩ | ⟨info, first, ended, hheard, _⟩
  · exact .inl hnone
  · exact .inr ⟨info, first, ended, hheard⟩

end Follows

/-- No filter was ever in force. -/
structure Unfiltered (c : Connection) : Prop where
  /-- The client wants all streams. -/
  streams : c.feed.streams = []
  /-- It wanted them for each message that was handled. -/
  handled : ∀ p ∈ c.handled, p.2 = []

/-- A new connection wants all streams, and no message was filtered before it. -/
theorem unfiltered_connect (s : Senders) : Unfiltered (connect s) :=
  ⟨rfl, fun _ hp => nomatch hp⟩

/-- A client that sends no request goes on to want all streams, whatever else happens. -/
theorem Unfiltered.perform (h : c.Unfiltered) {a : Action}
    (ha : ∀ m, a = .hear m → m.wantedStreams? = none) : (c.perform a).Unfiltered := by
  cases a with
  | bus a => exact ⟨h.streams, h.handled⟩
  | handle =>
    refine ⟨h.streams, ?_⟩
    intro p hp
    rcases List.mem_append.mp hp with hp | hp
    · exact h.handled p hp
    · obtain ⟨m, _, rfl⟩ := Option.map_eq_some_iff.mp (Option.mem_toList.mp hp)
      exact h.streams
  | hear m =>
    refine ⟨?_, h.handled⟩
    change (c.feed.receive m).streams = []
    rw [Feed.receive_of_no_request (ha m rfl), h.streams]

/-- A client that sends no request in a history has wanted all streams in the whole of it. -/
theorem Unfiltered.after (h : c.Unfiltered) {acts : List Action}
    (hq : ∀ m, .hear m ∈ acts → m.wantedStreams? = none) : (c.after acts).Unfiltered := by
  induction acts generalizing c with
  | nil => exact h
  | cons a acts ih =>
    apply ih
    · apply h.perform
      rintro m rfl
      exact hq m List.mem_cons_self
    · intro m hm
      exact hq m (List.mem_cons_of_mem _ hm)

/-- Without a filter the client gets all that is handled, behind the announcements of the
greeting. -/
theorem Follows.received_of_unfiltered (h : Follows s c) (hu : c.Unfiltered) :
    c.received = s.bus.announcements ++ c.handled.map Prod.fst := by
  have hall : c.handled.filter passes = c.handled := by
    apply List.filter_eq_self.mpr
    intro p hp
    rw [passes, hu.handled p hp]
    rfl
  rw [h.received, hall]

/-- For all that was done on a bus before a client connects, and for all that happens then: if the
server keeps up and the client sends nothing that is a request, then, when nothing is outstanding,
the streams that were announced to the client and not seen to be closed are those that are open on
the bus, with their metadata. At any moment no stream was announced twice, each sample was preceded
by the announcement of its stream and not by its end, the samples of a stream are numbered without
a gap, and from zero if the stream was not open at the connect, and what the client has got,
followed by what is outstanding, is the announcements of the streams that were open at the connect
and all that was published since. That is what it has got as soon as the server has handled the
outstanding messages, if nothing else is published. -/
theorem client_reconstructs_bus (capacity : Nat) (before : List Senders.Action)
    (acts : List Action)
    (hkeeps : (connect ((Senders.start capacity).after before)).KeepsUp acts)
    (hquiet : ∀ m, .hear m ∈ acts → m.wantedStreams? = none) :
    let s := (Senders.start capacity).after before
    let c := (connect s).after acts
    (c.outstanding = 0 → ∀ i info,
        OpenIn c.received i info ↔ (i, info) ∈ c.senders.bus.openStreams) ∧
      (∀ front i info back, c.received = front ++ .opened i info :: back →
        ∀ other, .opened i other ∉ front) ∧
      (∀ front frame back, c.received = front ++ .sample frame :: back →
        ∃ info, OpenIn front frame.id info ∧ info.name = frame.name) ∧
      (∀ i, ∃ first,
        let frames := (framesIn c.received).filter fun frame => frame.id = i
        frames.map SampleFrame.sequence = List.range' first frames.length ∧
          ((∀ info, (i, info) ∉ s.bus.openStreams) → first = 0)) ∧
      c.received ++ c.senders.bus.log.toList.drop c.feed.subscriber.position =
        s.bus.announcements ++ c.senders.bus.log.toList.drop s.bus.log.size ∧
      (c.after (List.replicate c.outstanding .handle)).received =
        s.bus.announcements ++ c.senders.bus.log.toList.drop s.bus.log.size := by
  intro s c
  have h₀ : s.bus.Holds s.outlets := Senders.holds_after capacity before
  have hc : Follows s c := (follows_connect s).after hkeeps
  have hunfiltered : c.Unfiltered := (unfiltered_connect s).after hquiet
  have hreceived := hc.received_of_unfiltered hunfiltered
  have hwhole : c.received ++ c.senders.bus.log.toList.drop c.feed.subscriber.position =
      s.bus.announcements ++ c.senders.bus.log.toList.drop s.bus.log.size := by
    rw [hreceived, List.append_assoc, hc.handled_append]
  have hall : AllHeard c.received := hreceived ▸ hc.allHeard h₀
  refine ⟨?_, fun _ _ _ _ => hall.not_mem_before, fun _ _ _ => hall.openIn_before, ?_, hwhole, ?_⟩
  · intro hdone i info
    have hknown : c.senders.bus.log.toList.take c.feed.subscriber.position =
        c.senders.bus.log.toList :=
      List.take_of_length_le (by simpa using Nat.le_of_sub_eq_zero hdone)
    have hheard := hc.heard h₀ i
    rw [hknown, ← hreceived] at hheard
    rw [(hc.handling.holds h₀).mem_openStreams_iff, ← openIn_concerning]
    rcases hheard with ⟨hnone, hclosed⟩ | ⟨_, _, _, hheard, _, hopen⟩
    · rw [hnone]
      exact iff_of_false (not_openIn_nil i info) (hclosed info)
    · rw [hheard.openIn_iff, hopen]
  · intro i
    rw [← framesIn_concerning]
    rcases hc.heard h₀ i with ⟨hnone, _⟩ | ⟨_, first, _, hheard, hfirst, _⟩
    · refine ⟨0, ?_, fun _ => rfl⟩
      rw [hreceived, hnone]
      rfl
    · rw [← hreceived] at hheard
      refine ⟨first, hheard.sequences, ?_⟩
      intro hnew
      apply hfirst
      intro hi
      obtain ⟨o, ho, rfl⟩ := List.mem_map.mp hi
      exact hnew o.info (h₀.table.mem_iff.mpr (List.mem_map_of_mem ho))
  · have hroom : c.outstanding ≤ c.senders.bus.room := hkeeps.last
    rw [(after_handles hc.reached hroom).1,
      Feed.deliver_of_streams_eq_nil hunfiltered.streams (missed_eq_zero hroom), hwhole]

/-- A client comes when one stream has sent a sample, talks nonsense, sees another stream open and
the first one end. -/
theorem late_client_reconstructs_bus :
    let level : StreamInfo := ⟨"level", "VAR_INT", 1, .ofNat 10, .int32, "desk"⟩
    let spec : StreamInfo := ⟨"spec", "VAR_INT", 1, .ofNat 10, .int32, "desk"⟩
    let before : List Senders.Action := [.opens level, .sends ⟨0⟩ (.int32 [1])]
    let acts : List Action :=
      [.bus (.sends ⟨0⟩ (.int32 [2])), .bus (.opens spec), .hear (.text "hello"), .handle, .handle,
        .bus (.sends ⟨1⟩ (.int32 [3])), .hear (.binary [0]), .bus (.closes ⟨0⟩), .handle, .handle]
    let s := (Senders.start 2).after before
    let c := (connect s).after acts
    (connect s).KeepsUp acts ∧ (∀ m, .hear m ∈ acts → m.wantedStreams? = none) ∧
      c.outstanding = 0 ∧ c.senders.bus.openStreams = [(⟨1⟩, spec)] ∧
      (∀ i info, OpenIn c.received i info ↔ i = ⟨1⟩ ∧ info = spec) ∧
      c.received = [.opened ⟨0⟩ level, .sample ⟨⟨0⟩, "level", 1, .epoch, .int32 [2]⟩,
        .opened ⟨1⟩ spec, .sample ⟨⟨1⟩, "spec", 0, .epoch, .int32 [3]⟩, .closed ⟨0⟩ "level"] := by
  intro level spec before acts s c
  have hkeeps : (connect s).KeepsUp acts := by
    unfold acts s before level spec
    decide +kernel
  have hquiet : ∀ m, .hear m ∈ acts → m.wantedStreams? = none := by
    intro m hm
    obtain rfl | rfl : m = .text "hello" ∨ m = .binary [0] := by simpa [acts] using hm
    · decide +kernel
    · rfl
  have hdone : c.outstanding = 0 := by
    unfold c acts s before level spec
    decide +kernel
  have htable : c.senders.bus.openStreams = [(⟨1⟩, spec)] := by
    unfold c acts s before level spec
    decide +kernel
  obtain ⟨hopen, _⟩ := client_reconstructs_bus 2 before acts hkeeps hquiet
  refine ⟨hkeeps, hquiet, hdone, htable, ?_, ?_⟩
  · intro i info
    rw [hopen hdone i info, htable, List.mem_singleton, Prod.mk.injEq]
  · unfold c acts s before level spec
    decide +kernel

end Connection

end VariableBridge
