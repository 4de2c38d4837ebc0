import VariableBridge.Proofs.Bridge.Reconciling
import VariableBridge.Proofs.Json.FiniteFloats
import VariableBridge.Proofs.Stream.Connection
import VariableBridge.Proofs.Stream.WireFormat
import VariableBridge.Proofs.Time.Stamps

/-!
# Legible messages

Samples carry whatever lies in memory, also floats that no numeral stands for. Such floats are
written as nulls, and a null is not read as a float. Main statement: whatever is done on a bus,
the text of every message that a client is sent is JSON, and it is read as a message exactly if
all floats of the sample in it are finite; then identity, name, sequence number, time stamp,
format and number of the values are those that were sent. A sample of an adapter is sent as the
adapter pushed it.
-/

namespace VariableBridge

open Json (Value)
open Number (Single Double)
open Space (Memory)

namespace SampleValues

/-- Are all floats finite? -/
def isFinite : SampleValues → Bool
  | .int32 _ => true
  | .float32 values => values.all fun x => x.datum.isFinite
  | .float64 values => values.all fun x => x.datum.isFinite

/-- Whatever the values are, they may be stored: floats that are not finite are written as nulls. -/
theorem isStorable (v : SampleValues) (depth : Nat) : v.toJson.IsStorable (depth + 2) := by
  cases v with
  | int32 values => exact (encodes (v := .int32 values) trivial depth).toIsStorable
  | float32 values =>
    refine isStorable_choice "float32" (Value.isStorable_array ?_)
    intro content hcontent
    obtain ⟨x, _, rfl⟩ := List.mem_map.mp hcontent
    exact Json.isStorable_single x depth
  | float64 values =>
    refine isStorable_choice "float64" (Value.isStorable_array ?_)
    intro content hcontent
    obtain ⟨x, _, rfl⟩ := List.mem_map.mp hcontent
    exact Json.isStorable_double x depth

/-- Values of 32-bit floats are read back as an array of such floats: whether they are read hangs on
each of them. -/
theorem ofJson?_float32 (values : List Single) :
    ofJson? (toJson (.float32 values)) =
      ((Value.array (values.map Json.ofSingle)).toList? Value.toSingle?).map .float32 := rfl

/-- Values of 64-bit floats are read back as an array of such floats: whether they are read hangs on
each of them. -/
theorem ofJson?_float64 (values : List Double) :
    ofJson? (toJson (.float64 values)) =
      ((Value.array (values.map Json.ofDouble)).toList? Value.toDouble?).map .float64 := rfl

/-- Values decode exactly if all floats are finite, because a null is read as no float. -/
theorem isSome_ofJson? (v : SampleValues) : (ofJson? v.toJson).isSome = v.isFinite := by
  cases v with
  | int32 values =>
    rw [(encodes (v := .int32 values) trivial 0).decodes]
    rfl
  | float32 values =>
    rw [ofJson?_float32, Option.isSome_map, Value.isSome_toList?_array, List.all_map]
    exact congrArg values.all (funext Json.isSome_toSingle?_ofSingle)
  | float64 values =>
    rw [ofJson?_float64, Option.isSome_map, Value.isSome_toList?_array, List.all_map]
    exact congrArg values.all (funext Json.isSome_toDouble?_ofDouble)

/-- Decoded values are as many as before and in the same format, whatever the floats themselves read
back as. -/
theorem format_of_ofJson? {v w : SampleValues} (h : ofJson? v.toJson = some w) :
    w.length = v.length ∧ w.format = v.format := by
  cases v with
  | int32 values =>
    rw [(encodes (v := .int32 values) trivial 0).decodes] at h
    obtain rfl := Option.some.inj h
    exact ⟨rfl, rfl⟩
  | float32 values =>
    rw [ofJson?_float32] at h
    obtain ⟨others, hothers, rfl⟩ := Option.map_eq_some_iff.mp h
    exact ⟨(Value.length_of_toList?_array hothers).trans (List.length_map _), rfl⟩
  | float64 values =>
    rw [ofJson?_float64] at h
    obtain ⟨others, hothers, rfl⟩ := Option.map_eq_some_iff.mp h
    exact ⟨(Value.length_of_toList?_array hothers).trans (List.length_map _), rfl⟩

end SampleValues

/-- A rate that nothing speaks against is finite, so the metadata of an open stream can always be
read. -/
theorem Bus.isFinite_of_objection_eq_none {info : StreamInfo} (h : objection info = none) :
    info.nominalRate.datum.isFinite = true := by
  unfold objection at h
  split at h
  · cases h
  · split at h
    next hrate =>
      unfold Double.isFiniteNonneg at hrate
      split at hrate
      next heq =>
        rw [heq]
        rfl
      next => cases hrate
    next => cases h

namespace BusMessage

/-- Are all values of a sample finite? Other messages have none. -/
def isFinite : BusMessage → Bool
  | .sample frame => frame.values.isFinite
  | _ => true

/-- Does another message tell the same, if only the numbers themselves are left open? -/
def IsEchoedBy (m back : BusMessage) : Prop :=
  match m with
  | .opened id info => ∃ nominalRate, back = .opened id { info with nominalRate }
  | .sample frame => ∃ values, back = .sample { frame with values } ∧
    values.length = frame.values.length ∧ values.format = frame.values.format
  | .closed id name => back = .closed id name

/-- Can the message be published as one of so many, by a clock that tells the time? -/
def IsPosted (bound : Nat) : BusMessage → Prop
  | .opened id info => id.number < bound ∧ Bus.objection info = none
  | .sample frame => frame.id.number < bound ∧ frame.sequence < bound ∧ frame.timestamp.IsTellable
  | .closed id _ => id.number < bound

variable {m : BusMessage} {bound : Nat}

/-- A message that was posted below a bound was posted below every larger one. -/
theorem IsPosted.mono {larger : Nat} (h : m.IsPosted bound) (hle : bound ≤ larger) :
    m.IsPosted larger := by
  cases m with
  | opened id info => exact ⟨lt_of_lt_of_le h.1 hle, h.2⟩
  | sample frame => exact ⟨lt_of_lt_of_le h.1 hle, lt_of_lt_of_le h.2.1 hle, h.2.2⟩
  | closed id name => exact lt_of_lt_of_le h hle

/-- A message that can be published may be stored, and it decodes exactly if it is finite; it is
echoed by what it decodes to. -/
theorem IsPosted.ofJson?_toJson (h : m.IsPosted bound) (hbound : bound ≤ sequenceBound) :
    m.toJson.IsStorable Value.nestingLimit ∧ (ofJson? m.toJson).isSome = m.isFinite ∧
      ∀ back, ofJson? m.toJson = some back → m.IsEchoedBy back := by
  have hids : sequenceBound ≤ StreamId.identityCount := by decide
  cases m with
  | opened id info =>
    obtain ⟨hid, hopenable⟩ := h
    obtain ⟨hinfo, hdecodeInfo⟩ := StreamInfo.ofJson?_toJson
      (Json.isStorable_double info.nominalRate (Value.nestingLimit - 2)) true
    obtain ⟨hall, hdecode⟩ :=
      ofJson?_opened (lt_of_lt_of_le hid (hbound.trans hids)) hinfo
    rw [hdecode, hdecodeInfo, Option.isSome_map, Option.isSome_map,
      Json.isSome_toDouble?_ofDouble, Bus.isFinite_of_objection_eq_none hopenable]
    refine ⟨hall, rfl, ?_⟩
    intro back hback
    obtain ⟨_, hread, rfl⟩ := Option.map_eq_some_iff.mp hback
    obtain ⟨nominalRate, _, rfl⟩ := Option.map_eq_some_iff.mp hread
    exact ⟨nominalRate, rfl⟩
  | sample frame =>
    obtain ⟨hid, hsequence, htimestamp⟩ := h
    obtain ⟨hall, hdecode⟩ :=
      ofJson?_sample (lt_of_lt_of_le hid (hbound.trans hids)) (lt_of_lt_of_le hsequence hbound)
        (Time.Instant.read_write htimestamp) (frame.values.isStorable (Value.nestingLimit - 3))
    rw [hdecode, Option.isSome_map, SampleValues.isSome_ofJson?]
    refine ⟨hall, rfl, ?_⟩
    intro back hback
    obtain ⟨values, hread, rfl⟩ := Option.map_eq_some_iff.mp hback
    exact ⟨values, rfl, SampleValues.format_of_ofJson? hread⟩
  | closed id name =>
    have hid : id.number < StreamId.identityCount := lt_of_lt_of_le h (hbound.trans hids)
    have hclosed := encodes (m := .closed id name) hid
    rw [hclosed.decodes]
    exact ⟨hclosed.toIsStorable, rfl, fun back hback => (Option.some.inj hback).symm⟩

/-- Is the text of a message JSON, is it read exactly if the message is finite, and is the message
echoed then? -/
structure IsLegibleIffFinite (m : BusMessage) : Prop where
  /-- The text is JSON. -/
  json : (Json.parse m.write).isSome = true
  /-- It is read as a message exactly if all values are finite. -/
  accepted : (read m.write).isSome = m.isFinite
  /-- What is read tells the same. -/
  echoed : ∀ back, read m.write = some back → m.IsEchoedBy back

/-- A posted message is legible exactly if its values are finite, as long as identities and numbers
are exact in JSON. -/
theorem IsPosted.isLegibleIffFinite (h : m.IsPosted bound) (hbound : bound ≤ sequenceBound) :
    m.IsLegibleIffFinite := by
  obtain ⟨hstorable, haccepted, hechoed⟩ := h.ofJson?_toJson hbound
  have hparse : Json.parse m.write = some m.toJson := Json.parse_print hstorable.proper
  have hread : read m.write = ofJson? m.toJson := by
    unfold read
    rw [hparse, Option.bind_some]
  refine ⟨by rw [hparse, Option.isSome_some], ?_, ?_⟩
  · rw [hread, haccepted]
  · rw [hread]
    exact hechoed

end BusMessage

/-- If time passes, is it a time that can be told? -/
def Senders.Action.IsTimely : Senders.Action → Prop
  | .waits now => now.IsTellable
  | _ => True

namespace Senders

/-- Is the bus such that fewer identities and numbers were given out than messages published? -/
structure IsInRange (s : Senders) : Prop where
  /-- The clock tells the time. -/
  now : s.bus.now.IsTellable
  /-- Each identity was announced by a message. -/
  nextId : s.bus.nextId ≤ s.bus.log.size
  /-- Each outlet was announced, and each of its samples is a message. -/
  outlets : ∀ o ∈ s.outlets, o.id.number < s.bus.log.size ∧ o.sequence < s.bus.log.size
  /-- The streams that are open can be announced again. -/
  announcements : ∀ m ∈ s.bus.announcements, m.IsPosted s.bus.log.size
  /-- What was published could be published. -/
  posted : ∀ m ∈ s.bus.log.toList, m.IsPosted s.bus.log.size

/-- A new bus is in range: its clock can be told, and it has neither streams nor messages. -/
theorem isInRange_start (capacity : Nat) : (start capacity).IsInRange where
  now := Time.Instant.isTellable_epoch
  nextId := Nat.le_refl _
  outlets := fun _ ho => nomatch ho
  announcements := fun _ hm => nomatch hm
  posted := fun _ hm => nomatch hm

variable {s : Senders}

/-- One more message gives out one more identity or number at most. -/
theorem IsInRange.publish (h : s.IsInRange) {m : BusMessage} {b : Bus} {os : List Outlet}
    (hlog : b.log = s.bus.log.push m) (hm : m.IsPosted (s.bus.log.size + 1))
    (hnow : b.now = s.bus.now) (hnext : b.nextId ≤ s.bus.nextId + 1)
    (hos : ∀ o ∈ os, o ∈ s.outlets ∨
      o.id.number < s.bus.log.size + 1 ∧ o.sequence < s.bus.log.size + 1)
    (hopen : ∀ a ∈ b.announcements, a ∈ s.bus.announcements ∨ a = m) :
    IsInRange ⟨b, os⟩ := by
  have hsize : b.log.size = s.bus.log.size + 1 := by rw [hlog, Array.size_push]
  have hgrown : s.bus.log.size ≤ s.bus.log.size + 1 := Nat.le_succ _
  refine ⟨hnow ▸ h.now, ?_, ?_, ?_, ?_⟩
  · change b.nextId ≤ b.log.size
    rw [hsize]
    exact hnext.trans (Nat.succ_le_succ h.nextId)
  · intro o ho
    change o.id.number < b.log.size ∧ o.sequence < b.log.size
    rw [hsize]
    rcases hos o ho with hold | hnew
    · obtain ⟨hid, hsequence⟩ := h.outlets o hold
      exact ⟨Nat.lt_succ_of_lt hid, Nat.lt_succ_of_lt hsequence⟩
    · exact hnew
  · intro a ha
    change a.IsPosted b.log.size
    rw [hsize]
    rcases hopen a ha with hold | rfl
    · exact (h.announcements a hold).mono hgrown
    · exact hm
  · intro a ha
    change a.IsPosted b.log.size
    change a ∈ b.log.toList at ha
    rw [hlog, Array.toList_push, List.mem_append, List.mem_singleton] at ha
    rw [hsize]
    rcases ha with hold | rfl
    · exact (h.posted a hold).mono hgrown
    · exact hm

/-- Whatever is done on a bus at a time that can be told leaves it in range, with bounds that grow
with the log. -/
theorem IsInRange.perform (h : s.IsInRange) {a : Action} (ha : a.IsTimely) :
    (s.perform a).IsInRange := by
  cases a with
  | opens info =>
    simp only [Senders.perform, Bus.createOutlet]
    cases hopenable : Bus.objection info with
    | some error => exact h
    | none =>
      have hid : s.bus.nextId < s.bus.log.size + 1 := Nat.lt_succ_of_le h.nextId
      refine h.publish rfl ⟨hid, hopenable⟩ rfl (Nat.le_refl _) ?_ ?_
      · intro o ho
        rcases List.mem_cons.mp ho with rfl | hold
        · exact .inr ⟨hid, Nat.succ_pos _⟩
        · exact .inl hold
      · intro m hm
        obtain ⟨p, hp, rfl⟩ := List.mem_map.mp hm
        rcases List.mem_append.mp hp with hold | hnew
        · exact .inl (List.mem_map_of_mem hold)
        · rw [List.mem_singleton.mp hnew]
          exact .inr rfl
  | sends i values =>
    simp only [Senders.perform]
    cases ho : s.outlet? i with
    | none => exact h
    | some o =>
      obtain ⟨hid, hsequence⟩ := h.outlets o (List.mem_of_find?_eq_some ho)
      refine h.publish (Bus.log_push ..) ⟨Nat.lt_succ_of_lt hid, Nat.lt_succ_of_lt hsequence, h.now⟩
        rfl (Nat.le_succ _) ?_ fun m hm => .inl hm
      intro p hp
      rcases List.mem_cons.mp hp with rfl | hold
      · exact .inr ⟨Nat.lt_succ_of_lt hid, Nat.succ_lt_succ hsequence⟩
      · exact .inl (List.mem_of_mem_erase hold)
  | closes i =>
    simp only [Senders.perform]
    cases ho : s.outlet? i with
    | none => exact h
    | some o =>
      obtain ⟨hid, _⟩ := h.outlets o (List.mem_of_find?_eq_some ho)
      refine h.publish (Bus.log_close ..) (m := .closed o.id o.info.name) (Nat.lt_succ_of_lt hid)
        rfl (Nat.le_succ _) (fun p hp => .inl (List.mem_of_mem_erase hp)) ?_
      intro m hm
      obtain ⟨p, hp, rfl⟩ := List.mem_map.mp hm
      exact .inl (List.mem_map_of_mem (List.mem_filter.mp hp).1)
  | waits now => exact ⟨ha, h.nextId, h.outlets, h.announcements, h.posted⟩

/-- After any history at times that can be told the bus is in range. -/
theorem IsInRange.after (h : s.IsInRange) {actions : List Action}
    (ha : ∀ a ∈ actions, a.IsTimely) : (s.after actions).IsInRange := by
  induction actions generalizing s with
  | nil => exact h
  | cons a actions ih =>
    exact ih (h.perform (ha a List.mem_cons_self)) fun b hb => ha b (List.mem_cons_of_mem a hb)

end Senders

/-- What is handed over is on the bus, so a client never gets a message that nobody has sent. -/
theorem Feed.mem_log_of_handle {f : Feed} {b : Bus} {m : BusMessage}
    (h : (f.handle b).1 = some m) : m ∈ b.log.toList := by
  unfold Feed.handle at h
  obtain ⟨hevent, _⟩ := Option.filter_eq_some_iff.mp h
  unfold Subscriber.recv at hevent
  split at hevent
  · split at hevent
    next hm =>
      obtain rfl := Option.some.inj hevent
      exact Array.mem_toList_iff.mpr (Array.mem_of_getElem? hm)
    next => cases hevent
  · cases hevent

namespace Connection

/-- If time passes, is it a time that can be told? -/
def Action.IsTimely : Action → Prop
  | .bus a => a.IsTimely
  | _ => True

/-- Is the bus in range, and could everything be published that the client was sent? -/
structure IsInRange (c : Connection) : Prop where
  /-- The bus is in range. -/
  senders : c.senders.IsInRange
  /-- What was sent to the client could be published. -/
  received : ∀ m ∈ c.received, m.IsPosted c.senders.bus.log.size

variable {s : Senders} {c : Connection}

/-- A client that connects to a bus in range is greeted with announcements in range. -/
theorem isInRange_connect (h : s.IsInRange) : (connect s).IsInRange := ⟨h, h.announcements⟩

/-- Whatever happens to a connection in range at a time that can be told leaves it in range. -/
theorem IsInRange.perform (h : c.IsInRange) {a : Action} (ha : a.IsTimely) :
    (c.perform a).IsInRange := by
  cases a with
  | bus a =>
    have hgrown : c.senders.bus.log.size ≤ (c.senders.perform a).bus.log.size := by
      have hstep := c.senders.perform_handling a
      simpa using hstep.log_prefix.length_le
    exact ⟨h.senders.perform ha, fun m hm => (h.received m hm).mono hgrown⟩
  | handle =>
    refine ⟨h.senders, ?_⟩
    intro m hm
    rcases List.mem_append.mp hm with hold | hnew
    · exact h.received m hold
    · exact h.senders.posted m (Feed.mem_log_of_handle (Option.mem_toList.mp hnew))
  | hear m => exact ⟨h.senders, h.received⟩

/-- After any history at times that can be told the connection is in range. -/
theorem IsInRange.after (h : c.IsInRange) {acts : List Action} (ha : ∀ a ∈ acts, a.IsTimely) :
    (c.after acts).IsInRange := by
  induction acts generalizing c with
  | nil => exact h
  | cons a acts ih =>
    exact ih (h.perform (ha a List.mem_cons_self)) fun b hb => ha b (List.mem_cons_of_mem a hb)

/-- Everything that the client was sent is legible, if it is finite. -/
theorem IsInRange.isLegibleIffFinite (h : c.IsInRange)
    (hsize : c.senders.bus.log.size ≤ sequenceBound) {m : BusMessage} (hm : m ∈ c.received) :
    m.IsLegibleIffFinite :=
  (h.received m hm).isLegibleIffFinite hsize

/-- So is the next sample of an adapter: it can be read exactly if all its floats are finite. -/
theorem IsInRange.isLegible_frame (h : c.IsInRange)
    (hsize : c.senders.bus.log.size ≤ sequenceBound) {a : Adapter}
    (ho : c.senders.outlet? a.outlet.id = some a.outlet) (memory : Memory) :
    (BusMessage.sample (a.frame memory c.senders.bus.now)).IsLegibleIffFinite := by
  obtain ⟨hid, hsequence⟩ := h.senders.outlets a.outlet (List.mem_of_find?_eq_some ho)
  have hposted : (BusMessage.sample (a.frame memory c.senders.bus.now)).IsPosted
      c.senders.bus.log.size := ⟨hid, hsequence, h.senders.now⟩
  exact hposted.isLegibleIffFinite hsize

/-- What an adapter pushes is sent to a client that wants it and has got all messages before. -/
theorem received_of_push {a : Adapter} (ho : c.senders.outlet? a.outlet.id = some a.outlet)
    (hdone : c.feed.subscriber.position = c.senders.bus.log.size) (memory : Memory)
    (hw : c.feed.wants (.sample (a.frame memory c.senders.bus.now)) = true) :
    let after := (c.perform (.bus (.sends a.outlet.id (a.values memory)))).perform .handle
    after.senders.bus = (a.send memory c.senders.bus).2 ∧
      after.received = c.received ++ [.sample (a.frame memory c.senders.bus.now)] := by
  let pushed := c.perform (.bus (.sends a.outlet.id (a.values memory)))
  have hbus : pushed.senders.bus = (a.send memory c.senders.bus).2 := by
    change (c.senders.perform (.sends a.outlet.id (a.values memory))).bus = _
    simp only [Senders.perform, ho]
    rfl
  have hlog : pushed.senders.bus.log =
      c.senders.bus.log.push (.sample (a.frame memory c.senders.bus.now)) := by
    rw [hbus]
    rfl
  have hroom : pushed.outstanding ≤ pushed.senders.bus.room := by
    have hone : 0 < pushed.senders.bus.room :=
      Nat.pos_of_isPowerOfTwo (Nat.isPowerOfTwo_nextPowerOfTwo _)
    have hposition : pushed.feed.subscriber.position = c.senders.bus.log.size := hdone
    unfold outstanding
    rw [hlog, Array.size_push, hposition]
    omega
  have hnext : pushed.senders.bus.log[pushed.feed.subscriber.position]? =
      some (.sample (a.frame memory c.senders.bus.now)) := by
    have hposition : pushed.feed.subscriber.position = c.senders.bus.log.size := hdone
    rw [hlog, hposition, Array.getElem?_push_size]
  have hpasses : passes (.sample (a.frame memory c.senders.bus.now), pushed.feed.streams) = true :=
    hw
  intro after
  have hafter : after = pushed.perform .handle := rfl
  rw [hafter, perform_handle_of_getElem? hroom hnext, if_pos hpasses]
  exact ⟨hbus, rfl⟩

/-- For all that was done on a bus before a client connects, and for all that happens then, by a
clock that tells the time and with no more messages than there are sequence numbers: the text of
everything that the client was sent is JSON, it is read as a message exactly if all values of the
sample in it are finite, and what is read has the identity, the name, the sequence number, the
time stamp, and the format and number of values that were sent. The same holds of the sample that
an adapter of an open stream pushes, whatever lies in its memory; and a client that wants it and
has got all messages before is sent that sample. -/
theorem sent_is_legible_iff_finite (capacity : Nat) (before : List Senders.Action)
    (acts : List Action) (hbefore : ∀ a ∈ before, a.IsTimely) (hacts : ∀ a ∈ acts, a.IsTimely)
    (hsize : ((connect ((Senders.start capacity).after before)).after acts).senders.bus.log.size ≤
      sequenceBound) :
    let c := (connect ((Senders.start capacity).after before)).after acts
    (∀ m ∈ c.received, m.IsLegibleIffFinite) ∧
      ∀ (a : Adapter) (memory : Memory), c.senders.outlet? a.outlet.id = some a.outlet →
        let m := BusMessage.sample (a.frame memory c.senders.bus.now)
        m.IsLegibleIffFinite ∧
          (c.feed.subscriber.position = c.senders.bus.log.size → c.feed.wants m = true →
            let c' := (c.perform (.bus (.sends a.outlet.id (a.values memory)))).perform .handle
            c'.senders.bus = (a.send memory c.senders.bus).2 ∧
              c'.received = c.received ++ [m]) := by
  intro c
  have hc : c.IsInRange :=
    (isInRange_connect ((Senders.isInRange_start capacity).after hbefore)).after hacts
  refine ⟨fun m hm => hc.isLegibleIffFinite hsize hm, ?_⟩
  intro a memory ho m
  exact ⟨hc.isLegible_frame hsize ho memory, fun hdone hw => received_of_push ho hdone memory hw⟩

/-- Metadata of a spectrum of two values. -/
def spectrum : StreamInfo := ⟨"spec", "VAR_REAL", 2, .ofNat 50, .float32, "rig"⟩

/-- A stream for the spectrum is opened. -/
def spectrumOpens : List Senders.Action := [.waits ⟨1700000000, 5⟩, .opens spectrum]

/-- Later a spectrum with an infinity is sent, and the server handles it. -/
def spectrumGoesOn : List Action :=
  [.bus (.waits ⟨1700000001, 0⟩), .bus (.sends ⟨0⟩ (.float32 [⟨0x7f800000⟩, ⟨1⟩])), .handle]

/-- The adapter of the spectrum. -/
def spectrumAdapter : Adapter := ⟨⟨⟨0⟩, spectrum, 1⟩, .word 0 0, 2, .float32⟩

/-- The spectrum is opened at a time that can be told, so that its announcement is in range. -/
theorem isTimely_spectrumOpens : ∀ a ∈ spectrumOpens, a.IsTimely := by
  have htime : Time.Instant.IsTellable ⟨1700000000, 5⟩ := ⟨by decide +kernel, .inl (by decide)⟩
  simp only [spectrumOpens, List.forall_mem_cons, List.not_mem_nil, false_implies, implies_true,
    and_true]
  exact ⟨htime, trivial⟩

/-- The spectrum goes on at a time that can be told, so that its sample is in range, if not
legible. -/
theorem isTimely_spectrumGoesOn : ∀ a ∈ spectrumGoesOn, a.IsTimely := by
  have htime : Time.Instant.IsTellable ⟨1700000001, 0⟩ := ⟨by decide +kernel, .inl (by decide)⟩
  simp only [spectrumGoesOn, List.forall_mem_cons, List.not_mem_nil, false_implies, implies_true,
    and_true]
  exact ⟨htime, trivial, trivial⟩

/-- The history with the spectrum has few messages, and the client has asked for nothing that its
filter would take out. -/
theorem spectrum_is_within_bounds :
    let c := (connect ((Senders.start 4).after spectrumOpens)).after spectrumGoesOn
    c.senders.bus.log.size ≤ sequenceBound ∧
      c.senders.outlet? spectrumAdapter.outlet.id = some spectrumAdapter.outlet ∧
      c.feed.subscriber.position = c.senders.bus.log.size := by
  decide +kernel

/-- A client of the spectrum has got the announcement and the sample with an infinity, which it
cannot read; then it gets a tenth and a negative zero, which it can. -/
theorem spectrum_is_sent :
    (∀ a ∈ spectrumOpens, a.IsTimely) ∧ (∀ a ∈ spectrumGoesOn, a.IsTimely) ∧
      let c := (connect ((Senders.start 4).after spectrumOpens)).after spectrumGoesOn
      let memory : Memory := ⟨#[[0x3dcccccd, 0x80000000]]⟩
      let m := BusMessage.sample (spectrumAdapter.frame memory c.senders.bus.now)
      c.senders.bus.log.size ≤ sequenceBound ∧
        c.senders.outlet? spectrumAdapter.outlet.id = some spectrumAdapter.outlet ∧
        c.feed.subscriber.position = c.senders.bus.log.size ∧ c.feed.wants m = true ∧
        (∀ old ∈ c.received, old.IsLegibleIffFinite) ∧
        c.received.map BusMessage.isFinite = [true, false] ∧
        (BusMessage.read m.write).isSome = true ∧
        ((c.perform (.bus (.sends ⟨0⟩ (spectrumAdapter.values memory)))).perform
          .handle).received = c.received ++ [m] := by
  obtain ⟨hsize, hopen, hdone⟩ := spectrum_is_within_bounds
  obtain ⟨hreceived, hsent⟩ := sent_is_legible_iff_finite 4 spectrumOpens spectrumGoesOn
    isTimely_spectrumOpens isTimely_spectrumGoesOn hsize
  obtain ⟨hlegible, hpushed⟩ := hsent spectrumAdapter ⟨#[[0x3dcccccd, 0x80000000]]⟩ hopen
  refine ⟨isTimely_spectrumOpens, isTimely_spectrumGoesOn, hsize, hopen, hdone,
    by decide +kernel, hreceived, by decide +kernel, ?_, (hpushed hdone (by decide +kernel)).2⟩
  exact hlegible.accepted.trans (by decide +kernel)

/-- Not every sample that an adapter pushes and the server sends is read as a sample of the same
stream with the same number and as many values: one that is not a number makes it unreadable. -/
theorem not_every_sample_is_legible :
    ¬ ∀ (capacity : Nat) (before : List Senders.Action) (acts : List Action),
      (∀ a ∈ before, a.IsTimely) → (∀ a ∈ acts, a.IsTimely) →
      let c := (connect ((Senders.start capacity).after before)).after acts
      c.senders.bus.log.size ≤ sequenceBound →
      ∀ (a : Adapter) (memory : Memory),
        c.senders.outlet? a.outlet.id = some a.outlet →
        c.feed.subscriber.position = c.senders.bus.log.size →
        let sent := a.frame memory c.senders.bus.now
        c.feed.wants (.sample sent) = true →
        ∃ frame, BusMessage.read (BusMessage.sample sent).write = some (.sample frame) ∧
          frame.id = sent.id ∧ frame.name = sent.name ∧ frame.sequence = sent.sequence ∧
          frame.values.length = sent.values.length := by
  intro hall
  obtain ⟨hsize, hopen, hdone⟩ := spectrum_is_within_bounds
  obtain ⟨frame, hread, _⟩ := hall 4 spectrumOpens spectrumGoesOn isTimely_spectrumOpens
    isTimely_spectrumGoesOn hsize spectrumAdapter ⟨#[[0x3dcccccd, 0x7fc00000]]⟩ hopen hdone
    (by decide +kernel)
  have hnone : BusMessage.read (BusMessage.sample (spectrumAdapter.frame
      ⟨#[[0x3dcccccd, 0x7fc00000]]⟩ ⟨1700000001, 0⟩)).write = none := by decide +kernel
  exact absurd (hread.symm.trans hnone) (Option.some_ne_none _)

end Connection

end VariableBridge
