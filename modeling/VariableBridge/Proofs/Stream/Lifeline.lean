import Mathlib.Data.List.Nodup
import VariableBridge.Stream.Bus

/-!
# Lifelines

The messages of one stream tell one life: the stream is opened, it sends samples
that are numbered from zero, and it may be closed, after which nothing follows.
A program that holds outlets and gives none of them away keeps this so. The
main statement is that each step on a bus keeps the table of open streams equal
to the outlets that are held.
-/

namespace VariableBridge

/-- The sample in a message. -/
def BusMessage.frame? : BusMessage → Option SampleFrame
  | .sample frame => some frame
  | _ => none

/-- The samples among messages, in order. -/
def framesIn (ms : List BusMessage) : List SampleFrame := ms.filterMap BusMessage.frame?

/-- The samples of two histories in a row are those of the one and then those of the other. -/
theorem framesIn_append (ms ms' : List BusMessage) :
    framesIn (ms ++ ms') = framesIn ms ++ framesIn ms' :=
  List.filterMap_append

/-- The samples of messages that were made of samples are these samples, in the same order. -/
@[simp] theorem framesIn_map_sample (frames : List SampleFrame) :
    framesIn (frames.map .sample) = frames := by
  induction frames with
  | nil => rfl
  | cons frame frames ih =>
    rw [List.map_cons, framesIn, List.filterMap_cons]
    exact congrArg (frame :: ·) ih

/-- Samples of one stream under one name, numbered from zero. -/
def Numbered (i : StreamId) (name : String) (frames : List SampleFrame) : Prop :=
  ∀ (k : Nat) (frame : SampleFrame), frames[k]? = some frame →
    frame.id = i ∧ frame.name = name ∧ frame.sequence = k

/-- Messages of a stream that was opened with this metadata, has sent so many samples and
was not closed. -/
def IsAlive (i : StreamId) (info : StreamInfo) (sent : Nat) (ms : List BusMessage) : Prop :=
  ∃ frames, Numbered i info.name frames ∧ frames.length = sent ∧
    ms = .opened i info :: frames.map .sample

/-- Messages of a stream that was opened and closed, with nothing after that. -/
def IsEnded (i : StreamId) (ms : List BusMessage) : Prop :=
  ∃ info sent before, IsAlive i info sent before ∧ ms = before ++ [.closed i info.name]

/-- A message that opens a stream and none that closes it. -/
def OpenIn (ms : List BusMessage) (i : StreamId) (info : StreamInfo) : Prop :=
  .opened i info ∈ ms ∧ ∀ name, .closed i name ∉ ms

/-- A stream that has sent nothing has numbered all of its samples, whatever its name is. -/
theorem numbered_nil (i : StreamId) (name : String) : Numbered i name [] := by
  intro k frame h
  simp at h

/-- The next sample carries the number of the samples before it. -/
theorem Numbered.concat {i : StreamId} {name : String} {frames : List SampleFrame}
    (h : Numbered i name frames) {frame : SampleFrame} (hi : frame.id = i)
    (hn : frame.name = name) (hs : frame.sequence = frames.length) :
    Numbered i name (frames ++ [frame]) := by
  intro k other hk
  rcases Nat.lt_trichotomy k frames.length with hlt | heq | hgt
  · rw [List.getElem?_append_left hlt] at hk
    exact h k other hk
  · subst heq
    simp only [List.getElem?_concat_length, Option.some.injEq] at hk
    subst hk
    exact ⟨hi, hn, hs⟩
  · rw [List.getElem?_eq_none (by simpa [Nat.succ_le_iff] using hgt)] at hk
    cases hk

/-- A stream lives as soon as it is announced, and has sent nothing then. -/
theorem isAlive_opened (i : StreamId) (info : StreamInfo) : IsAlive i info 0 [.opened i info] :=
  ⟨[], numbered_nil i info.name, rfl, rfl⟩

/-- A live stream goes on with the sample that is next in number. -/
theorem IsAlive.sample {i : StreamId} {info : StreamInfo} {sent : Nat} {ms : List BusMessage}
    (h : IsAlive i info sent ms) (now : Time.Instant) (values : SampleValues) :
    IsAlive i info (sent + 1) (ms ++ [.sample ⟨i, info.name, sent, now, values⟩]) := by
  obtain ⟨frames, hn, hl, hm⟩ := h
  refine ⟨frames ++ [⟨i, info.name, sent, now, values⟩], ?_, ?_, ?_⟩
  · exact hn.concat rfl rfl hl.symm
  · rw [List.length_append, List.length_singleton, hl]
  · rw [hm, List.map_append, List.cons_append, List.map_singleton]

/-- A stream that lives has left a message in the log at least, namely its announcement. -/
theorem IsAlive.ne_nil {i : StreamId} {info : StreamInfo} {sent : Nat} {ms : List BusMessage}
    (h : IsAlive i info sent ms) : ms ≠ [] := by
  obtain ⟨frames, _, _, hm⟩ := h
  rw [hm]
  exact List.cons_ne_nil _ _

/-- The messages of a live stream name its metadata and never close it. -/
theorem IsAlive.openIn_iff {i : StreamId} {info other : StreamInfo} {sent : Nat}
    {ms : List BusMessage} (h : IsAlive i info sent ms) : OpenIn ms i other ↔ other = info := by
  obtain ⟨frames, _, _, hm⟩ := h
  subst hm
  simp [OpenIn]

/-- A stream that has ended is not open with any metadata, since its messages tell of the end. -/
theorem IsEnded.not_openIn {i : StreamId} {ms : List BusMessage} (h : IsEnded i ms)
    (info : StreamInfo) : ¬OpenIn ms i info := by
  obtain ⟨old, sent, before, _, hm⟩ := h
  intro ho
  apply ho.2 old.name
  rw [hm]
  exact List.mem_append_right _ (List.mem_singleton_self _)

namespace Bus

/-- The messages of one stream, in the order of the log. -/
def messagesOf (b : Bus) (i : StreamId) : List BusMessage :=
  b.log.toList.filter fun m => m.streamId = i

/-- A published message goes to the end of the messages of its stream. -/
theorem messagesOf_publish (b : Bus) (m : BusMessage) (i : StreamId) :
    (b.publish m).messagesOf i = b.messagesOf i ++ if m.streamId = i then [m] else [] := by
  simp only [messagesOf, log_publish, Array.toList_push, List.filter_append, List.filter_cons,
    List.filter_nil, decide_eq_true_eq]

/-- A message about a stream comes to the end of the messages of this stream. -/
theorem messagesOf_publish_self {b : Bus} {m : BusMessage} {i : StreamId} (h : m.streamId = i) :
    (b.publish m).messagesOf i = b.messagesOf i ++ [m] := by
  rw [messagesOf_publish, if_pos h]

/-- A message about one stream leaves the messages of all others as they are. -/
theorem messagesOf_publish_of_ne {b : Bus} {m : BusMessage} {i : StreamId}
    (h : i ≠ m.streamId) : (b.publish m).messagesOf i = b.messagesOf i := by
  rw [messagesOf_publish, if_neg h.symm, List.append_nil]

/-- The announcement of a new stream is about the identity that was the next one, and comes to the
end of its messages. -/
theorem messagesOf_announce_self (b : Bus) (info : StreamInfo) :
    (b.announce info).2.messagesOf ⟨b.nextId⟩ =
      b.messagesOf ⟨b.nextId⟩ ++ [.opened ⟨b.nextId⟩ info] :=
  messagesOf_publish_self rfl

/-- The announcement of a new stream leaves the messages of all other identities as they are. -/
theorem messagesOf_announce_of_ne {b : Bus} {info : StreamInfo} {i : StreamId}
    (h : i ≠ ⟨b.nextId⟩) : (b.announce info).2.messagesOf i = b.messagesOf i :=
  messagesOf_publish_of_ne h

/-- A sample comes to the end of the messages of its stream, with the number that the outlet has for
it. -/
theorem messagesOf_push_self (b : Bus) (o : Outlet) (values : SampleValues) :
    (b.push o values).2.messagesOf o.id =
      b.messagesOf o.id ++ [.sample ⟨o.id, o.info.name, o.sequence, b.now, values⟩] :=
  messagesOf_publish_self rfl

/-- A sample of one stream leaves the messages of all others as they are. -/
theorem messagesOf_push_of_ne {b : Bus} {o : Outlet} {values : SampleValues} {i : StreamId}
    (h : i ≠ o.id) : (b.push o values).2.messagesOf i = b.messagesOf i :=
  messagesOf_publish_of_ne h

/-- The end of a stream comes to the end of its messages, under the name of the stream. -/
theorem messagesOf_close_self (b : Bus) (o : Outlet) :
    (b.close o).messagesOf o.id = b.messagesOf o.id ++ [.closed o.id o.info.name] :=
  messagesOf_publish_self rfl

/-- The end of one stream leaves the messages of all others as they are. -/
theorem messagesOf_close_of_ne {b : Bus} {o : Outlet} {i : StreamId} (h : i ≠ o.id) :
    (b.close o).messagesOf i = b.messagesOf i :=
  messagesOf_publish_of_ne h

/-- Whether a stream is open shows in its own messages: those of other streams neither open nor
close it. -/
theorem openIn_messagesOf (b : Bus) (i : StreamId) (info : StreamInfo) :
    OpenIn (b.messagesOf i) i info ↔ OpenIn b.log.toList i info := by
  simp [OpenIn, messagesOf, BusMessage.streamId]

/-- The open streams of the bus are those of these outlets, and every other stream that
was ever opened has ended. -/
structure Holds (b : Bus) (os : List Outlet) : Prop where
  /-- No two outlets belong to one stream. -/
  distinct : (os.map Outlet.id).Nodup
  /-- The table lists the streams of the outlets. -/
  table : b.openStreams.Perm (os.map fun o => (o.id, o.info))
  /-- Each outlet knows its metadata and the number of its samples. -/
  live : ∀ o ∈ os, IsAlive o.id o.info o.sequence (b.messagesOf o.id)
  /-- A stream without an outlet was never opened or has ended. -/
  gone : ∀ i, i ∉ os.map Outlet.id → b.messagesOf i = [] ∨ IsEnded i (b.messagesOf i)
  /-- Identities from the next one on were never used. -/
  fresh : ∀ i : StreamId, b.nextId ≤ i.number → b.messagesOf i = []

/-- A new bus holds no outlet: nothing is open, nothing was logged and no identity was used. -/
theorem holds_new (capacity : Nat) : (new capacity).Holds [] where
  distinct := List.nodup_nil
  table := List.Perm.nil
  live := by simp
  gone := by
    intro i _
    left
    rfl
  fresh := by
    intro i _
    rfl

/-- The order in which outlets are listed does not matter for whether the bus holds them. -/
theorem Holds.perm {b : Bus} {os os' : List Outlet} (h : b.Holds os) (hp : os.Perm os') :
    b.Holds os' where
  distinct := (hp.map Outlet.id).nodup_iff.mp h.distinct
  table := h.table.trans (hp.map _)
  live := by
    intro o ho
    exact h.live o (hp.mem_iff.mpr ho)
  gone := by
    intro i hi
    apply h.gone i
    intro hm
    exact hi ((hp.map Outlet.id).mem_iff.mp hm)
  fresh := h.fresh

/-- The time that samples are stamped with does not matter for which streams are held. -/
theorem Holds.at_time {b : Bus} {os : List Outlet} (h : b.Holds os) (now : Time.Instant) :
    ({ b with now } : Bus).Holds os :=
  ⟨h.distinct, h.table, h.live, h.gone, h.fresh⟩

/-- The identity of a held stream was given out before, so no stream that is opened later has it. -/
theorem Holds.ne_of_fresh {b : Bus} {os : List Outlet} (h : b.Holds os) {o : Outlet}
    (ho : o ∈ os) {i : StreamId} (hi : b.nextId ≤ i.number) : i ≠ o.id := by
  rintro rfl
  exact (h.live o ho).ne_nil (h.fresh o.id hi)

/-- The first of the outlets that a bus holds has another identity than each of those behind it. -/
theorem Holds.ne_head {b : Bus} {o : Outlet} {os : List Outlet} (h : b.Holds (o :: os))
    {p : Outlet} (hp : p ∈ os) : p.id ≠ o.id := by
  intro he
  have hd := h.distinct
  rw [List.map_cons, List.nodup_cons] at hd
  exact hd.1 (List.mem_map.mpr ⟨p, hp, he⟩)

/-- A new stream joins those that are held, with the identity that comes next. -/
theorem Holds.announce {b : Bus} {os : List Outlet} (h : b.Holds os) (info : StreamInfo) :
    (b.announce info).2.Holds ((b.announce info).1 :: os) := by
  have hnew : ∀ o ∈ os, o.id ≠ ⟨b.nextId⟩ := by
    intro o ho
    exact (h.ne_of_fresh ho (Nat.le_refl b.nextId)).symm
  constructor
  · rw [List.map_cons, List.nodup_cons]
    refine ⟨?_, h.distinct⟩
    intro hm
    obtain ⟨o, ho, he⟩ := List.mem_map.mp hm
    exact hnew o ho he
  · exact (h.table.append_right [((⟨b.nextId⟩ : StreamId), info)]).trans List.perm_append_comm
  · intro o ho
    rcases List.mem_cons.mp ho with rfl | ho
    · have hs := messagesOf_announce_self b info
      rw [h.fresh ⟨b.nextId⟩ (Nat.le_refl b.nextId)] at hs
      exact hs ▸ isAlive_opened ⟨b.nextId⟩ info
    · rw [messagesOf_announce_of_ne (hnew o ho)]
      exact h.live o ho
  · intro i hi
    rw [List.map_cons, List.mem_cons, not_or] at hi
    rw [messagesOf_announce_of_ne hi.1]
    exact h.gone i hi.2
  · intro i hi
    have hlt : b.nextId < i.number := hi
    rw [messagesOf_announce_of_ne (by rintro rfl; exact Nat.lt_irrefl _ hlt)]
    exact h.fresh i (Nat.le_of_lt hlt)

/-- A sample moves its outlet on by one and leaves the others where they are. -/
theorem Holds.push {b : Bus} {o : Outlet} {os : List Outlet} (h : b.Holds (o :: os))
    (values : SampleValues) : (b.push o values).2.Holds ((b.push o values).1 :: os) := by
  have halive := h.live o List.mem_cons_self
  refine ⟨h.distinct, h.table, ?_, ?_, ?_⟩
  · intro p hp
    rcases List.mem_cons.mp hp with rfl | hp
    · exact messagesOf_push_self b o values ▸ halive.sample b.now values
    · rw [messagesOf_push_of_ne (h.ne_head hp)]
      exact h.live p (List.mem_cons_of_mem _ hp)
  · intro i hi
    have hne : i ≠ o.id := by
      rintro rfl
      exact hi List.mem_cons_self
    rw [messagesOf_push_of_ne hne]
    exact h.gone i hi
  · intro i hi
    rw [messagesOf_push_of_ne (h.ne_of_fresh List.mem_cons_self hi)]
    exact h.fresh i hi

/-- A closed stream leaves those that are held and has ended, while the others live on. -/
theorem Holds.close {b : Bus} {o : Outlet} {os : List Outlet} (h : b.Holds (o :: os)) :
    (b.close o).Holds os := by
  refine ⟨(List.nodup_cons.mp h.distinct).2, ?_, ?_, ?_, ?_⟩
  · have hrest : (os.map fun p => (p.id, p.info)).filter (fun s => s.1 != o.id) =
        os.map fun p => (p.id, p.info) := by
      apply List.filter_eq_self.mpr
      intro s hs
      obtain ⟨p, hp, rfl⟩ := List.mem_map.mp hs
      simpa using h.ne_head hp
    have ht := h.table.filter fun s => s.1 != o.id
    rw [List.map_cons, List.filter_cons_of_neg (by simp), hrest] at ht
    exact ht
  · intro p hp
    rw [messagesOf_close_of_ne (h.ne_head hp)]
    exact h.live p (List.mem_cons_of_mem _ hp)
  · intro i hi
    by_cases he : i = o.id
    · subst he
      right
      exact ⟨o.info, o.sequence, _, h.live o List.mem_cons_self, messagesOf_close_self b o⟩
    · rw [messagesOf_close_of_ne he]
      apply h.gone i
      rw [List.map_cons, List.mem_cons, not_or]
      exact ⟨he, hi⟩
  · intro i hi
    rw [messagesOf_close_of_ne (h.ne_of_fresh List.mem_cons_self hi)]
    exact h.fresh i hi

/-- The streams that are open in the log are those of the outlets. -/
theorem Holds.openIn_iff {b : Bus} {os : List Outlet} (h : b.Holds os) {i : StreamId}
    {info : StreamInfo} :
    OpenIn b.log.toList i info ↔ ∃ o ∈ os, o.id = i ∧ o.info = info := by
  rw [← openIn_messagesOf]
  constructor
  · intro ho
    by_cases hm : i ∈ os.map Outlet.id
    · obtain ⟨o, hos, rfl⟩ := List.mem_map.mp hm
      exact ⟨o, hos, rfl, ((h.live o hos).openIn_iff.mp ho).symm⟩
    · rcases h.gone i hm with he | he
      · rw [he] at ho
        cases ho.1
      · exact (he.not_openIn info ho).elim
  · rintro ⟨o, ho, rfl, rfl⟩
    exact (h.live o ho).openIn_iff.mpr rfl

/-- Every stream of the log has one life: it has not begun, it is alive, or it has ended. -/
theorem Holds.life {b : Bus} {os : List Outlet} (h : b.Holds os) (i : StreamId) :
    b.messagesOf i = [] ∨ (∃ info sent, IsAlive i info sent (b.messagesOf i)) ∨
      IsEnded i (b.messagesOf i) := by
  by_cases hm : i ∈ os.map Outlet.id
  · obtain ⟨o, ho, rfl⟩ := List.mem_map.mp hm
    exact .inr (.inl ⟨o.info, o.sequence, h.live o ho⟩)
  · rcases h.gone i hm with he | he
    · exact .inl he
    · exact .inr (.inr he)

end Bus

end VariableBridge
