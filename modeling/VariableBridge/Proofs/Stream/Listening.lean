import VariableBridge.Proofs.Stream.Handling

/-!
# Late listeners

A listener that comes late is told of the streams that are open and hears all messages
from then on. Main statement: what it hears of one stream is nothing, or the metadata,
then samples without a gap and at most one end, after which nothing follows; and it knows
a stream to be open exactly if the stream is open on the bus.
-/

namespace VariableBridge

/-- The messages of one stream. -/
def concerning (i : StreamId) (ms : List BusMessage) : List BusMessage :=
  ms.filter fun m => m.streamId = i

/-- What two histories in a row say of a stream is what the one says and then what the other
says. -/
theorem concerning_append (i : StreamId) (ms ms' : List BusMessage) :
    concerning i (ms ++ ms') = concerning i ms ++ concerning i ms' :=
  List.filter_append ..

/-- A message is found again among the messages about its stream, between those in front of it and
those behind. -/
theorem concerning_append_cons (m : BusMessage) (front back : List BusMessage) :
    concerning m.streamId (front ++ m :: back) =
      concerning m.streamId front ++ m :: concerning m.streamId back := by
  rw [concerning_append]
  congr 1
  exact List.filter_cons_of_pos (by simp)

/-- Messages about other streams say nothing of this one, so they may fall anywhere between its
own. -/
theorem concerning_eq_nil {i : StreamId} {ms : List BusMessage} (h : ∀ m ∈ ms, m.streamId ≠ i) :
    concerning i ms = [] := by
  apply List.filter_eq_nil_iff.mpr
  intro m hm
  simpa using h m hm

/-- A message about a stream is among the messages about this stream exactly if it is among all of
them. -/
theorem mem_concerning {i : StreamId} {m : BusMessage} {ms : List BusMessage}
    (hm : m.streamId = i) : m ∈ concerning i ms ↔ m ∈ ms := by
  simp [concerning, hm]

/-- Whether a stream is open shows in its own messages, among whatever other messages they came. -/
theorem openIn_concerning {i : StreamId} {info : StreamInfo} {ms : List BusMessage} :
    OpenIn (concerning i ms) i info ↔ OpenIn ms i info := by
  simp [OpenIn, concerning, BusMessage.streamId]

/-- Nothing is open in no messages, whatever the stream and its metadata are. -/
theorem not_openIn_nil (i : StreamId) (info : StreamInfo) : ¬OpenIn [] i info :=
  fun ho => List.not_mem_nil ho.1

/-- The samples among the messages about a stream are the samples of this stream among all
messages. -/
theorem framesIn_concerning (i : StreamId) (ms : List BusMessage) :
    framesIn (concerning i ms) = (framesIn ms).filter fun frame => frame.id = i := by
  rw [concerning, framesIn, framesIn, List.filterMap_filter, List.filter_filterMap]
  congr 1
  funext m
  cases m with
  | sample frame => rfl
  | opened j info => exact ite_self none
  | closed j name => exact ite_self none

/-- Samples of one stream under one name, numbered from a first number on. -/
def NumberedFrom (i : StreamId) (name : String) (first : Nat) (frames : List SampleFrame) : Prop :=
  ∀ (k : Nat) (frame : SampleFrame), frames[k]? = some frame →
    frame.id = i ∧ frame.name = name ∧ frame.sequence = first + k

/-- Samples that are numbered from zero on are the samples of a stream from its beginning. -/
theorem numberedFrom_zero {i : StreamId} {name : String} {frames : List SampleFrame} :
    NumberedFrom i name 0 frames ↔ Numbered i name frames := by
  simp only [NumberedFrom, Numbered, Nat.zero_add]

/-- Of the samples of a stream, those from some place on are numbered from the number of this
place. -/
theorem Numbered.drop {i : StreamId} {name : String} {frames : List SampleFrame}
    (h : Numbered i name frames) (n : Nat) : NumberedFrom i name n (frames.drop n) := by
  intro k frame hk
  rw [List.getElem?_drop] at hk
  exact h (n + k) frame hk

/-- The end of a stream, if it has ended. -/
def ending (i : StreamId) (info : StreamInfo) (ended : Bool) : List BusMessage :=
  if ended then [.closed i info.name] else []

/-- Messages of a stream with this metadata: its announcement, its samples from a number on,
without a gap, and perhaps its end. -/
def IsHeard (i : StreamId) (info : StreamInfo) (first : Nat) (ended : Bool)
    (ms : List BusMessage) : Prop :=
  ∃ frames, NumberedFrom i info.name first frames ∧
    ms = .opened i info :: (frames.map .sample ++ ending i info ended)

section Heard

variable {i : StreamId} {info : StreamInfo} {first : Nat} {ended : Bool} {ms : List BusMessage}

/-- If anything is said of the end of a stream, it is one message with the identity and the name of
the stream. -/
theorem eq_closed_of_mem_ending {m : BusMessage} (h : m ∈ ending i info ended) :
    m = .closed i info.name := by
  cases ended with
  | false => cases h
  | true => exact List.mem_singleton.mp h

/-- Who has all messages of a living stream has heard it from its announcement on, and has not heard
its end. -/
theorem IsAlive.isHeard {sent : Nat} (h : IsAlive i info sent ms) : IsHeard i info 0 false ms := by
  obtain ⟨frames, hn, _, hm⟩ := h
  exact ⟨frames, numberedFrom_zero.mpr hn, by rw [hm, ending, if_neg Bool.false_ne_true,
    List.append_nil]⟩

/-- Who has all messages of a stream that has ended has heard it from its announcement to its
end. -/
theorem IsEnded.exists_isHeard (h : IsEnded i ms) : ∃ info, IsHeard i info 0 true ms := by
  obtain ⟨info, sent, before, ⟨frames, hn, _, hb⟩, hm⟩ := h
  exact ⟨info, frames, numberedFrom_zero.mpr hn, by rw [hm, hb, ending, if_pos rfl,
    List.cons_append]⟩

/-- A stream is open exactly if its end was not heard, and then with the metadata that it was
announced with. -/
theorem IsHeard.openIn_iff (h : IsHeard i info first ended ms) {other : StreamInfo} :
    OpenIn ms i other ↔ ended = false ∧ other = info := by
  obtain ⟨frames, _, rfl⟩ := h
  cases ended <;> simp [OpenIn, ending]

/-- Nothing follows the end of a stream, so whoever has heard it need not listen any longer. -/
theorem IsHeard.last_of_closed (h : IsHeard i info first ended ms) {front back : List BusMessage}
    {j : StreamId} {name : String} (hm : ms = front ++ .closed j name :: back) : back = [] := by
  obtain ⟨frames, _, rfl⟩ := h
  have hopen : .closed j name ∉ .opened i info :: frames.map BusMessage.sample := by
    simp
  rcases List.eq_nil_or_concat back with rfl | ⟨back, m, rfl⟩
  · rfl
  · exfalso
    apply hopen
    cases ended with
    | false =>
      rw [ending, if_neg Bool.false_ne_true, List.append_nil] at hm
      rw [hm]
      simp
    | true =>
      rw [ending, if_pos rfl, ← List.cons_append, List.concat_eq_append, ← List.cons_append,
        ← List.append_assoc] at hm
      rw [(List.append_inj' hm rfl).1]
      simp

/-- The metadata come first, and only once, so they are known before the first sample. -/
theorem IsHeard.first_of_opened (h : IsHeard i info first ended ms) {front back : List BusMessage}
    {other : StreamInfo} (hm : ms = front ++ .opened i other :: back) : front = [] := by
  obtain ⟨frames, _, rfl⟩ := h
  cases front with
  | nil => rfl
  | cons m front =>
    exfalso
    have hmem : .opened i other ∈ frames.map BusMessage.sample ++ ending i info ended := by
      rw [(List.cons.inj hm).2]
      simp
    rcases List.mem_append.mp hmem with hs | he
    · simp at hs
    · cases eq_closed_of_mem_ending he

/-- Before each sample the stream is known and open, under the name that the sample bears. -/
theorem IsHeard.openIn_before (h : IsHeard i info first ended ms) {front back : List BusMessage}
    {frame : SampleFrame} (hm : ms = front ++ .sample frame :: back) :
    OpenIn front i info ∧ info.name = frame.name := by
  have hclosed : ∀ name, .closed i name ∉ front := by
    intro name hc
    obtain ⟨left, right, rfl⟩ := List.append_of_mem hc
    rw [List.append_assoc, List.cons_append] at hm
    have hlast := h.last_of_closed hm
    simp at hlast
  obtain ⟨frames, hn, rfl⟩ := h
  cases front with
  | nil => cases hm
  | cons m front =>
    obtain ⟨rfl, htail⟩ := List.cons.inj hm
    refine ⟨⟨List.mem_cons_self, hclosed⟩, ?_⟩
    have hmem : .sample frame ∈ frames.map BusMessage.sample ++ ending i info ended := by
      rw [htail]
      simp
    rcases List.mem_append.mp hmem with hs | he
    · obtain ⟨other, ho, he⟩ := List.mem_map.mp hs
      obtain rfl := BusMessage.sample.inj he
      obtain ⟨k, hk⟩ := List.mem_iff_getElem?.mp ho
      exact (hn k other hk).2.1.symm
    · cases eq_closed_of_mem_ending he

/-- The samples are numbered without a gap, from the first one that was heard. -/
theorem IsHeard.sequences (h : IsHeard i info first ended ms) :
    (framesIn ms).map SampleFrame.sequence = List.range' first (framesIn ms).length := by
  obtain ⟨frames, hn, rfl⟩ := h
  have hframes : framesIn (.opened i info :: (frames.map .sample ++ ending i info ended)) =
      frames := by
    have hend : framesIn (ending i info ended) = [] := by cases ended <;> rfl
    change framesIn (frames.map .sample ++ ending i info ended) = _
    rw [framesIn_append, framesIn_map_sample, hend, List.append_nil]
  rw [hframes]
  apply List.ext_getElem
  · simp
  · intro k hk _
    rw [List.getElem_map, List.getElem_range', Nat.one_mul]
    rw [List.length_map] at hk
    exact (hn k _ (List.getElem?_eq_getElem hk)).2.2

/-- What follows the messages of a live stream, behind its metadata, is heard of it. -/
theorem IsAlive.isHeard_rest {sent : Nat} {before rest : List BusMessage} {other : StreamInfo}
    (hb : IsAlive i info sent before) (h : IsHeard i other 0 ended (before ++ rest)) :
    other = info ∧ IsHeard i info sent ended (.opened i info :: rest) := by
  obtain ⟨old, _, rfl, hold⟩ := hb
  obtain ⟨frames, hn, hall⟩ := h
  rw [hold, List.cons_append] at hall
  obtain ⟨hhead, htail⟩ := List.cons.inj hall
  obtain rfl := (BusMessage.opened.inj hhead).2
  refine ⟨rfl, ?_⟩
  rcases List.append_eq_append_iff.mp htail with ⟨more, hmore, hrest⟩ | ⟨excess, hexcess, hend⟩
  · refine ⟨frames.drop old.length, (numberedFrom_zero.mp hn).drop old.length, ?_⟩
    rw [List.map_drop, hmore, List.drop_left' (List.length_map _), hrest]
  · -- the end is no sample, so the old messages do not reach into it
    have hexcess_nil : excess = [] := by
      cases excess with
      | nil => rfl
      | cons m excess =>
        exfalso
        have hsample : m ∈ old.map BusMessage.sample := by
          rw [hexcess]
          simp
        have hmem : m ∈ ending i info ended := by
          rw [hend]
          exact List.mem_cons_self
        rw [eq_closed_of_mem_ending hmem] at hsample
        simp at hsample
    rw [hexcess_nil, List.nil_append] at hend
    refine ⟨[], ?_, by rw [← hend, List.map_nil, List.nil_append]⟩
    intro k frame hk
    cases hk

/-- Nothing is heard of a stream that has ended before one began to listen. -/
theorem IsEnded.rest_eq_nil {before rest : List BusMessage} (hb : IsEnded i before)
    (h : IsHeard i info first ended (before ++ rest)) : rest = [] := by
  obtain ⟨old, sent, alive, _, rfl⟩ := hb
  exact h.last_of_closed (List.append_assoc ..)

end Heard

/-- Of each stream nothing is heard, or it is heard from its announcement on. -/
def AllHeard (ms : List BusMessage) : Prop :=
  ∀ i, concerning i ms = [] ∨ ∃ info first ended, IsHeard i info first ended (concerning i ms)

namespace AllHeard

variable {ms front back : List BusMessage}

/-- A stream with a message is heard: from its metadata on, up to its end or up to now. -/
theorem exists_isHeard (h : AllHeard ms) {m : BusMessage} (hm : m ∈ ms) :
    ∃ info first ended, IsHeard m.streamId info first ended (concerning m.streamId ms) := by
  rcases h m.streamId with hnone | hheard
  · have hmem := (mem_concerning rfl).mpr hm
    rw [hnone] at hmem
    cases hmem
  · exact hheard

/-- No stream is announced twice to a client: neither in the greeting and on the bus, nor twice on
the bus. -/
theorem not_mem_before (h : AllHeard ms) {i : StreamId} {info : StreamInfo}
    (hm : ms = front ++ .opened i info :: back) (other : StreamInfo) :
    .opened i other ∉ front := by
  obtain ⟨_, _, _, hheard⟩ := h.exists_isHeard (m := .opened i info) (by rw [hm]; simp)
  have hsplit : concerning i ms = concerning i front ++ .opened i info :: concerning i back := by
    rw [hm]
    exact concerning_append_cons (.opened i info) front back
  have hfront := hheard.first_of_opened hsplit
  intro ho
  have hmem := (mem_concerning (i := i) rfl).mpr ho
  rw [hfront] at hmem
  cases hmem

/-- A sample belongs to a stream that is announced and open by then. -/
theorem openIn_before (h : AllHeard ms) {frame : SampleFrame}
    (hm : ms = front ++ .sample frame :: back) :
    ∃ info, OpenIn front frame.id info ∧ info.name = frame.name := by
  obtain ⟨info, _, _, hheard⟩ := h.exists_isHeard (m := .sample frame) (by rw [hm]; simp)
  have hsplit : concerning frame.id ms =
      concerning frame.id front ++ .sample frame :: concerning frame.id back := by
    rw [hm]
    exact concerning_append_cons (.sample frame) front back
  obtain ⟨hopen, hname⟩ := hheard.openIn_before hsplit
  exact ⟨info, openIn_concerning.mp hopen, hname⟩

end AllHeard

namespace Bus.Holds

variable {b b₀ : Bus} {os os₀ : List Outlet}

/-- The table of open streams tells what the log tells, so the greeting is as good as the log before
it. -/
theorem mem_openStreams_iff (h : b.Holds os) {i : StreamId} {info : StreamInfo} :
    (i, info) ∈ b.openStreams ↔ OpenIn b.log.toList i info := by
  rw [h.table.mem_iff, h.openIn_iff, List.mem_map]
  simp only [Prod.mk.injEq]

/-- The messages of a stream are none, or it is heard from the beginning. -/
theorem isHeard (h : b.Holds os) (i : StreamId) :
    b.messagesOf i = [] ∨ ∃ info ended, IsHeard i info 0 ended (b.messagesOf i) := by
  rcases h.life i with hnone | ⟨info, sent, halive⟩ | hended
  · exact .inl hnone
  · exact .inr ⟨info, false, halive.isHeard⟩
  · obtain ⟨info, hheard⟩ := hended.exists_isHeard
    exact .inr ⟨info, true, hheard⟩

/-- An open stream is announced once to a client that connects, with its own metadata. -/
theorem concerning_announcements (h : b.Holds os) {o : Outlet} (ho : o ∈ os) :
    concerning o.id b.announcements = [.opened o.id o.info] := by
  have htable : b.announcements.Perm (os.map fun p => .opened p.id p.info) := by
    have hmap := h.table.map fun s => BusMessage.opened s.1 s.2
    rwa [List.map_map] at hmap
  have hself : concerning o.id (os.map fun p => .opened p.id p.info) = [.opened o.id o.info] := by
    have hdistinct := h.distinct
    obtain ⟨left, right, rfl⟩ := List.append_of_mem ho
    rw [List.map_append, List.map_cons, List.nodup_append] at hdistinct
    obtain ⟨_, hright, hleft⟩ := hdistinct
    rw [List.nodup_cons] at hright
    have hl : concerning o.id (left.map fun p => .opened p.id p.info) = [] := by
      apply concerning_eq_nil
      intro m hm
      obtain ⟨p, hp, rfl⟩ := List.mem_map.mp hm
      exact hleft p.id (List.mem_map_of_mem hp) o.id List.mem_cons_self
    have hr : concerning o.id (right.map fun p => .opened p.id p.info) = [] := by
      apply concerning_eq_nil
      intro m hm he
      obtain ⟨p, hp, rfl⟩ := List.mem_map.mp hm
      have hid : p.id = o.id := he
      exact hright.1 (hid ▸ List.mem_map_of_mem hp)
    have hsplit (front back : List BusMessage) :
        concerning o.id (front ++ .opened o.id o.info :: back) =
          concerning o.id front ++ .opened o.id o.info :: concerning o.id back :=
      concerning_append_cons (.opened o.id o.info) front back
    rw [List.map_append, List.map_cons, hsplit, hl, hr, List.nil_append]
  have hfilter := htable.filter fun m => m.streamId = o.id
  change (concerning o.id _).Perm (concerning o.id _) at hfilter
  rw [hself] at hfilter
  exact List.perm_singleton.mp hfilter

/-- A stream without an outlet is not announced to a client that connects, since it is not in the
table. -/
theorem concerning_announcements_of_not_mem (h : b.Holds os) {i : StreamId}
    (hi : i ∉ os.map Outlet.id) : concerning i b.announcements = [] := by
  apply concerning_eq_nil
  intro m hm he
  obtain ⟨s, hs, rfl⟩ := List.mem_map.mp hm
  obtain ⟨o, ho, rfl⟩ := List.mem_map.mp (h.table.mem_iff.mp hs)
  have hid : o.id = i := he
  exact hi (hid ▸ List.mem_map_of_mem ho)

section Listener

variable {ms : List BusMessage} {i : StreamId}

/-- What was published later follows in the messages of each stream. -/
theorem messagesOf_append (hlog : b.log.toList = b₀.log.toList ++ ms) (i : StreamId) :
    b.messagesOf i = b₀.messagesOf i ++ concerning i ms := by
  unfold messagesOf concerning
  rw [hlog, List.filter_append]

/-- A stream that was open is heard from the number on that it had come to. -/
theorem heard_of_mem (h₀ : b₀.Holds os₀) (h : b.Holds os)
    (hlog : b.log.toList = b₀.log.toList ++ ms) {o : Outlet} (ho : o ∈ os₀) :
    ∃ ended, IsHeard o.id o.info o.sequence ended (concerning o.id (b₀.announcements ++ ms)) ∧
      ∀ other, OpenIn b.log.toList o.id other ↔ ended = false ∧ other = o.info := by
  have halive := h₀.live o ho
  have hmessages := messagesOf_append hlog o.id
  rw [concerning_append, h₀.concerning_announcements ho]
  rcases h.isHeard o.id with hnone | ⟨info, ended, hheard⟩
  · rw [hmessages] at hnone
    exact absurd (List.append_eq_nil_iff.mp hnone).1 halive.ne_nil
  · have hopen : ∀ other, OpenIn b.log.toList o.id other ↔ ended = false ∧ other = info := by
      intro other
      rw [← openIn_messagesOf, hheard.openIn_iff]
    rw [hmessages] at hheard
    obtain ⟨rfl, hrest⟩ := halive.isHeard_rest hheard
    exact ⟨ended, hrest, hopen⟩

/-- Of a stream that was not open nothing is heard, or it is heard from the beginning. -/
theorem heard_of_not_mem (h₀ : b₀.Holds os₀) (h : b.Holds os)
    (hlog : b.log.toList = b₀.log.toList ++ ms) (hi : i ∉ os₀.map Outlet.id) :
    (concerning i (b₀.announcements ++ ms) = [] ∧ ∀ info, ¬OpenIn b.log.toList i info) ∨
      ∃ info ended, IsHeard i info 0 ended (concerning i (b₀.announcements ++ ms)) ∧
        ∀ other, OpenIn b.log.toList i other ↔ ended = false ∧ other = info := by
  have hmessages := messagesOf_append hlog i
  rw [concerning_append, h₀.concerning_announcements_of_not_mem hi, List.nil_append]
  simp only [← openIn_messagesOf]
  rcases h.isHeard i with hnone | ⟨info, ended, hheard⟩
  · left
    rw [hnone]
    rw [hnone] at hmessages
    exact ⟨(List.append_eq_nil_iff.mp hmessages.symm).2, not_openIn_nil i⟩
  · rcases h₀.gone i hi with hnone | hended
    · rw [hnone, List.nil_append] at hmessages
      rw [← hmessages]
      exact .inr ⟨info, ended, hheard, fun _ => hheard.openIn_iff⟩
    · left
      rw [hmessages] at hheard ⊢
      rw [hended.rest_eq_nil hheard, List.append_nil]
      exact ⟨rfl, hended.not_openIn⟩

/-- A listener that is told of the open streams and then hears all messages hears of each stream
nothing, or a part of its life that begins with the metadata and goes on to the present. -/
theorem heard (h₀ : b₀.Holds os₀) (h : b.Holds os)
    (hlog : b.log.toList = b₀.log.toList ++ ms) (i : StreamId) :
    (concerning i (b₀.announcements ++ ms) = [] ∧ ∀ info, ¬OpenIn b.log.toList i info) ∨
      ∃ info first ended,
        IsHeard i info first ended (concerning i (b₀.announcements ++ ms)) ∧
        (i ∉ os₀.map Outlet.id → first = 0) ∧
        ∀ other, OpenIn b.log.toList i other ↔ ended = false ∧ other = info := by
  by_cases hi : i ∈ os₀.map Outlet.id
  · obtain ⟨o, ho, rfl⟩ := List.mem_map.mp hi
    obtain ⟨ended, hheard, hopen⟩ := h₀.heard_of_mem h hlog ho
    exact .inr ⟨o.info, o.sequence, ended, hheard, fun hn => absurd hi hn, hopen⟩
  · rcases h₀.heard_of_not_mem h hlog hi with hnothing | ⟨info, ended, hheard, hopen⟩
    · exact .inl hnothing
    · exact .inr ⟨info, 0, ended, hheard, fun _ => rfl, hopen⟩

end Listener

end Bus.Holds

end VariableBridge
