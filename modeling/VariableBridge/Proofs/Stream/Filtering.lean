import VariableBridge.Proofs.Stream.Connection

/-!
# Filters and announcements

The announcement of a stream is a message like any other: the filter that is in force when
it is handled decides on it, and it is not made up for when the filter changes. Main
statement: before a sample the client was told of its stream exactly if the stream was open
at the connect or its announcement passed the filter of that time. So a client that lifts
its filter may get samples of streams that it was never told of.
-/

namespace VariableBridge

namespace Connection

section Passed

variable {all : List (BusMessage × List String)} {front back : List BusMessage}

/-- A message that got through stands between what was handled before it and after it. -/
theorem exists_split_of_passed {m : BusMessage}
    (h : (all.filter passes).map Prod.fst = front ++ m :: back) :
    ∃ earlier later streams, all = earlier ++ (m, streams) :: later ∧
      front = (earlier.filter passes).map Prod.fst := by
  obtain ⟨before, rest, hsplit, hfront, hrest⟩ := List.map_eq_append_iff.mp h
  obtain ⟨⟨m, streams⟩, after, rfl, rfl, _⟩ := List.map_eq_cons_iff.mp hrest
  obtain ⟨first, second, rfl, hfirst, hsecond⟩ := List.filter_eq_append_iff.mp hsplit
  obtain ⟨held, later, rfl, hheld, _, _⟩ := List.filter_eq_cons_iff.mp hsecond
  refine ⟨first ++ held, later, streams, (List.append_assoc ..).symm, ?_⟩
  have hnone : held.filter passes = [] := List.filter_eq_nil_iff.mpr hheld
  rw [List.filter_append, hnone, List.append_nil, hfirst, hfront]

/-- The stream of a sample was announced before it exactly if the announcement got through at
all. -/
theorem announced_iff_passed (h : AllHeard (all.map Prod.fst)) {frame : SampleFrame}
    (hr : (all.filter passes).map Prod.fst = front ++ .sample frame :: back) :
    (∃ info, .opened frame.id info ∈ front) ↔
      ∃ info streams, (.opened frame.id info, streams) ∈ all ∧
        passes (.opened frame.id info, streams) = true := by
  obtain ⟨earlier, later, wanted, hall, hfront⟩ := exists_split_of_passed hr
  constructor
  · rintro ⟨info, ho⟩
    rw [hfront] at ho
    obtain ⟨⟨_, streams⟩, hp, rfl⟩ := List.mem_map.mp ho
    obtain ⟨hmem, hpass⟩ := List.mem_filter.mp hp
    exact ⟨info, streams, hall ▸ List.mem_append_left _ hmem, hpass⟩
  · rintro ⟨info, streams, hmem, hpass⟩
    refine ⟨info, ?_⟩
    rw [hall, List.mem_append, List.mem_cons] at hmem
    rcases hmem with hbefore | hsame | hafter
    · rw [hfront]
      exact List.mem_map_of_mem (f := Prod.fst) (List.mem_filter.mpr ⟨hbefore, hpass⟩)
    · cases hsame
    · -- the stream was announced before its sample, so an announcement behind it is a second one
      exfalso
      obtain ⟨left, right, rfl⟩ := List.append_of_mem hafter
      have hsample : all.map Prod.fst = earlier.map Prod.fst ++ .sample frame ::
          (left.map Prod.fst ++ .opened frame.id info :: right.map Prod.fst) := by
        rw [hall]
        simp
      obtain ⟨other, ⟨hopened, _⟩, _⟩ := h.openIn_before hsample
      have hsecond : all.map Prod.fst = (earlier.map Prod.fst ++ .sample frame ::
          left.map Prod.fst) ++ .opened frame.id info :: right.map Prod.fst := by
        rw [hsample]
        simp
      exact h.not_mem_before hsecond other (List.mem_append_left _ hopened)

end Passed

/-- The announcements of a connect, which no filter holds back. -/
def greeting (b : Bus) : List (BusMessage × List String) := b.announcements.map fun m => (m, [])

/-- The messages of the greeting are the announcements of the open streams, in the order of the
table. -/
theorem map_fst_greeting (b : Bus) : (greeting b).map Prod.fst = b.announcements := by
  rw [greeting, List.map_map]
  exact List.map_id _

/-- No filter takes anything out of the greeting, since a client that connects has not asked for
anything yet. -/
theorem filter_greeting (b : Bus) : (greeting b).filter passes = greeting b := by
  apply List.filter_eq_self.mpr
  intro p hp
  obtain ⟨m, _, rfl⟩ := List.mem_map.mp hp
  rfl

/-- The greeting announces the open streams, all of them and no others, before there is a filter. -/
theorem mem_greeting_iff {b : Bus} {i : StreamId} {info : StreamInfo} {streams : List String} :
    (.opened i info, streams) ∈ greeting b ↔ (i, info) ∈ b.openStreams ∧ streams = [] := by
  simp only [greeting, Bus.announcements, List.mem_map, Prod.mk.injEq]
  constructor
  · rintro ⟨_, ⟨⟨j, other⟩, hopen, rfl⟩, hm, rfl⟩
    obtain ⟨rfl, rfl⟩ := BusMessage.opened.inj hm
    exact ⟨hopen, rfl⟩
  · rintro ⟨hopen, rfl⟩
    exact ⟨.opened i info, ⟨(i, info), hopen, rfl⟩, rfl, rfl⟩

/-- An announcement passes a filter exactly if the filter names no stream or names the announced
one. -/
theorem passes_opened_iff {i : StreamId} {info : StreamInfo} {streams : List String} :
    passes (.opened i info, streams) = true ↔ streams = [] ∨ info.name ∈ streams := by
  simp [passes, BusMessage.streamName]

/-- For all that was done on a bus before a client connects, and for all that happens then while the
server keeps up, requests of the client included: the server has handled what was published since
the connect, apart from what is outstanding, and the client has got the announcements of the
connect and what passed the filter of its time. Before a sample it has got an announcement of the
sample's stream exactly if the stream was open at the connect, or its announcement was handled when
the client wanted all streams or asked for its name. -/
theorem announced_before_sample_iff (capacity : Nat) (before : List Senders.Action)
    (acts : List Action)
    (hkeeps : (connect ((Senders.start capacity).after before)).KeepsUp acts) :
    let s := (Senders.start capacity).after before
    let c := (connect s).after acts
    c.handled.map Prod.fst ++ c.senders.bus.log.toList.drop c.feed.subscriber.position =
        c.senders.bus.log.toList.drop s.bus.log.size ∧
      c.received = s.bus.announcements ++ (c.handled.filter passes).map Prod.fst ∧
      ∀ front frame back, c.received = front ++ .sample frame :: back →
        ((∃ info, .opened frame.id info ∈ front) ↔
          (∃ info, (frame.id, info) ∈ s.bus.openStreams) ∨
            ∃ info streams, (.opened frame.id info, streams) ∈ c.handled ∧
              (streams = [] ∨ info.name ∈ streams)) := by
  intro s c
  have h₀ : s.bus.Holds s.outlets := Senders.holds_after capacity before
  have hc : Follows s c := (follows_connect s).after hkeeps
  refine ⟨hc.handled_append, hc.received, ?_⟩
  intro front frame back hreceived
  have hall : AllHeard ((greeting s.bus ++ c.handled).map Prod.fst) := by
    rw [List.map_append, map_fst_greeting]
    exact hc.allHeard h₀
  have hpassed : ((greeting s.bus ++ c.handled).filter passes).map Prod.fst =
      front ++ .sample frame :: back := by
    rw [List.filter_append, filter_greeting, List.map_append, map_fst_greeting, ← hc.received,
      hreceived]
  rw [announced_iff_passed hall hpassed]
  simp only [passes_opened_iff, List.mem_append, mem_greeting_iff]
  constructor
  · rintro ⟨info, streams, ⟨hopen, _⟩ | hmem, hwanted⟩
    · exact .inl ⟨info, hopen⟩
    · exact .inr ⟨info, streams, hmem, hwanted⟩
  · rintro (⟨info, hopen⟩ | ⟨info, streams, hmem, hwanted⟩)
    · exact ⟨info, [], .inl ⟨hopen, rfl⟩, .inl rfl⟩
    · exact ⟨info, streams, .inr hmem, hwanted⟩

/-- A client asks for one stream, another one opens, the client asks for all, and the stream that
opened sends a sample. -/
def filterLifted : List Action :=
  [.hear (.text "\x7b\"subscribe\":[\"level\"]\x7d"),
    .bus (.opens ⟨"spec", "VAR_INT", 1, .ofNat 50, .int32, "rig"⟩), .handle,
    .hear (.text "\x7b\"subscribe\":[]\x7d"), .bus (.sends ⟨0⟩ (.int32 [42])), .handle]

/-- The server keeps up with a client whose filter is lifted after an announcement was passed
over. -/
theorem keepsUp_filterLifted : (connect (Senders.start 1024)).KeepsUp filterLifted := by
  decide +kernel

/-- After its filter is lifted the client gets a sample of the stream, though it never got the
announcement. -/
theorem received_filterLifted : ((connect (Senders.start 1024)).after filterLifted).received =
    [.sample ⟨⟨0⟩, "spec", 0, .epoch, .int32 [42]⟩] := by
  decide +kernel

/-- There the announcement was handled and did not pass the filter of its time. -/
theorem announcement_held_back :
    (connect (Senders.start 1024)).KeepsUp filterLifted ∧
      let c := (connect (Senders.start 1024)).after filterLifted
      c.handled.map (fun p => (p.1.streamId, p.2)) = [(⟨0⟩, ["level"]), (⟨0⟩, [])] ∧
        ¬∃ info streams, (.opened ⟨0⟩ info, streams) ∈ c.handled ∧
          (streams = [] ∨ info.name ∈ streams) := by
  refine ⟨keepsUp_filterLifted, by decide +kernel, ?_⟩
  intro hpassed
  obtain ⟨_, _, hiff⟩ :=
    announced_before_sample_iff 1024 [] filterLifted keepsUp_filterLifted
  obtain ⟨info, ho⟩ := (hiff [] _ [] received_filterLifted).mpr (.inr hpassed)
  cases ho

/-- A sample may belong to a stream that the client was never told of. -/
theorem not_every_sample_is_announced :
    ¬∀ (capacity : Nat) (before : List Senders.Action) (acts : List Action),
      (connect ((Senders.start capacity).after before)).KeepsUp acts →
        ∀ front frame back,
          ((connect ((Senders.start capacity).after before)).after acts).received =
            front ++ .sample frame :: back →
          ∃ info, .opened frame.id info ∈ front := by
  intro hall
  obtain ⟨info, ho⟩ := hall 1024 [] filterLifted keepsUp_filterLifted [] _ []
    received_filterLifted
  cases ho

end Connection

end VariableBridge
