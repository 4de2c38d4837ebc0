import Mathlib.Data.List.Forall2
import VariableBridge.Stream.Bus

/-!
# Equal messages up to identities

Two programs on two buses may publish the same messages although their streams have
other identities and their samples other time stamps. A renaming says which stream
of one bus stands for which of the other. Main statements: both buses may open,
push and close corresponding streams in lockstep, and the first may do more for
streams whose names are not compared; the messages stay the same up to a renaming
that only grows.
-/

namespace VariableBridge

/-- Which stream of one bus stands for which of another. -/
structure Renaming where
  /-- The streams that stand for each other. -/
  pairs : List (StreamId × StreamId)
  /-- No stream stands for two. -/
  oneToOne : ∀ p ∈ pairs, ∀ q ∈ pairs, p.1 = q.1 ↔ p.2 = q.2

namespace Renaming

/-- No stream stands for another one. -/
def empty : Renaming := ⟨[], fun _ hp => absurd hp List.not_mem_nil⟩

/-- All streams of the renaming were opened on these buses. -/
def Known (ρ : Renaming) (b b' : Bus) : Prop :=
  ∀ p ∈ ρ.pairs, p.1.number < b.nextId ∧ p.2.number < b'.nextId

/-- The renaming without pairs is known to all buses, which is how two histories begin to be
compared. -/
theorem known_empty (b b' : Bus) : empty.Known b b' :=
  fun _ hp => absurd hp List.not_mem_nil

/-- The next streams of two buses stand for each other. -/
def paired (ρ : Renaming) {b b' : Bus} (hk : ρ.Known b b') : Renaming where
  pairs := (⟨b.nextId⟩, ⟨b'.nextId⟩) :: ρ.pairs
  oneToOne := by
    -- the old streams were opened before the next ones, so no old pair has either of them
    have hnew : ∀ p ∈ ρ.pairs, p.1 ≠ ⟨b.nextId⟩ ∧ p.2 ≠ ⟨b'.nextId⟩ := by
      intro p hp
      refine ⟨?_, ?_⟩
      · intro he
        exact Nat.ne_of_lt (hk p hp).1 (congrArg StreamId.number he)
      · intro he
        exact Nat.ne_of_lt (hk p hp).2 (congrArg StreamId.number he)
    intro p hp q hq
    rcases List.mem_cons.mp hp with rfl | hp <;> rcases List.mem_cons.mp hq with rfl | hq
    · exact iff_of_true rfl rfl
    · exact iff_of_false (hnew q hq).1.symm (hnew q hq).2.symm
    · exact iff_of_false (hnew p hp).1 (hnew p hp).2
    · exact ρ.oneToOne p hp q hq

variable {ρ : Renaming} {b b' : Bus}

/-- When both buses open a stream, the two new identities can be paired: neither was used before. -/
theorem known_paired (hk : ρ.Known b b') (info info' : StreamInfo) :
    (ρ.paired hk).Known (b.announce info).2 (b'.announce info').2 := by
  intro p hp
  rcases List.mem_cons.mp hp with rfl | hp
  · exact ⟨Nat.lt_succ_self _, Nat.lt_succ_self _⟩
  · exact ⟨Nat.lt_succ_of_lt (hk p hp).1, Nat.lt_succ_of_lt (hk p hp).2⟩

end Renaming

/-- The same message of two streams that stand for each other. Time stamps may differ. -/
inductive BusMessage.SameUpTo (ρ : Renaming) : BusMessage → BusMessage → Prop where
  /-- Both streams are opened with the same metadata. -/
  | opened {i i' : StreamId} (h : (i, i') ∈ ρ.pairs) (info : StreamInfo) :
    SameUpTo ρ (.opened i info) (.opened i' info)
  /-- Both streams send a sample with the same number and values. -/
  | sample {i i' : StreamId} (h : (i, i') ∈ ρ.pairs) (name : String) (sequence : Nat)
    (t t' : Time.Instant) (values : SampleValues) :
    SameUpTo ρ (.sample ⟨i, name, sequence, t, values⟩) (.sample ⟨i', name, sequence, t', values⟩)
  /-- Both streams are closed. -/
  | closed {i i' : StreamId} (h : (i, i') ∈ ρ.pairs) (name : String) :
    SameUpTo ρ (.closed i name) (.closed i' name)

/-- Messages that are the same up to a renaming stay so when it grows, since no pair is taken
back. -/
theorem BusMessage.SameUpTo.mono {ρ ρ' : Renaming} {m m' : BusMessage} (h : m.SameUpTo ρ m')
    (hs : ρ.pairs ⊆ ρ'.pairs) : m.SameUpTo ρ' m' := by
  cases h with
  | opened hi info => exact .opened (hs hi) info
  | sample hi name sequence t t' values => exact .sample (hs hi) name sequence t t' values
  | closed hi name => exact .closed (hs hi) name

/-- The same messages in the same order, up to identities and time stamps. -/
def SameMessages (ρ : Renaming) (ms ms' : List BusMessage) : Prop :=
  List.Forall₂ (BusMessage.SameUpTo ρ) ms ms'

/-- Lists of messages that are the same up to a renaming stay so when it grows, since no pair is
taken back. -/
theorem SameMessages.mono {ρ ρ' : Renaming} {ms ms' : List BusMessage}
    (h : SameMessages ρ ms ms') (hs : ρ.pairs ⊆ ρ'.pairs) : SameMessages ρ' ms ms' :=
  List.Forall₂.imp (fun _ _ hm => hm.mono hs) h

/-- The sending ends of two streams that stand for each other. -/
structure Outlet.Twin (ρ : Renaming) (o o' : Outlet) : Prop where
  /-- The streams stand for each other. -/
  id : (o.id, o'.id) ∈ ρ.pairs
  /-- The metadata are the same. -/
  info : o'.info = o.info
  /-- The next samples have the same number. -/
  sequence : o'.sequence = o.sequence

/-- Outlets that are twins stay so when the renaming grows, since no pair is taken back. -/
theorem Outlet.Twin.mono {ρ ρ' : Renaming} {o o' : Outlet} (h : o.Twin ρ o')
    (hs : ρ.pairs ⊆ ρ'.pairs) : o.Twin ρ' o' :=
  ⟨hs h.id, h.info, h.sequence⟩

/-- The new messages of a bus. -/
def Bus.since (b earlier : Bus) : List BusMessage := b.log.toList.drop earlier.log.size

/-- What a bus has published since a moment is what was added to its log. -/
theorem Bus.since_eq {b b₁ : Bus} {ms : List BusMessage}
    (h : b₁.log.toList = b.log.toList ++ ms) : b₁.since b = ms := by
  rw [since, h, ← Array.length_toList, List.drop_left]

/-- The streams of all names are compared. -/
abbrev allNames : String → Bool := fun _ => true

/-- Two programs have taken their buses from one state to another. The messages of those
streams of the first bus whose names are compared are the messages of the second. -/
structure Lockstep (compared : String → Bool) (ρ : Renaming) (b b' : Bus) (ρ₁ : Renaming)
    (b₁ b₁' : Bus) : Prop where
  /-- Streams that stand for each other go on doing so. -/
  grows : ρ.pairs ⊆ ρ₁.pairs
  /-- No other stream was promised. -/
  known : ρ₁.Known b₁ b₁'
  /-- The messages are the same. -/
  messages : ∃ ms ms', b₁.log.toList = b.log.toList ++ ms ∧ b₁'.log.toList = b'.log.toList ++ ms' ∧
    SameMessages ρ₁ (ms.filter fun m => compared m.streamName) ms'

namespace Lockstep

variable {compared : String → Bool} {ρ ρ₁ ρ₂ : Renaming} {b b' b₁ b₁' b₂ b₂' : Bus}

/-- Two buses that do nothing are in lockstep, under the renaming that they have. -/
theorem idle (hk : ρ.Known b b') : Lockstep compared ρ b b' ρ b b' :=
  ⟨fun _ hp => hp, hk, [], [], (List.append_nil _).symm, (List.append_nil _).symm, .nil⟩

/-- Two steps in lockstep are one: the messages of both are compared, and the renaming has grown
twice. -/
theorem trans (h : Lockstep compared ρ b b' ρ₁ b₁ b₁')
    (h' : Lockstep compared ρ₁ b₁ b₁' ρ₂ b₂ b₂') : Lockstep compared ρ b b' ρ₂ b₂ b₂' := by
  obtain ⟨ms, ms', hms, hms', hsame⟩ := h.messages
  obtain ⟨ns, ns', hns, hns', hsame'⟩ := h'.messages
  refine ⟨fun _ hp => h'.grows (h.grows hp), h'.known, ms ++ ns, ms' ++ ns', ?_, ?_, ?_⟩
  · rw [hns, hms, List.append_assoc]
  · rw [hns', hms', List.append_assoc]
  · rw [List.filter_append]
    exact List.rel_append (hsame.mono h'.grows) hsame'

/-- The times of the buses do not matter for whether they are in step, since stamps are not
compared. -/
theorem at_times {now now' : Time.Instant}
    (h : Lockstep compared ρ { b with now } { b' with now := now' } ρ₁ b₁ b₁') :
    Lockstep compared ρ b b' ρ₁ b₁ b₁' :=
  ⟨h.grows, h.known, h.messages⟩

/-- The messages since both began are the same on both sides, up to the renaming and to names that
are not compared. -/
theorem since (h : Lockstep compared ρ b b' ρ₁ b₁ b₁') :
    SameMessages ρ₁ ((b₁.since b).filter fun m => compared m.streamName) (b₁'.since b') := by
  obtain ⟨ms, ms', hms, hms', hsame⟩ := h.messages
  rw [Bus.since_eq hms, Bus.since_eq hms']
  exact hsame

/-- If all names are compared, buses in lockstep have published the same messages up to the
renaming. -/
theorem since_of_allNames (h : Lockstep allNames ρ b b' ρ₁ b₁ b₁') :
    SameMessages ρ₁ (b₁.since b) (b₁'.since b') := by
  have hsame := h.since
  rwa [List.filter_eq_self.mpr fun _ _ => rfl] at hsame

/-- Both publish one message of a name that is compared, and the two messages are the same up to the
renaming. -/
theorem one {m m' : BusMessage} (hs : ρ.pairs ⊆ ρ₁.pairs) (hk : ρ₁.Known b₁ b₁')
    (hm : b₁.log = b.log.push m) (hm' : b₁'.log = b'.log.push m')
    (hc : compared m.streamName = true) (hsame : m.SameUpTo ρ₁ m') :
    Lockstep compared ρ b b' ρ₁ b₁ b₁' := by
  refine ⟨hs, hk, [m], [m'], by rw [hm, Array.toList_push], by rw [hm', Array.toList_push], ?_⟩
  rw [List.filter_singleton, hc]
  exact .cons hsame .nil

/-- Only the first publishes a message, of a name that is not compared. -/
theorem alone {m : BusMessage} (hk : ρ.Known b₁ b') (hm : b₁.log = b.log.push m)
    (hc : compared m.streamName = false) : Lockstep compared ρ b b' ρ b₁ b' := by
  refine ⟨fun _ hp => hp, hk, [m], [], by rw [hm, Array.toList_push], (List.append_nil _).symm, ?_⟩
  rw [List.filter_singleton, hc]
  exact .nil

variable {o o' : Outlet}

/-- Both open a stream. The new ones stand for each other, and those before stand for what they
stood for. -/
theorem announce (hk : ρ.Known b b') (info : StreamInfo) (hc : compared info.name = true) :
    Lockstep compared ρ b b' (ρ.paired hk) (b.announce info).2 (b'.announce info).2 ∧
      (b.announce info).1.Twin (ρ.paired hk) (b'.announce info).1 :=
  ⟨one (List.subset_cons_self _ _) (Renaming.known_paired hk info info) rfl rfl hc
    (.opened List.mem_cons_self info), List.mem_cons_self, rfl, rfl⟩

/-- A stream that is opened on one side only is no difference if its name is not compared. -/
theorem announce_alone {info : StreamInfo} (hk : ρ.Known b b')
    (hc : compared info.name = false) :
    Lockstep compared ρ b b' ρ (b.announce info).2 b' :=
  alone (fun p hp => ⟨Nat.lt_succ_of_lt (hk p hp).1, (hk p hp).2⟩) rfl hc

/-- Both send a sample of streams that stand for each other, with the same values and the same
number. -/
theorem push (hk : ρ.Known b b') (ho : o.Twin ρ o') (hc : compared o.info.name = true)
    (values : SampleValues) :
    Lockstep compared ρ b b' ρ (b.push o values).2 (b'.push o' values).2 ∧
      (b.push o values).1.Twin ρ (b'.push o' values).1 := by
  refine ⟨one (fun _ hp => hp) hk rfl rfl hc ?_, ho.id, ho.info, ?_⟩
  · rw [ho.info, ho.sequence]
    exact .sample ho.id _ _ _ _ _
  · exact congrArg (· + 1) ho.sequence

/-- A sample that is sent on one side only is no difference if the name of its stream is not
compared. -/
theorem push_alone (hk : ρ.Known b b') (hc : compared o.info.name = false)
    (values : SampleValues) : Lockstep compared ρ b b' ρ (b.push o values).2 b' :=
  alone hk rfl hc

/-- Both close streams that stand for each other, and the two ends are the same up to the
renaming. -/
theorem close (hk : ρ.Known b b') (ho : o.Twin ρ o') (hc : compared o.info.name = true) :
    Lockstep compared ρ b b' ρ (b.close o) (b'.close o') := by
  refine one (fun _ hp => hp) hk rfl rfl hc ?_
  rw [ho.info]
  exact .closed ho.id _

/-- A stream that is closed on one side only is no difference if its name is not compared. -/
theorem close_alone (hk : ρ.Known b b') (hc : compared o.info.name = false) :
    Lockstep compared ρ b b' ρ (b.close o) b' :=
  alone hk rfl hc

end Lockstep

end VariableBridge
