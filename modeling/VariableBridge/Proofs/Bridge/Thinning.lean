import VariableBridge.Proofs.Bridge.Construction
import VariableBridge.Proofs.Bridge.Product
import VariableBridge.Proofs.Bridge.Schedule

/-!
# Thinning out

A registry follows its variables in every cycle, whether the cycle sends or not, and no pass
looks at the samples that were sent before. Main statements: a cycle publishes the messages of
its pass and then one sample of each adapter, or none; a pass does the same with registries that
differ only in what they have sent; hence a registry that skips cycles runs like one that never
skips, except that it sends only the samples that are due.
-/

namespace VariableBridge

open Space (Memory)

section Unsent

variable {h : Host} {name : String} {context : StreamContext} {bus : Bus}

namespace Adapter

/-- The adapter as it would be if its stream had sent nothing. -/
def unsent (a : Adapter) : Adapter := { a with outlet := { a.outlet with sequence := 0 } }

/-- A new stream has sent nothing, so forgetting what was sent changes nothing about its adapter. -/
theorem unsent_of_create {d : Space.Descriptor} {a : Adapter} {bus' : Bus}
    (hc : create h name d context bus = .ok (a, bus')) : a.unsent = a := by
  obtain ⟨_, _, _, _, ho, _⟩ := of_create hc
  have hzero : a.outlet.sequence = 0 := by
    rw [ho]
    rfl
  unfold unsent
  rw [← hzero]

/-- A visit does not look at what the stream has sent, so it commutes with forgetting it. -/
theorem reconcileOne_unsent (a : Adapter) :
    reconcileOne h context name a.unsent bus =
      (reconcileOne h context name a bus).map fun v => { v with adapter := v.adapter.unsent } := by
  have hplan (live : Space.Descriptor) : planFor a.unsent live = planFor a live := rfl
  unfold reconcileOne
  cases h.catalogue.resolve name with
  | error error => cases error <;> rfl
  | ok live =>
    simp only [hplan]
    cases planFor a live with
    | keep => rfl
    | repoint => rfl
    | rebuild =>
      cases hc : create h name live context bus with
      | error error => rfl
      | ok made =>
        simp only [Except.map, unsent_of_create hc]
        rfl

end Adapter

/-- The adapters as they would be if their streams had sent nothing. -/
def unsentAll (l : List (String × Adapter)) : List (String × Adapter) :=
  l.map fun entry => (entry.1, entry.2.unsent)

/-- A pass does not look at what the streams have sent, so it commutes with forgetting it. -/
theorem reconcileEach_unsent (l : List (String × Adapter)) :
    reconcileEach h context (unsentAll l) bus =
      { reconcileEach h context l bus with
        adapters := unsentAll (reconcileEach h context l bus).adapters } := by
  induction l generalizing bus with
  | nil => rfl
  | cons entry rest ih =>
    obtain ⟨name, a⟩ := entry
    change reconcileEach h context ((name, a.unsent) :: unsentAll rest) bus = _
    unfold reconcileEach
    rw [Adapter.reconcileOne_unsent]
    cases reconcileOne h context name a bus with
    | error error => rfl
    | ok visit =>
      simp only [Except.map, ih]
      rfl

end Unsent

namespace Registry

/-- The registry as it would be if it had sent nothing and did not skip. -/
def unsent (r : Registry) : Registry :=
  { r with
    adapters := unsentAll r.adapters
    throttle := .new 0
    stats := { r.stats with sends := 0 } }

variable (r : Registry) (h : Host) (bus : Bus)

/-- A pass does the same to a registry that has sent nothing: result, messages and adapters do not
depend on the samples before. -/
theorem reconcile_unsent :
    r.unsent.reconcile h bus =
      ⟨(r.reconcile h bus).result, (r.reconcile h bus).state.unsent, (r.reconcile h bus).bus⟩ := by
  simp only [reconcile, unsent, reconcileEach_unsent]

/-- What a cycle does beyond its pass is to send and to skip, and this is forgotten with what was
sent. -/
theorem unsent_process : (r.process h bus).state.unsent = (r.reconcile h bus).state.unsent := by
  rcases r.process_cases h bus with ⟨_, _, _, hs, _⟩ | ⟨_, _, _, hs, _⟩ | ⟨_, _, _, hs, _⟩
  · rw [hs]
  · rw [hs]
    rfl
  · rw [hs]
    simp only [unsent, unsentAll, List.map_map]
    rfl

variable {r}

/-- A sound registry is sound without what it has sent, since names, bindings and streams are the
same. -/
theorem IsSound.unsent (hr : r.IsSound) : r.unsent.IsSound := by
  constructor
  · have hnames : r.unsent.names = r.names := by
      simp only [names, Registry.unsent, unsentAll, List.map_map]
      rfl
    rw [hnames]
    exact hr.ordered
  · intro entry he
    obtain ⟨before, hb, rfl⟩ := List.mem_map.mp he
    exact ⟨(hr.bound before hb).info, (hr.bound before hb).openable⟩

end Registry

/-- The messages that are not samples, in order. -/
def announcementsIn (ms : List BusMessage) : List BusMessage := ms.filter fun m => m.frame?.isNone

/-- The announcements of two histories in a row are those of the one and then those of the other. -/
theorem announcementsIn_append (ms ms' : List BusMessage) :
    announcementsIn (ms ++ ms') = announcementsIn ms ++ announcementsIn ms' :=
  List.filter_append ..

/-- There is no announcement among samples, so that a round of samples leaves the announcements as
they were. -/
@[simp] theorem announcementsIn_map_sample (frames : List SampleFrame) :
    announcementsIn (frames.map .sample) = [] := by
  apply List.filter_eq_nil_iff.mpr
  intro m hm
  obtain ⟨frame, _, rfl⟩ := List.mem_map.mp hm
  exact Bool.false_ne_true

/-- Messages without a sample are all announcements, and stay what they are when the samples are
left out. -/
theorem announcementsIn_eq_self {ms : List BusMessage} (h : framesIn ms = []) :
    announcementsIn ms = ms := by
  apply List.filter_eq_self.mpr
  intro m hm
  rw [List.filterMap_eq_nil_iff.mp h m hm]
  rfl

/-- Sending opens no stream, so that the next stream gets the same identity whether the cycle before
has sent or not. -/
theorem sendEach_nextId (m : Memory) (l : List (String × Adapter)) (bus : Bus) :
    (sendEach m l bus).2.nextId = bus.nextId := by
  induction l generalizing bus with
  | nil => rfl
  | cons entry rest ih => exact ih _

namespace Registry

variable (r : Registry) (h : Host) (bus : Bus)

/-- A pass publishes the messages of replaced streams and nothing else, also if it fails. -/
theorem reconcile_log : ∃ front after,
    (r.reconcile h bus).bus.log.toList = bus.log.toList ++ replacements h front after := by
  change ∃ front after, (reconcileEach h r.context r.adapters bus).bus.log.toList = _
  cases hf : (reconcileEach h r.context r.adapters bus).failure with
  | none => exact ⟨_, _, reconcileEach_log h r.context hf⟩
  | some error =>
    obtain ⟨front, _, _, _, hnone, _, _, hbus⟩ := reconcileEach_failing h r.context hf
    rw [hbus]
    exact ⟨_, _, reconcileEach_log h r.context hnone⟩

/-- The samples of a cycle, if it sends: one of each adapter as the pass has left it. -/
def samples : List SampleFrame :=
  if (r.process h bus).result = .ok true then
    (r.reconcile h bus).state.adapters.map fun entry =>
      entry.2.frame h.memory (r.reconcile h bus).bus.now
  else []

/-- A cycle publishes the messages of its pass and then its samples. -/
theorem process_log :
    (r.process h bus).bus.log.toList =
      (r.reconcile h bus).bus.log.toList ++ (r.samples h bus).map .sample := by
  unfold samples
  rcases r.process_cases h bus with ⟨_, _, hr, _, hb⟩ | ⟨_, _, hr, _, hb⟩ | ⟨_, _, hr, _, hb⟩
  · rw [hb, hr]
    simp [reconcile]
  · rw [hb, hr]
    simp [reconcile]
  · rw [hb, hr, sendEach_log, if_pos rfl]
    rfl

/-- The messages of a cycle, sorted into those of its pass and its samples. -/
theorem process_sorted :
    announcementsIn ((r.process h bus).bus.since bus) = (r.reconcile h bus).bus.since bus ∧
      framesIn ((r.process h bus).bus.since bus) = r.samples h bus := by
  obtain ⟨front, after, hlog⟩ := r.reconcile_log h bus
  have hprocess := r.process_log h bus
  have hframes := framesIn_replacements h front after
  rw [hlog, List.append_assoc] at hprocess
  rw [Bus.since_eq hprocess, Bus.since_eq hlog]
  constructor
  · rw [announcementsIn_append, announcementsIn_map_sample, List.append_nil,
      announcementsIn_eq_self hframes]
  · rw [framesIn_append, hframes, framesIn_map_sample, List.nil_append]

/-- Every cycle counts as one pass, also one that fails or that sends nothing. -/
theorem cycles_process : (r.process h bus).state.stats.cycles = r.stats.cycles + 1 := by
  rcases r.process_cases h bus with ⟨_, _, _, hs, _⟩ | ⟨_, _, _, hs, _⟩ | ⟨_, _, _, hs, _⟩ <;>
    rw [hs] <;> rfl

/-- A cycle that sends is counted once, and one that skips or fails is not counted. -/
theorem sends_process : (r.process h bus).state.stats.sends =
    r.stats.sends + if (r.process h bus).result = .ok true then 1 else 0 := by
  rcases r.process_cases h bus with ⟨_, _, hr, hs, _⟩ | ⟨_, _, hr, hs, _⟩ | ⟨_, _, hr, hs, _⟩ <;>
    rw [hs, hr] <;> rfl

/-- A cycle fails like its pass; otherwise the throttle says whether it sends. -/
theorem result_process : (r.process h bus).result =
    (r.reconcile h bus).result.map fun _ => r.throttle.tick.1 := by
  cases hr : (r.reconcile h bus).result with
  | error error =>
    rw [r.process_of_reconcile_error h bus hr]
    rfl
  | ok done =>
    rw [r.process_of_reconcile_ok h bus hr]
    change (if r.throttle.tick.1 = true then _ else _ : Outcome Registry Bool).result = _
    cases ht : r.throttle.tick.1 <;> simp [Except.map]

/-- Sending opens no stream, so a cycle uses up the identities that its pass uses up. -/
theorem nextId_process : (r.process h bus).bus.nextId = (r.reconcile h bus).bus.nextId := by
  rcases r.process_cases h bus with ⟨_, _, _, _, hb⟩ | ⟨_, _, _, _, hb⟩ | ⟨_, _, _, _, hb⟩
  · rw [hb]
    rfl
  · rw [hb]
    rfl
  · rw [hb, sendEach_nextId]
    rfl

end Registry

/-- Adapters that read the same elements for streams that stand for each other. The streams may
have sent different samples. -/
structure Adapter.Alike (ρ : Renaming) (a a' : Adapter) : Prop where
  /-- The streams stand for each other. -/
  stream : (a.outlet.id, a'.outlet.id) ∈ ρ.pairs
  /-- The metadata of the streams are the same. -/
  info : a'.outlet.info = a.outlet.info
  /-- Both read at the same place. -/
  address : a'.address = a.address
  /-- Both read as many elements. -/
  count : a'.count = a.count
  /-- Both make the same values of them. -/
  layout : a'.layout = a.layout

/-- Registries that have followed their variables alike, whatever they have sent. -/
structure Registry.Alike (ρ : Renaming) (r r' : Registry) : Prop where
  /-- The adapters have the same names and read the same elements. -/
  adapters : List.Forall₂ (fun entry entry' => entry'.1 = entry.1 ∧ entry.2.Alike ρ entry'.2)
    r.adapters r'.adapters
  /-- There were as many passes. -/
  cycles : r'.stats.cycles = r.stats.cycles
  /-- As many adapters have followed moved memory. -/
  repoints : r'.stats.repoints = r.stats.repoints
  /-- As many streams were replaced. -/
  rebuilds : r'.stats.rebuilds = r.stats.rebuilds

/-- The same values of streams that stand for each other. The samples may have other numbers
and time stamps. -/
structure SampleFrame.Alike (ρ : Renaming) (frame frame' : SampleFrame) : Prop where
  /-- The streams stand for each other. -/
  stream : (frame.id, frame'.id) ∈ ρ.pairs
  /-- The names are the same. -/
  name : frame'.name = frame.name
  /-- The values are the same. -/
  values : frame'.values = frame.values

/-- The first cycle is like the second, except that it sends the samples only if they are due. -/
structure Report.Thins (ρ : Renaming) (due : Bool) (report report' : Report) : Prop where
  /-- Both fail with the same error, or both succeed; then the first sends if it is due. -/
  result : report.result = report'.result.map fun _ => due
  /-- The second sends whenever it succeeds. -/
  unthinned : ∀ sends, report'.result = .ok sends → sends = true
  /-- The streams that are opened and closed are the same. -/
  announcements : SameMessages ρ (announcementsIn report.messages)
    (announcementsIn report'.messages)
  /-- If they are due, the samples are the same. -/
  sends : due = true →
    List.Forall₂ (SampleFrame.Alike ρ) (framesIn report.messages) (framesIn report'.messages)
  /-- Otherwise the first cycle sends none. -/
  skips : due = false → framesIn report.messages = []

section Alike

variable {ρ ρ₁ : Renaming} {h : Host} {b b' : Bus}

/-- Adapters that are twins are twins without what they have sent: names, streams and elements still
stand for each other. -/
theorem TwinAdapters.unsentAll {compared : String → Bool} {l l' : List (String × Adapter)}
    (ht : TwinAdapters compared ρ l l') :
    TwinAdapters compared ρ (unsentAll l) (unsentAll l') := by
  induction ht with
  | nil => exact .nil
  | @both name a a' _ _ hc ha _ ih =>
    have hunsent : a.unsent.Twin ρ a'.unsent :=
      ⟨⟨ha.outlet.id, ha.outlet.info, rfl⟩, ha.address, ha.count, ha.layout⟩
    exact .both hc hunsent ih
  | alone a hc _ ih => exact .alone _ hc ih

/-- Twins would be twins if neither had sent anything: what they have sent is not what ties them. -/
theorem Registry.Twin.unsent {r r' : Registry} (ht : r.Twin allNames ρ r') :
    r.unsent.Twin allNames ρ r'.unsent := by
  have hstats := ht.counts fun _ _ => rfl
  refine ⟨ht.sound.unsent, ht.adapters.unsentAll, ht.context, rfl, ht.cycles, rfl, fun _ => ?_⟩
  simp only [Registry.unsent, hstats]

/-- Adapters that would be twins, had they sent as much, read the same elements and send them under
one name. -/
theorem forall₂_alike {l l' : List (String × Adapter)}
    (ht : TwinAdapters allNames ρ (unsentAll l) (unsentAll l')) :
    List.Forall₂ (fun entry entry' => entry'.1 = entry.1 ∧ entry.2.Alike ρ entry'.2) l l' := by
  induction l generalizing l' with
  | nil =>
    cases l' with
    | nil => exact .nil
    | cons _ _ => cases ht
  | cons entry rest ih =>
    cases l' with
    | nil =>
      cases ht with
      | alone _ hc _ => cases hc
    | cons entry' rest' =>
      obtain ⟨name, a⟩ := entry
      obtain ⟨name', a'⟩ := entry'
      cases ht with
      | both _ ha hrest =>
        exact .cons ⟨rfl, ha.outlet.id, ha.outlet.info, ha.address, ha.count, ha.layout⟩
          (ih hrest)
      | alone _ hc _ => cases hc

/-- Registries that differ only in what they have sent have followed their variables alike, which is
all that can be observed of them but the samples. -/
theorem Registry.alike_of_unsent {r r' : Registry} (ht : r.unsent.Twin allNames ρ r'.unsent) :
    r.Alike ρ r' := by
  have hstats : r'.unsent.stats = r.unsent.stats := ht.counts fun _ _ => rfl
  have hrepoints := congrArg Stats.repoints hstats
  have hrebuilds := congrArg Stats.rebuilds hstats
  exact ⟨forall₂_alike ht.adapters, ht.cycles, hrepoints, hrebuilds⟩

/-- Alike adapters make the same values of the same memory, at whatever times they are asked. -/
theorem Adapter.Alike.frame {a a' : Adapter} (ha : a.Alike ρ a') (m : Memory)
    (now now' : Time.Instant) : (a.frame m now).Alike ρ (a'.frame m now') := by
  refine ⟨ha.stream, congrArg StreamInfo.name ha.info, ?_⟩
  change a'.values m = a.values m
  unfold values
  rw [ha.address, ha.count, ha.layout]

/-- Samples that are alike stay so when more streams stand for each other, since no pair is taken
back. -/
theorem SampleFrame.Alike.mono {frame frame' : SampleFrame} (h : frame.Alike ρ frame')
    (hs : ρ.pairs ⊆ ρ₁.pairs) : frame.Alike ρ₁ frame' :=
  ⟨hs h.stream, h.name, h.values⟩

/-- Registries that are alike stay so when more streams stand for each other, since no pair is taken
back. -/
theorem Registry.Alike.mono {r r' : Registry} (h : r.Alike ρ r') (hs : ρ.pairs ⊆ ρ₁.pairs) :
    r.Alike ρ₁ r' :=
  ⟨h.adapters.imp fun _ _ he =>
    ⟨he.1, hs he.2.stream, he.2.info, he.2.address, he.2.count, he.2.layout⟩,
    h.cycles, h.repoints, h.rebuilds⟩

/-- A cycle that thins out another one goes on to do so when more streams stand for each other. -/
theorem Report.Thins.mono {due : Bool} {report report' : Report}
    (h : report.Thins ρ due report') (hs : ρ.pairs ⊆ ρ₁.pairs) : report.Thins ρ₁ due report' :=
  ⟨h.result, h.unthinned, h.announcements.mono hs,
    fun hd => (h.sends hd).imp fun _ _ hf => hf.mono hs, h.skips⟩

end Alike

/-- How many of these cycles have succeeded. -/
def successes (reports : List Report) : Nat := reports.countP fun report => report.result.isOk

namespace Registry

/-- A registry that skips is built like one that does not. Only its throttle is another one. -/
theorem build_skip (h : Host) (names : List String) (context : StreamContext) (skip : UInt32)
    (bus : Bus) : build h names context skip bus =
      ((build h names context 0 bus).1.map fun r => { r with throttle := .new skip },
        (build h names context 0 bus).2) := by
  unfold build
  cases resolveAll h names with
  | error error => rfl
  | ok found => cases hf : (openEach h context found.toList bus).failure <;> simp [hf, Except.map]

/-- A pass leaves registries alike, and their cycles differ in the samples that are not due. -/
theorem process_thins {r r' : Registry} {h : Host} {b b' : Bus} {ρ : Renaming} {n : ℕ}
    (hk : ρ.Known b b') (ht : r.unsent.Twin allNames ρ r'.unsent) (hphase : r.throttle.InPhase n)
    (hzero : r'.throttle = .new 0) :
    ∃ ρ₁, Lockstep allNames ρ b b' ρ₁ (r.reconcile h b).bus (r'.reconcile h b').bus ∧
      (r.process h b).state.unsent.Twin allNames ρ₁ (r'.process h b').state.unsent ∧
      Report.Thins ρ₁ (decide (r.skip.toNat + 1 ∣ n))
        ⟨(r.process h b).result, (r.process h b).bus.since b⟩
        ⟨(r'.process h b').result, (r'.process h b').bus.since b'⟩ := by
  obtain ⟨ρ₁, hstep, htwin, hresult⟩ := ht.reconcile (h := h) hk (.inr fun _ _ => rfl)
  rw [reconcile_unsent, reconcile_unsent] at hstep htwin hresult
  have hdue : r.throttle.tick.1 = decide (r.skip.toNat + 1 ∣ n) :=
    Bool.eq_iff_iff.mpr (hphase.tick_fst_iff.trans decide_eq_true_iff.symm)
  have halways : r'.throttle.tick.1 = true := by
    rw [hzero]
    rfl
  have hfirst := r.result_process h b
  have hsecond := r'.result_process h b'
  rw [hdue] at hfirst
  rw [hresult, halways] at hsecond
  refine ⟨ρ₁, hstep, ?_, ?_, ?_, ?_, ?_, ?_⟩
  · rw [unsent_process, unsent_process]
    exact htwin
  · rw [hfirst, hsecond]
    cases (r.reconcile h b).result <;> rfl
  · intro sends hs
    rw [hsecond] at hs
    cases hr : (r.reconcile h b).result with
    | error error => simp [hr, Except.map] at hs
    | ok done => simpa [hr, Except.map] using hs.symm
  · rw [(r.process_sorted h b).1, (r'.process_sorted h b').1]
    exact hstep.since_of_allNames
  · intro hd
    rw [(r.process_sorted h b).2, (r'.process_sorted h b').2, samples, samples, hfirst, hsecond,
      hd]
    split
    · rw [List.forall₂_map_left_iff, List.forall₂_map_right_iff]
      exact (forall₂_alike htwin.adapters).imp fun _ _ he => he.2.frame _ _ _
    · exact .nil
  · intro hd
    rw [(r.process_sorted h b).2, samples, hfirst, hd]
    cases (r.reconcile h b).result <;> simp [Except.map]

namespace Run

variable {skip : UInt32} {n : ℕ} {ρ : Renaming} {u u' : Run} {m m' : Moment}
  {moments history : List Moment}

/-- The run has had so many successful cycles and has sent in each whole round of them that it
has begun. -/
structure HasSucceeded (skip : UInt32) (n : ℕ) (u : Run) : Prop where
  /-- The skip interval of the registry. -/
  interval : u.registry.skip = skip
  /-- Its throttle has ticked in the successful cycles. -/
  phase : u.registry.throttle.InPhase n
  /-- The cycles that sent are counted. -/
  sends : u.registry.stats.sends = n ⌈/⌉ (skip.toNat + 1)

/-- A successful cycle is one more; it sends if whole rounds came before it. -/
theorem HasSucceeded.next (hu : u.HasSucceeded skip n) (m : Moment) :
    (u.next m).HasSucceeded skip (n + if (u.cycle m).result.isOk then 1 else 0) := by
  have hcount := u.registry.sends_process m.host { u.bus with now := m.now }
  have hkept : (u.next m).registry.skip = skip := (skip_process _ _ _).trans hu.interval
  unfold Run.next Run.cycle at *
  cases hr : (u.registry.process m.host { u.bus with now := m.now }).result with
  | error error =>
    rw [hr] at hcount
    refine ⟨hkept, ?_, hcount.trans hu.sends⟩
    rw [throttle_process_of_error _ _ _ hr]
    exact hu.phase
  | ok sends =>
    obtain ⟨hsends, hthrottle⟩ := throttle_process_of_ok _ _ _ hr
    have hdue : sends = true ↔ skip.toNat + 1 ∣ n := by
      rw [hsends, ← hu.interval]
      exact hu.phase.tick_fst_iff
    refine ⟨hkept, ?_, ?_⟩
    · rw [hthrottle]
      exact hu.phase.tick
    · change _ = (n + 1) ⌈/⌉ (skip.toNat + 1)
      rw [hcount, hr, hu.sends, ceilDiv_succ]
      simp only [Except.ok.injEq, hdue]

/-- The successes among the first cycles are one more if the first of them has succeeded. -/
theorem successes_take_succ (report : Report) (reports : List Report) (call : ℕ) :
    successes ((report :: reports).take (call + 1)) =
      (if report.result.isOk then 1 else 0) + successes (reports.take call) := by
  rw [List.take_succ_cons, successes, List.countP_cons, Nat.add_comm]
  rfl

/-- After more cycles the throttle has ticked once for each that has succeeded, and the rounds that
it has begun were all sent. -/
theorem HasSucceeded.after (hu : u.HasSucceeded skip n) (moments : List Moment) :
    (u.after moments).HasSucceeded skip (n + successes (u.reports moments)) := by
  induction moments generalizing u n with
  | nil => exact hu
  | cons m moments ih =>
    have hrest := ih (hu.next m)
    rw [Nat.add_assoc] at hrest
    rw [reports, successes, List.countP_cons, Nat.add_comm (List.countP _ _)]
    exact hrest

/-- Every cycle is counted as a pass, whether it sends, skips or fails. -/
theorem cycles_after (u : Run) (moments : List Moment) :
    (u.statsAfter moments).cycles = u.registry.stats.cycles + moments.length := by
  induction moments generalizing u with
  | nil => rfl
  | cons m moments ih =>
    have hfirst : (u.next m).registry.stats.cycles = u.registry.stats.cycles + 1 :=
      u.registry.cycles_process m.host { u.bus with now := m.now }
    change ((u.next m).statsAfter moments).cycles = _
    rw [ih, hfirst, List.length_cons, Nat.add_assoc, Nat.add_comm 1]

/-- The first run has had so many successful cycles, of which it skips some; the second never
skips. Apart from that they are alike. -/
structure Thins (skip : UInt32) (n : ℕ) (ρ : Renaming) (u u' : Run) : Prop where
  /-- The streams of the renaming were opened. -/
  known : ρ.Known u.bus u'.bus
  /-- The registries differ only in what they have sent. -/
  alike : u.registry.unsent.Twin allNames ρ u'.registry.unsent
  /-- The first has ticked in the successful cycles. -/
  progress : u.HasSucceeded skip n
  /-- The second does not skip. -/
  unthinned : u'.registry.throttle = .new 0

/-- Both runs can be started alike: if the one that skips can be built, so can the one that does
not. -/
theorem exists_thins_of_start {h : Host} {names : List String} {context : StreamContext}
    {bus : Bus} (hs : start h names context skip bus = .ok u) (bus' : Bus) :
    ∃ u' ρ, start h names context 0 bus' = .ok u' ∧ u.Thins skip 0 ρ u' ∧
      SameMessages ρ (u.bus.since bus) (u'.bus.since bus') := by
  obtain ⟨hb, hbus⟩ := of_start hs
  have hthrottle := throttle_of_build hb
  have hprogress : u.HasSucceeded skip 0 := by
    refine ⟨skip_of_build hb, ?_, ?_⟩
    · rw [hthrottle]
      exact Throttle.inPhase_new skip
    · rw [stats_of_start hs, zero_ceilDiv]
  rw [build_skip] at hb hbus
  cases hzero : (build h names context 0 bus).1 with
  | error error => simp [hzero, Except.map] at hb
  | ok r =>
    simp only [hzero, Except.map, Except.ok.injEq] at hb
    have hsame : u.registry.unsent = r.unsent := by
      rw [← hb]
      rfl
    obtain ⟨r', ρ, hr', hstep, htwin⟩ := exists_twin_of_build (fun _ => Iff.rfl) hzero bus'
    rw [hbus] at hstep
    refine ⟨⟨r', (build h names context 0 bus').2⟩, ρ, ?_, ⟨hstep.known, ?_, hprogress, ?_⟩,
      hstep.since_of_allNames⟩
    · rw [start, hr']
      rfl
    · rw [hsame]
      exact htwin.unsent
    · exact throttle_of_build hr'

/-- A cycle takes alike runs to alike runs, and the first cycle is like the second up to the
samples that are not due. -/
theorem Thins.next (ht : u.Thins skip n ρ u') (hm : m'.host = m.host) :
    ∃ ρ₁, ρ.pairs ⊆ ρ₁.pairs ∧
      (u.next m).Thins skip (n + if (u.cycle m).result.isOk then 1 else 0) ρ₁ (u'.next m') ∧
      Report.Thins ρ₁ (decide (skip.toNat + 1 ∣ n))
        ⟨(u.cycle m).result, (u.cycle m).bus.since u.bus⟩
        ⟨(u'.cycle m').result, (u'.cycle m').bus.since u'.bus⟩ := by
  have hk : ρ.Known { u.bus with now := m.now } { u'.bus with now := m'.now } := ht.known
  obtain ⟨ρ₁, hstep, halike, hreport⟩ :=
    process_thins (h := m.host) hk ht.alike ht.progress.phase ht.unthinned
  have hskip : u.registry.throttle.skip = skip := ht.progress.interval
  have hprogress := ht.progress.next m
  unfold Run.next Run.cycle at *
  rw [hm]
  refine ⟨ρ₁, hstep.grows, ⟨?_, halike, hprogress, ?_⟩, ?_⟩
  · intro p hp
    rw [nextId_process, nextId_process]
    exact hstep.known p hp
  · cases hr : (u'.registry.process m.host { u'.bus with now := m'.now }).result with
    | error error =>
      rw [throttle_process_of_error _ _ _ hr]
      exact ht.unthinned
    | ok sends =>
      rw [(throttle_process_of_ok _ _ _ hr).2, ht.unthinned]
      rfl
  · rw [← hskip]
    exact hreport

/-- Call by call, alike runs over one history report the same up to the samples that are not due,
and stay alike. -/
theorem Thins.run (ht : u.Thins skip n ρ u')
    (hh : List.Forall₂ (fun m m' => m'.host = m.host) moments history) :
    ∃ ρ₁, ρ.pairs ⊆ ρ₁.pairs ∧
      (∀ (call : ℕ) (report report' : Report), (u.reports moments)[call]? = some report →
        (u'.reports history)[call]? = some report' →
        report.Thins ρ₁
          (decide (skip.toNat + 1 ∣ n + successes ((u.reports moments).take call))) report') ∧
      ∀ calls, (u.after (moments.take calls)).registry.Alike ρ₁
        (u'.after (history.take calls)).registry := by
  -- the renaming of the whole run is that of its last cycle, and every earlier one is part of it
  induction hh generalizing u u' ρ n with
  | nil =>
    refine ⟨ρ, fun _ hp => hp, ?_, ?_⟩
    · intro call report report' hr
      cases hr
    · intro calls
      simp only [List.take_nil]
      exact alike_of_unsent ht.alike
  | @cons m m' moments history hm _ ih =>
    obtain ⟨ρ₁, hstep, hnext, hreport⟩ := ht.next hm
    obtain ⟨ρ₂, hgrows, hreports, halike⟩ := ih hnext
    refine ⟨ρ₂, fun _ hp => hgrows (hstep hp), ?_, ?_⟩
    · intro call report report' hr hr'
      cases call with
      | zero =>
        obtain rfl := Option.some.inj hr
        obtain rfl := Option.some.inj hr'
        exact hreport.mono hgrows
      | succ call =>
        have hrest := hreports call report report' hr hr'
        rw [Nat.add_assoc] at hrest
        rw [reports, successes_take_succ]
        exact hrest
    · intro calls
      cases calls with
      | zero => exact (alike_of_unsent ht.alike).mono fun _ hp => hgrows (hstep hp)
      | succ calls => exact halike calls

/-- A registry that skips cycles can be built exactly as one for the same names that never skips,
and over the same history, whatever happens to the space, both run alike call by call: they fail
with the same error or both succeed, open and close the same streams up to identities, and
cache the same addresses, counts and types. The registry that skips sends the samples of the
other one in those successful calls whose number is divisible by one more than its skip interval,
and none in the others. So it counts all its calls as passes and has sent in every whole round of
successful calls that it has begun. -/
theorem throttling_only_thins_out {h : Host} {names : List String} {context : StreamContext}
    {bus : Bus} (hs : start h names context skip bus = .ok u) (bus' : Bus)
    (hh : List.Forall₂ (fun m m' => m'.host = m.host) moments history) :
    (∃ u' ρ, start h names context 0 bus' = .ok u' ∧
      SameMessages ρ (u.bus.since bus) (u'.bus.since bus') ∧
      (∀ (call : ℕ) (report report' : Report), (u.reports moments)[call]? = some report →
        (u'.reports history)[call]? = some report' →
        report.Thins ρ
          (decide (skip.toNat + 1 ∣ successes ((u.reports moments).take call))) report') ∧
      ∀ calls, (u.after (moments.take calls)).registry.Alike ρ
        (u'.after (history.take calls)).registry) ∧
    (u.statsAfter moments).cycles = moments.length ∧
    (u.statsAfter moments).sends = successes (u.reports moments) ⌈/⌉ (skip.toNat + 1) := by
  obtain ⟨u', ρ, hs', hthins, hbuilt⟩ := exists_thins_of_start hs bus'
  obtain ⟨ρ₁, hgrows, hreports, halike⟩ := hthins.run hh
  have hsends := (hthins.progress.after moments).sends
  have hcycles := u.cycles_after moments
  rw [stats_of_start hs, Nat.zero_add] at hcycles
  simp only [Nat.zero_add] at hreports hsends
  exact ⟨⟨u', ρ₁, hs', hbuilt.mono hgrows, hreports, halike⟩, hcycles, hsends⟩

/-- The level vanishes for the second cycle and comes back elsewhere for the third, which is
skipped; the failed cycle does not count, so the fourth one sends. -/
theorem throttling_of_returning_level :
    let context : StreamContext := ⟨.ofNat 10, "desk"⟩
    let before := (Space.empty.insert "level" (.int32 [7])).insert "gain" (.int32 [3])
    let without := (before.remove "level").2
    let after := without.insert "level" (.int32 [8])
    let moments : List Moment :=
      [before, without, after, after].map fun s => ⟨.ofSpace s, .epoch⟩
    ∃ u, start (.ofSpace before) ["level", "gain"] context 1 (.new 4) = .ok u ∧
      (u.reports moments).map Report.result =
        [.ok true, .error (.missingVariable "level"), .ok false, .ok true] ∧
      (∃ u' ρ, start (.ofSpace before) ["level", "gain"] context 0 (.new 8) = .ok u' ∧
        ∀ calls, (u.after (moments.take calls)).registry.Alike ρ
          (u'.after (moments.take calls)).registry) ∧
      (u.statsAfter moments).cycles = 4 ∧ (u.statsAfter moments).sends = 2 := by
  intro context before without after moments
  let built := build (.ofSpace before) ["level", "gain"] context 1 (.new 4)
  let u : Run := ⟨built.1.toOption.getD default, built.2⟩
  have hbuilt : built.1 = .ok u.registry := by
    unfold u built before context
    decide +kernel
  have hs : start (.ofSpace before) ["level", "gain"] context 1 (.new 4) = .ok u := by
    unfold start
    rw [hbuilt]
    rfl
  have hresults : (u.reports moments).map Report.result =
      [.ok true, .error (.missingVariable "level"), .ok false, .ok true] := by
    unfold moments after without u built before context
    decide +kernel
  have hsuccesses : successes (u.reports moments) = 3 := by
    unfold moments after without u built before context
    decide +kernel
  have hsame : List.Forall₂ (fun m m' : Moment => m'.host = m.host) moments moments :=
    List.forall₂_same.mpr fun _ _ => rfl
  obtain ⟨⟨u', ρ, hs', _, _, halike⟩, hcycles, hsends⟩ :=
    throttling_only_thins_out hs (.new 8) hsame
  rw [hsuccesses] at hsends
  exact ⟨u, hs, hresults, ⟨u', ρ, hs', halike⟩, hcycles, hsends⟩

end Run

end Registry

end VariableBridge
