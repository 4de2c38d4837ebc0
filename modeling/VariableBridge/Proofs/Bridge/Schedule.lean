import Mathlib.Algebra.Order.Floor.Div
import VariableBridge.Proofs.Bridge.Agreement
import VariableBridge.Proofs.Bridge.Rejection

/-!
# The schedule of samples

Safety check, hand-over, switch, reconciliation and throttle all stand in front of a
sample. Main statements: a throttle sends at the ticks whose number is divisible by
one more than its skip interval; a cycle of a running bridge counts as a tick exactly
if it succeeds while sending is switched on, and the count begins anew with each
registry that is adopted; a change of parameters is adopted by the next cycle.
-/

namespace VariableBridge

namespace Throttle

/-- Has the throttle made so many ticks since it was new? The ticks that are left to skip
fill the number up to the next one that sends. -/
structure InPhase (t : Throttle) (n : Nat) : Prop where
  /-- Ticks made and ticks left to skip are whole rounds. -/
  whole : t.skip.toNat + 1 ∣ n + t.remaining.toNat
  /-- Less than a round is left. -/
  bounded : t.remaining.toNat ≤ t.skip.toNat

/-- A new throttle has counted nothing, so it is at the beginning of a round and the next tick
sends. -/
theorem inPhase_new (skip : UInt32) : (new skip).InPhase 0 :=
  ⟨Nat.dvd_zero _, Nat.zero_le _⟩

variable {t : Throttle} {n : Nat}

/-- The ticks that send are those whose number is divisible by the length of a round. -/
theorem InPhase.tick_fst_iff (h : t.InPhase n) : t.tick.1 = true ↔ t.skip.toNat + 1 ∣ n := by
  rw [tick_fst, decide_eq_true_eq]
  have hwhole := h.whole
  have hbounded := h.bounded
  constructor
  · intro hz
    rw [hz] at hwhole
    exact hwhole
  · intro hn
    have hr : t.skip.toNat + 1 ∣ t.remaining.toNat := (Nat.dvd_add_right hn).mp hwhole
    have hzero : t.remaining.toNat = 0 := Nat.eq_zero_of_dvd_of_lt hr (by omega)
    exact UInt32.toNat.inj hzero

/-- Each tick brings a throttle one step on, whether it sends or not: the ticks made and those left
still fill whole rounds. -/
theorem InPhase.tick (h : t.InPhase n) : t.tick.2.InPhase (n + 1) := by
  have hwhole := h.whole
  have hbounded := h.bounded
  by_cases hz : t.remaining = 0
  · have hn : t.skip.toNat + 1 ∣ n := by
      rw [hz] at hwhole
      exact hwhole
    have ht : t.tick.2 = { t with remaining := t.skip } := by
      unfold Throttle.tick
      rw [if_pos hz]
    rw [ht]
    refine ⟨?_, Nat.le_refl _⟩
    have hround : n + 1 + t.skip.toNat = n + (t.skip.toNat + 1) := by omega
    rw [hround]
    exact Nat.dvd_add hn (Nat.dvd_refl _)
  · have ht : t.tick.2 = { t with remaining := t.remaining - 1 } := by
      unfold Throttle.tick
      rw [if_neg hz]
    have hpos : 0 < t.remaining.toNat := by
      apply Nat.pos_of_ne_zero
      intro hzero
      exact hz (UInt32.toNat.inj hzero)
    have hless : (t.remaining - 1).toNat = t.remaining.toNat - 1 := by
      rw [UInt32.toNat_sub_of_le t.remaining 1 (by rw [UInt32.le_iff_toNat_le]; exact hpos)]
      rfl
    rw [ht]
    constructor
    · have hsame : n + 1 + (t.remaining - 1).toNat = n + t.remaining.toNat := by omega
      rw [hsame]
      exact hwhole
    · change (t.remaining - 1).toNat ≤ t.skip.toNat
      omega

end Throttle

/-- One more tick sends if it begins a round: of any number of ticks, those that send are the
rounds that have begun. -/
theorem ceilDiv_succ (n k : Nat) :
    (n + 1) ⌈/⌉ (k + 1) = n ⌈/⌉ (k + 1) + if k + 1 ∣ n then 1 else 0 := by
  have hround : k + 1 ∣ n + k + 1 ↔ k + 1 ∣ n := by
    rw [Nat.add_assoc, Nat.dvd_add_self_right]
  change (n + 1 + k) / (k + 1) = (n + k) / (k + 1) + _
  rw [Nat.add_right_comm, Nat.succ_div]
  simp only [hround]

namespace Registry

/-- A registry that was built has a new throttle, so its first cycle sends. -/
theorem throttle_of_build {h : Host} {names : List String} {context : StreamContext}
    {skip : UInt32} {bus : Bus} {r : Registry} (hb : (build h names context skip bus).1 = .ok r) :
    r.throttle = .new skip := by
  obtain ⟨found, _, _, rfl, _⟩ := of_build hb
  rfl

variable (r : Registry) (h : Host) (bus : Bus)

/-- A cycle that fails does not tick, so the next one that succeeds is due if this one was. -/
theorem throttle_process_of_error {error : BridgeError}
    (hr : (r.process h bus).result = .error error) :
    (r.process h bus).state.throttle = r.throttle := by
  rcases r.process_cases h bus with ⟨_, _, _, hs, _⟩ | ⟨_, _, hok, _⟩ | ⟨_, _, hok, _⟩
  · rw [hs]
    rfl
  · simp [hok] at hr
  · simp [hok] at hr

/-- A cycle that succeeds ticks once, and sends if the tick says so. -/
theorem throttle_process_of_ok {sends : Bool} (hr : (r.process h bus).result = .ok sends) :
    sends = r.throttle.tick.1 ∧ (r.process h bus).state.throttle = r.throttle.tick.2 := by
  rcases r.process_cases h bus with ⟨_, _, hfails, _⟩ | ⟨_, ht, hok, hs, _⟩ | ⟨_, ht, hok, hs, _⟩
  · simp [hfails] at hr
  · rw [hok] at hr
    rw [hs, ht]
    exact ⟨(Except.ok.inj hr).symm, rfl⟩
  · rw [hok] at hr
    rw [hs, ht]
    exact ⟨(Except.ok.inj hr).symm, rfl⟩

/-- A registry with a name publishes samples in the cycles that say so, and in no others. -/
theorem process_samples_iff (hn : r.names ≠ []) :
    ∃ published, (r.process h bus).bus.log.toList = bus.log.toList ++ published ∧
      (framesIn published ≠ [] ↔ (r.process h bus).result = .ok true) := by
  cases hs : (r.process h bus).result with
  | error error =>
    obtain ⟨front, stopped, rest, after, _, _, _, _, _, hlog⟩ := process_fails h bus hs
    exact ⟨_, hlog, by simp⟩
  | ok sends =>
    cases sends with
    | false => exact ⟨_, process_skips h bus hs, by simp⟩
    | true =>
      obtain ⟨ready, now, hready, hlog⟩ := process_sends h bus hs
      rw [List.append_assoc] at hlog
      refine ⟨_, hlog, ?_⟩
      have hne : ready ≠ [] := by
        rintro rfl
        apply hn
        rw [← names_process r h bus, names, hready]
        rfl
      rw [framesIn_append, framesIn_replacements, List.nil_append, framesIn_map_sample]
      simpa using hne

end Registry

namespace Plugin

/-- Does a cycle pass the safety check and swap the pending registry in? -/
def adopts (p : Plugin) : Bool :=
  match p.check.1 with
  | .error _ => false
  | .ok () => (p.control.slot.poll p.current).1

/-- The registry that a cycle uses. -/
def inUse (p : Plugin) : Option Registry := if p.adopts then p.control.slot.pending else p.current

variable (p : Plugin) (h : Host) (bus : Bus)

/-- A pending registry is adopted if the place for the old one is free. -/
theorem adopts_of_pending (hc : p.check.1 = .ok ()) (hs : p.control.slot.pending.isSome = true)
    (hfree : p.control.slot.retired = none) : p.adopts = true := by
  obtain ⟨r, hr⟩ := Option.isSome_iff_exists.mp hs
  unfold adopts Slot.poll
  simp only [hc, hr, hfree]

/-- What is adopted was pending, and nothing stays pending. A cycle adopts only if it passes its
check. -/
theorem of_adopts (ha : p.adopts = true) :
    p.check.1 = .ok () ∧ ∃ r, p.control.slot = ⟨some r, none⟩ := by
  unfold adopts at ha
  cases hc : p.check.1 with
  | error error => simp [hc] at ha
  | ok checked =>
    obtain ⟨⟨settings, shape, active, ⟨pending, retired⟩⟩, current, gate, probe, thread, probing⟩ :=
      p
    cases pending with
    | none => simp [hc, Slot.poll] at ha
    | some r =>
      cases retired with
      | none => exact ⟨rfl, r, rfl⟩
      | some old => simp [hc, Slot.poll] at ha

/-- What a cycle that passes its check has in use is the pending registry if it can adopt one, else
the old one. -/
theorem current_adopt (hc : p.check.1 = .ok ()) : p.check.2.adopt.current = p.inUse := by
  unfold inUse adopts
  simp only [hc]
  obtain ⟨⟨settings, shape, active, ⟨pending, retired⟩⟩, current, gate, probe, thread, probing⟩ := p
  unfold adopt
  simp only [control_check, current_check]
  cases pending with
  | none => rfl
  | some r => cases retired <;> rfl

/-- A cycle while sending is switched off only adopts: it neither reconciles nor ticks, and the bus
is left alone. -/
theorem process_of_inactive (hc : p.check.1 = .ok ()) (ha : p.control.active = false) :
    p.process h bus = ⟨.ok (), p.check.2.adopt, bus⟩ := by
  have hactive : p.check.2.adopt.control.active = false := by
    rw [← ha, ← p.control_check]
    rfl
  rw [p.process_of_ok h bus hc, hactive]
  rfl

/-- A cycle while sending is switched on is a cycle of the registry in use. -/
theorem process_of_active (hc : p.check.1 = .ok ()) (ha : p.control.active = true)
    {r : Registry} (hr : p.inUse = some r) :
    p.process h bus =
      ⟨(r.process h bus).result.map fun _ => (),
        { p.check.2.adopt with current := some (r.process h bus).state },
        (r.process h bus).bus⟩ := by
  have hactive : p.check.2.adopt.control.active = true := by
    rw [← ha, ← p.control_check]
    rfl
  have hcurrent : p.check.2.adopt.current = some r := (p.current_adopt hc).trans hr
  rw [p.process_of_ok h bus hc, hactive, hcurrent]
  rfl

/-- A cycle ticks the throttle of the registry that it uses if it succeeds while sending is
switched on, and leaves it alone otherwise. -/
theorem throttle_process {r : Registry} (hr : p.inUse = some r) :
    (p.process h bus).state.current.map Registry.throttle =
      some (if (p.process h bus).result.isOk && p.control.active then r.throttle.tick.2
        else r.throttle) := by
  cases hc : p.check.1 with
  | error error =>
    have hadopts : p.adopts = false := by
      unfold adopts
      rw [hc]
    rw [inUse, hadopts] at hr
    rw [p.process_of_error h bus hc, current_check]
    simp only [Bool.false_eq_true, if_false] at hr
    rw [hr]
    rfl
  | ok checked =>
    cases hactive : p.control.active with
    | false =>
      rw [p.process_of_inactive h bus hc hactive, p.current_adopt hc, hr]
      rfl
    | true =>
      rw [p.process_of_active h bus hc hactive hr]
      cases hresult : (r.process h bus).result with
      | error error => exact congrArg some (r.throttle_process_of_error h bus hresult)
      | ok sends => exact congrArg some (r.throttle_process_of_ok h bus hresult).2

/-- Is the registry in use at its tick with this number, and a pending one at its first? -/
structure InPhase (p : Plugin) (n : Nat) : Prop where
  /-- The registry that cycles use. -/
  current : ∀ r, p.current = some r → r.throttle.InPhase n
  /-- The registry that waits for the next cycle. -/
  pending : ∀ r, p.control.slot.pending = some r → r.throttle.InPhase 0

variable {p} {p' : Plugin} {n : Nat} {span : Span} {h bus}

/-- The phase is seen from the registries in use and pending, so other controls may change. -/
theorem InPhase.congr (hp : p.InPhase n) (hcurrent : p'.current = p.current)
    (hpending : p'.control.slot.pending = p.control.slot.pending) : p'.InPhase n :=
  ⟨hcurrent ▸ hp.current, hpending ▸ hp.pending⟩

/-- A registry is at its first tick when it is adopted, and one that stays in use goes on with its
round. -/
theorem InPhase.inUse (hp : p.InPhase n) {r : Registry} (hr : p.inUse = some r) :
    r.throttle.InPhase (if p.adopts then 0 else n) := by
  unfold Plugin.inUse at hr
  cases ha : p.adopts with
  | true =>
    rw [ha, if_pos rfl] at hr
    exact hp.pending r hr
  | false =>
    simp only [ha, Bool.false_eq_true, if_false] at hr
    exact hp.current r hr

/-- A registry that was built for changed settings is at the beginning of a round, like any other
new one. -/
theorem throttle_of_buildRegistry {settings : Settings} {shape : Shape} {r : Registry}
    (hb : (Control.buildRegistry h settings shape bus).1 = .ok r) : r.throttle.InPhase 0 := by
  rw [Registry.throttle_of_build hb]
  exact Throttle.inPhase_new settings.skip

/-- A running bridge has a registry to use, in the cycle that adopts another one as well. -/
theorem IsRunning.exists_inUse (hp : p.IsRunning span) : ∃ r, p.inUse = some r := by
  unfold Plugin.inUse
  cases ha : p.adopts with
  | true =>
    obtain ⟨_, r, hr⟩ := p.of_adopts ha
    exact ⟨r, by rw [hr]; rfl⟩
  | false => exact Option.isSome_iff_exists.mp hp.current

/-- A cycle that passes the safety check uses the newest registry. -/
theorem IsRunning.inUse_eq_newest (hp : p.IsRunning span) (hc : p.check.1 = .ok ()) :
    p.inUse = p.newest := by
  unfold Plugin.inUse newest
  cases hs : p.control.slot.pending with
  | some r =>
    have hsome : p.control.slot.pending.isSome = true := by rw [hs]; rfl
    have hretired : p.control.slot.retired = none :=
      hp.free.resolve_left (by rw [hs]; exact Option.some_ne_none r)
    rw [p.adopts_of_pending hc hsome hretired, if_pos rfl]
    rfl
  | none =>
    cases ha : p.adopts with
    | false => rfl
    | true =>
      obtain ⟨_, r, hr⟩ := p.of_adopts ha
      rw [hr] at hs
      cases hs

end Plugin

/-- What the schedule needs to know of a cycle. -/
structure CycleMark where
  /-- Did the cycle swap a registry in? -/
  adopted : Bool
  /-- Did the cycle succeed while sending was switched on? -/
  counted : Bool

/-- The cycles since the last one that swapped a registry in, that one included. The latest
cycle stands in front. -/
def sinceAdoption : List CycleMark → List CycleMark
  | [] => []
  | mark :: earlier => if mark.adopted then [mark] else mark :: sinceAdoption earlier

/-- Number of cycles that count since the last adoption. -/
def countSinceAdoption (marks : List CycleMark) : Nat :=
  (sinceAdoption marks).countP CycleMark.counted

/-- Counting starts again with each adoption, and the cycle that adopts counts as the first of the
new round. -/
theorem countSinceAdoption_cons (mark : CycleMark) (marks : List CycleMark) :
    countSinceAdoption (mark :: marks) =
      (if mark.adopted then 0 else countSinceAdoption marks) + mark.counted.toNat := by
  unfold countSinceAdoption
  rw [sinceAdoption]
  obtain ⟨adopted, counted⟩ := mark
  cases adopted <;> cases counted <;> simp

namespace Session

/-- The messages that a call publishes. -/
def published (s : Session) (t : Turn) : List BusMessage :=
  (s.perform t).bus.log.toList.drop s.bus.log.size

/-- The samples that a call publishes. -/
def samples (s : Session) (t : Turn) : List SampleFrame := framesIn (s.published t)

/-- The mark of a cycle. -/
def mark (s : Session) (t : Turn) : CycleMark :=
  ⟨s.plugin.adopts, (s.outcome t).result.isOk && s.plugin.control.settings.activate⟩

/-- The marks of the cycles among calls in front of earlier marks, the latest first. -/
def marksAfter (s : Session) (earlier : List CycleMark) : List Turn → List CycleMark
  | [] => earlier
  | t :: turns =>
    (s.perform t).marksAfter (if t.call = .process then s.mark t :: earlier else earlier) turns

/-- What a call publishes is what stands in the log behind the messages that were there before. -/
theorem published_eq {s : Session} {t : Turn} {ms : List BusMessage}
    (h : (s.perform t).bus.log.toList = s.bus.log.toList ++ ms) : s.published t = ms := by
  rw [published, h, ← Array.length_toList, List.drop_left]

/-- Marks of later cycles stand in front of the earlier ones and do not depend on them. -/
theorem marksAfter_eq_append (s : Session) (earlier : List CycleMark) (turns : List Turn) :
    s.marksAfter earlier turns = s.marksAfter [] turns ++ earlier := by
  induction turns generalizing s earlier with
  | nil => rfl
  | cons t turns ih =>
    rw [marksAfter, marksAfter, ih, ih _ (if t.call = .process then [s.mark t] else [])]
    split
    · rw [List.append_assoc]
      rfl
    · rw [List.append_nil]

/-- Is the call a change of a parameter that shows in the streams to another value? -/
def Changes (s : Session) (t : Turn) : Prop :=
  (∃ skip, t.call = .setSkip skip ∧ skip ≠ s.plugin.control.settings.skip) ∨
    ∃ sourceId, t.call = .setSourceId sourceId ∧ sourceId ≠ s.plugin.control.settings.sourceId

variable {s : Session} {span : Span} {t : Turn} {marks : List CycleMark}

/-- Any call but a cycle and a release leaves the current registry alone, and so the one that
waits, or lets a new one wait. -/
theorem Agrees.steered_cases (ha : s.Agrees) (hs : s.span = some span)
    (hcycle : t.call ≠ .process) (hrelease : t.call ≠ .release) :
    (s.perform t).plugin.current = s.plugin.current ∧
      ((s.perform t).plugin.control.slot.pending = s.plugin.control.slot.pending ∨
        ∃ r, (s.perform t).plugin.control.slot.pending = some r ∧ r.throttle.InPhase 0) := by
  have hupdate (h : Host) (next : Settings) (bus : Bus) :
      let c := (s.plugin.control.update h next bus).state
      c.slot.pending = s.plugin.control.slot.pending ∨
        ∃ r, c.slot.pending = some r ∧ r.throttle.InPhase 0 := by
    intro c
    rcases s.plugin.control.update_cases h next bus with ⟨_, hu⟩ | ⟨_, hu⟩ | ⟨_, _, _, _, hu⟩ |
      ⟨shape, r, _, hb, hu⟩
    · left
      simp only [c, hu]
    · left
      simp only [c, hu]
    · left
      simp only [c, hu]
    · right
      exact ⟨r, by simp only [c, hu], Plugin.throttle_of_buildRegistry hb⟩
  obtain ⟨call, catalogue, memory, now⟩ := t
  cases call with
  | process => exact (hcycle rfl).elim
  | release => exact (hrelease rfl).elim
  | prepare shape =>
    rcases Plugin.Agrees.prepare ha (Turn.host ⟨.prepare shape, catalogue, memory, now⟩) shape
      { s.bus with now } with ⟨⟨error, hr⟩, _⟩ | ⟨hnone, _⟩
    · have hcall := Plugin.prepare_of_error (fun _ => rfl) hr
      rw [Session.perform, outcome, Call.run, hcall]
      exact ⟨rfl, .inl rfl⟩
    · rw [hs] at hnone
      cases hnone
  | setVars vars =>
    exact ⟨rfl, .inl (congrArg Slot.pending (s.plugin.control.slot_setVars vars))⟩
  | setRtStrict rtStrict =>
    exact ⟨rfl, .inl (congrArg Slot.pending (s.plugin.control.slot_setRtStrict rtStrict))⟩
  | setSourceId sourceId => exact ⟨rfl, hupdate _ _ _⟩
  | setSkip skip => exact ⟨rfl, hupdate _ _ _⟩
  | setActivate activate => exact ⟨rfl, .inl rfl⟩
  | collect => exact ⟨rfl, .inl rfl⟩

/-- Calls between two cycles of a span keep the phase: if they publish a registry, it begins its own
round when it is adopted. -/
theorem Agrees.inPhase_steered (ha : s.Agrees) (hs : s.span = some span) {n : Nat}
    (hp : s.plugin.InPhase n) (hcycle : t.call ≠ .process) (hrelease : t.call ≠ .release) :
    (s.perform t).plugin.InPhase n := by
  obtain ⟨hcurrent, hpending | ⟨r, hr, hphase⟩⟩ := ha.steered_cases hs hcycle hrelease
  · exact hp.congr hcurrent hpending
  · refine ⟨hcurrent ▸ hp.current, ?_⟩
    intro q hq
    rw [hr] at hq
    obtain rfl := Option.some.inj hq
    exact hphase

/-- A registry that waits is taken by a cycle only, or is replaced by another one. -/
theorem Agrees.isSome_pending_steered (ha : s.Agrees) (hs : s.span = some span)
    (hcycle : t.call ≠ .process) (hrelease : t.call ≠ .release)
    (hp : s.plugin.control.slot.pending.isSome = true) :
    (s.perform t).plugin.control.slot.pending.isSome = true := by
  obtain ⟨_, hpending | ⟨r, hr, _⟩⟩ := ha.steered_cases hs hcycle hrelease
  · rw [hpending]
    exact hp
  · rw [hr]
    rfl

/-- A cycle that counts ticks the throttle of the registry in use, and no other does. -/
theorem Agrees.throttle_process (ha : s.Agrees) (ht : t.call = .process) {r : Registry}
    (hr : s.plugin.inUse = some r) :
    (s.perform t).plugin.current.map Registry.throttle =
      some (if (s.mark t).counted then r.throttle.tick.2 else r.throttle) := by
  obtain ⟨call, catalogue, memory, now⟩ := t
  cases ht
  rw [mark, ← Plugin.Agrees.flag ha]
  exact s.plugin.throttle_process _ _ hr

/-- What waits after a cycle has waited before it: the safety check failed. -/
theorem Agrees.pending_process (ha : s.Agrees) (ht : t.call = .process) :
    (s.perform t).plugin.control.slot.pending =
      if s.plugin.check.1.isOk then none else s.plugin.control.slot.pending := by
  obtain ⟨call, catalogue, memory, now⟩ := t
  cases ht
  cases hc : s.plugin.check.1 with
  | error error =>
    unfold Session.perform
    rw [outcome, Call.run, s.plugin.process_of_error _ _ hc]
    exact congrArg (fun c => c.slot.pending) s.plugin.control_check
  | ok checked => exact Plugin.Agrees.pending_process ha hc _ _

/-- A cycle that counts goes on to the next tick of the registry in use. -/
theorem Agrees.inPhase_process (ha : s.Agrees) (hs : s.span = some span)
    (hp : s.plugin.InPhase (countSinceAdoption marks)) (ht : t.call = .process) :
    (s.perform t).plugin.InPhase (countSinceAdoption (s.mark t :: marks)) := by
  refine ⟨?_, ?_⟩
  · intro q hq
    obtain ⟨r, hr⟩ := (Plugin.Agrees.running ha span hs).exists_inUse
    have hthrottle := ha.throttle_process ht hr
    rw [hq] at hthrottle
    have hphase := hp.inUse hr
    rw [countSinceAdoption_cons, Option.some.inj hthrottle]
    change Throttle.InPhase _ ((if s.plugin.adopts then 0 else countSinceAdoption marks) + _)
    cases (s.mark t).counted with
    | false => exact hphase
    | true => exact hphase.tick
  · intro q hq
    rw [ha.pending_process ht] at hq
    split at hq
    · cases hq
    · exact hp.pending q hq

/-- Over any calls but a release, the throttle in use keeps the count of the cycles. -/
theorem Agrees.inPhase_after (ha : s.Agrees) (hs : s.span = some span)
    (hp : s.plugin.InPhase (countSinceAdoption marks)) {turns : List Turn}
    (hrelease : ∀ u ∈ turns, u.call ≠ .release) :
    (s.after turns).plugin.InPhase (countSinceAdoption (s.marksAfter marks turns)) := by
  induction turns generalizing s marks with
  | nil => exact hp
  | cons t turns ih =>
    have hcall := hrelease t List.mem_cons_self
    apply ih (ha.perform t) (ha.span_perform hs hcall) ?_
      (fun u hu => hrelease u (List.mem_cons_of_mem _ hu))
    by_cases ht : t.call = .process
    · rw [if_pos ht]
      exact ha.inPhase_process hs hp ht
    · rw [if_neg ht]
      exact ha.inPhase_steered hs hp ht hcall

/-- A cycle of a running bridge with a variable publishes samples exactly if it succeeds while
sending is switched on and is at a tick that sends. -/
theorem Agrees.samples_ne_nil_iff (ha : s.Agrees) (hs : s.span = some span)
    (hp : s.plugin.InPhase (countSinceAdoption marks))
    (hvars : s.plugin.control.settings.vars ≠ []) (ht : t.call = .process) :
    s.samples t ≠ [] ↔ (s.outcome t).result = .ok () ∧
      s.plugin.control.settings.activate = true ∧
      s.plugin.control.settings.skip.toNat + 1 ∣
        if s.plugin.adopts then 0 else countSinceAdoption marks := by
  obtain ⟨call, catalogue, memory, now⟩ := t
  cases ht
  have hrunning := Plugin.Agrees.running ha span hs
  have hoff {ms : List BusMessage} (hm : ms = [])
      (hlog : (s.perform ⟨.process, catalogue, memory, now⟩).bus.log.toList =
        s.bus.log.toList ++ ms) : s.samples ⟨.process, catalogue, memory, now⟩ = [] := by
    rw [samples, published_eq hlog, hm]
    rfl
  have houtcome : s.outcome ⟨.process, catalogue, memory, now⟩ =
      s.plugin.process (Turn.host ⟨.process, catalogue, memory, now⟩) { s.bus with now } := rfl
  cases hc : s.plugin.check.1 with
  | error error =>
    rw [s.plugin.process_of_error _ _ hc] at houtcome
    have hnone := hoff rfl (by rw [Session.perform, houtcome, List.append_nil])
    rw [hnone, houtcome]
    simp
  | ok checked =>
    cases hactive : s.plugin.control.active with
    | false =>
      rw [s.plugin.process_of_inactive _ _ hc hactive] at houtcome
      have hnone := hoff rfl (by rw [Session.perform, houtcome, List.append_nil])
      rw [hnone, ← Plugin.Agrees.flag ha, hactive]
      simp
    | true =>
      obtain ⟨r, hr⟩ := hrunning.exists_inUse
      rw [s.plugin.process_of_active _ _ hc hactive hr] at houtcome
      -- the registry in use is the newest one, and that one follows the settings
      have hfollows := hrunning.follows r (hrunning.inUse_eq_newest hc ▸ hr)
      have hnames : r.names ≠ [] := by
        obtain ⟨x, hx⟩ := List.exists_mem_of_ne_nil _ hvars
        exact List.ne_nil_of_mem ((hfollows.monitors.names x).mpr hx)
      have hphase := (hp.inUse hr).tick_fst_iff
      rw [show r.throttle.skip = _ from hfollows.skip] at hphase
      obtain ⟨ms, hlog, hiff⟩ := r.process_samples_iff
        (Turn.host ⟨.process, catalogue, memory, now⟩) { s.bus with now } hnames
      have hpublished : s.published ⟨.process, catalogue, memory, now⟩ = ms := by
        apply published_eq
        rw [Session.perform, houtcome]
        exact hlog
      rw [samples, hpublished, hiff, houtcome, ← Plugin.Agrees.flag ha, hactive, ← hphase]
      cases hresult : (r.process (Turn.host ⟨.process, catalogue, memory, now⟩)
          { s.bus with now }).result with
      | error error => simp [Except.map]
      | ok sends =>
        rw [(r.throttle_process_of_ok _ _ hresult).1]
        simp [Except.map]

/-- A successful change to another value leaves a new registry waiting. -/
theorem Agrees.isSome_pending_of_changes (ha : s.Agrees) (hs : s.span = some span)
    (hc : s.Changes t) (hok : (s.outcome t).result = .ok ()) :
    (s.perform t).plugin.control.slot.pending.isSome = true := by
  have hshape := (Plugin.Agrees.running ha span hs).shape
  have hupdate {h : Host} {next : Settings} {bus : Bus} (hne : next ≠ s.plugin.control.settings)
      (hresult : (s.plugin.control.update h next bus).result = .ok ()) :
      (s.plugin.control.update h next bus).state.slot.pending.isSome = true := by
    rcases s.plugin.control.update_cases h next bus with ⟨he, _⟩ | ⟨hnone, _⟩ | ⟨_, _, _, _, hu⟩ |
      ⟨_, r, _, _, hu⟩
    · exact (hne he).elim
    · rw [hshape] at hnone
      cases hnone
    · rw [hu] at hresult
      cases hresult
    · rw [hu]
      rfl
  obtain ⟨call, catalogue, memory, now⟩ := t
  rcases hc with ⟨skip, rfl, hne⟩ | ⟨sourceId, rfl, hne⟩
  · exact hupdate (fun he => hne (congrArg Settings.skip he)) hok
  · exact hupdate (fun he => hne (congrArg Settings.sourceId he)) hok

/-- Does a new registry wait, or has no cycle counted since the last adoption? -/
def IsDue (s : Session) (marks : List CycleMark) : Prop :=
  s.plugin.control.slot.pending.isSome = true ∨ countSinceAdoption marks = 0

/-- A cycle that passes the safety check adopts a registry that waits. -/
theorem Agrees.adopts_of_pending (ha : s.Agrees) (hs : s.span = some span)
    (hp : s.plugin.control.slot.pending.isSome = true) (hc : s.plugin.check.1 = .ok ()) :
    s.plugin.adopts = true := by
  refine s.plugin.adopts_of_pending hc hp ?_
  rcases (Plugin.Agrees.running ha span hs).free with hnone | hfree
  · rw [hnone] at hp
    cases hp
  · exact hfree

/-- A cycle that does not count leaves the next sample due: it failed or sending was switched off,
so nothing ticked. -/
theorem Agrees.isDue_process (ha : s.Agrees) (hs : s.span = some span) (hd : s.IsDue marks)
    (ht : t.call = .process) (hc : (s.mark t).counted = false) :
    (s.perform t).IsDue (s.mark t :: marks) := by
  unfold IsDue
  rw [countSinceAdoption_cons, hc, ha.pending_process ht]
  rcases hd with hp | hzero
  · cases hv : s.plugin.check.1 with
    | error error => exact .inl hp
    | ok checked =>
      right
      rw [mark, ha.adopts_of_pending hs hp hv]
      rfl
  · right
    rw [hzero, ite_self]
    rfl

/-- Calls among which no cycle counts leave the next sample due. -/
theorem Agrees.isDue_after (ha : s.Agrees) (hs : s.span = some span) (hd : s.IsDue marks)
    {turns : List Turn} (hrelease : ∀ u ∈ turns, u.call ≠ .release)
    (hc : ∀ m ∈ s.marksAfter [] turns, m.counted = false) :
    (s.after turns).IsDue (s.marksAfter marks turns) := by
  induction turns generalizing s marks with
  | nil => exact hd
  | cons t turns ih =>
    have hcall := hrelease t List.mem_cons_self
    rw [marksAfter, marksAfter_eq_append] at hc
    apply ih (ha.perform t) (ha.span_perform hs hcall) ?_
      (fun u hu => hrelease u (List.mem_cons_of_mem _ hu))
      (fun m hm => hc m (List.mem_append_left _ hm))
    by_cases ht : t.call = .process
    · rw [if_pos ht] at hc ⊢
      exact ha.isDue_process hs hd ht (hc _ (List.mem_append_right _ List.mem_cons_self))
    · rw [if_neg ht]
      exact hd.imp_left (ha.isSome_pending_steered hs ht hcall)

/-- A registry that waits is still there after calls among which is no cycle. -/
theorem Agrees.isSome_pending_after (ha : s.Agrees) (hs : s.span = some span)
    (hp : s.plugin.control.slot.pending.isSome = true) {turns : List Turn}
    (hrelease : ∀ u ∈ turns, u.call ≠ .release) (hcycle : ∀ u ∈ turns, u.call ≠ .process) :
    (s.after turns).plugin.control.slot.pending.isSome = true := by
  induction turns generalizing s with
  | nil => exact hp
  | cons t turns ih =>
    have hcall := hrelease t List.mem_cons_self
    exact ih (ha.perform t) (ha.span_perform hs hcall)
      (ha.isSome_pending_steered hs (hcycle t List.mem_cons_self) hcall hp)
      (fun u hu => hrelease u (List.mem_cons_of_mem _ hu))
      (fun u hu => hcycle u (List.mem_cons_of_mem _ hu))

/-- A due cycle that counts sends, if there is a variable to send: it is the first tick of a
registry. -/
theorem Agrees.samples_of_isDue (ha : s.Agrees) (hs : s.span = some span)
    (hp : s.plugin.InPhase (countSinceAdoption marks)) (hd : s.IsDue marks)
    (hvars : s.plugin.control.settings.vars ≠ []) (ht : t.call = .process)
    (hc : (s.mark t).counted = true) : s.samples t ≠ [] := by
  obtain ⟨hok, hactivate⟩ := Bool.and_eq_true_iff.mp hc
  have hresult : (s.outcome t).result = .ok () := by
    cases hr : (s.outcome t).result with
    | error error =>
      rw [hr] at hok
      cases hok
    | ok answer => rfl
  refine (ha.samples_ne_nil_iff hs hp hvars ht).mpr ⟨hresult, hactivate, ?_⟩
  rcases hd with hpending | hzero
  · have hv : s.plugin.check.1 = .ok () := by
      obtain ⟨call, catalogue, memory, now⟩ := t
      cases ht
      cases hv : s.plugin.check.1 with
      | error error =>
        rw [outcome, Call.run, s.plugin.process_of_error _ _ hv] at hresult
        cases hresult
      | ok checked => rfl
    rw [ha.adopts_of_pending hs hpending hv, if_pos rfl]
    exact Nat.dvd_zero _
  · rw [hzero, ite_self]
    exact Nat.dvd_zero _

/-- A preparation installs a registry that is at its first tick. -/
theorem inPhase_of_prepare {shape : Shape} (ht : t.call = .prepare shape)
    (hok : (s.outcome t).result = .ok ()) : (s.perform t).plugin.InPhase 0 := by
  obtain ⟨call, catalogue, memory, now⟩ := t
  cases ht
  have hstate : (s.perform ⟨.prepare shape, catalogue, memory, now⟩).plugin =
      (s.plugin.prepare (Turn.host ⟨.prepare shape, catalogue, memory, now⟩) shape
        { s.bus with now }).state := rfl
  rcases s.plugin.prepare_cases (Turn.host ⟨.prepare shape, catalogue, memory, now⟩)
    { s.bus with now } shape with ⟨_, hr⟩ | ⟨_, _, _, hr⟩ | ⟨vars, r, _, hb, _, hs, _⟩
  · rw [outcome, Call.run, hr] at hok
    cases hok
  · rw [outcome, Call.run, hr] at hok
    cases hok
  · rw [hstate, hs]
    refine ⟨?_, ?_⟩
    · intro q hq
      obtain rfl := Option.some.inj hq
      exact Plugin.throttle_of_buildRegistry hb
    · intro q hq
      cases hq

/-- A parameter that is set to the value it has stays, and nothing else happens. -/
theorem perform_of_same_value (s : Session) {t : Turn}
    (ht : t.call = .setSkip s.plugin.control.settings.skip ∨
      t.call = .setSourceId s.plugin.control.settings.sourceId) :
    (s.outcome t).result = .ok () ∧
      s.perform t = { s with bus := { s.bus with now := t.now } } := by
  obtain ⟨call, catalogue, memory, now⟩ := t
  have hsame := s.plugin.control.update_of_eq ⟨catalogue, memory, fun _ => none⟩
    { s.bus with now }
  rcases ht with rfl | rfl
  · have houtcome : s.outcome ⟨.setSkip s.plugin.control.settings.skip, catalogue, memory, now⟩ =
        ⟨.ok (), s.plugin, { s.bus with now }⟩ := congrArg s.plugin.steered hsame
    rw [perform, houtcome]
    exact ⟨rfl, rfl⟩
  · have houtcome :
        s.outcome ⟨.setSourceId s.plugin.control.settings.sourceId, catalogue, memory, now⟩ =
        ⟨.ok (), s.plugin, { s.bus with now }⟩ := congrArg s.plugin.steered hsame
    rw [perform, houtcome]
    exact ⟨rfl, rfl⟩

/-- Switching sending on or off reaches the setting and the switch, and nothing else. -/
theorem perform_of_switched (s : Session) {t : Turn} {activate : Bool}
    (ht : t.call = .setActivate activate) :
    (s.outcome t).result = .ok () ∧
      (s.perform t).plugin.control.settings = { s.plugin.control.settings with activate } ∧
      (s.perform t).plugin.control.active = activate ∧
      (s.perform t).plugin.registries = s.plugin.registries ∧
      (s.perform t).bus = { s.bus with now := t.now } := by
  have hout : s.outcome t =
      ⟨.ok (), { s.plugin with control := s.plugin.control.setActivate activate },
        { s.bus with now := t.now }⟩ := by
    simp only [outcome, ht, Call.run]
    rfl
  rw [perform, hout]
  refine ⟨rfl, ?_, ?_, ?_, rfl⟩
  · exact Control.settings_setActivate s.plugin.control activate
  · exact Control.active_setActivate s.plugin.control activate
  · rw [Plugin.registries, Control.slot_setActivate]
    rfl

/-- From the end of a successful preparation on, as long as no release is called and whatever
the variable space does, with a variable to send:
* a cycle publishes samples exactly if it succeeds while sending is switched on, and the number of
  cycles of this kind since the registry in use was adopted is divisible by one more than the
  skip interval of the settings;
* a cycle of another kind sends nothing and leaves the throttle of the registry in use alone;
* after a successful change of the skip interval or the source to another value, the next cycle
  that passes the safety check adopts a registry for the values then set, and the next one that
  succeeds while sending is switched on sends;
* setting a value that is set already does nothing;
* switching sending on or off succeeds, gives the setting and the switch of the cycles the same
  value, and leaves the other parameters, the registries and the log as they are. -/
theorem emission_schedule (settings : Settings) (probe : Option Probe) (thread : Probe)
    (capacity : Nat) (before : List Turn) {t₀ : Turn} {shape : Shape}
    (ht₀ : t₀.call = .prepare shape)
    (hok : (((start settings probe thread capacity).after before).outcome t₀).result = .ok ())
    (hvars : (((start settings probe thread capacity).after before).perform
      t₀).plugin.control.settings.vars ≠ [])
    {during : List Turn} (hd : ∀ u ∈ during, u.call ≠ .release) :
    let prepared := ((start settings probe thread capacity).after before).perform t₀
    let s := prepared.after during
    let parameters := s.plugin.control.settings
    (∀ t : Turn, t.call = .process →
        (s.samples t ≠ [] ↔ (s.outcome t).result = .ok () ∧ parameters.activate = true ∧
          parameters.skip.toNat + 1 ∣
            if s.plugin.adopts then 0 else countSinceAdoption (prepared.marksAfter [] during))) ∧
      (∀ t : Turn, t.call = .process → (s.mark t).counted = false → s.samples t = [] ∧
        (s.perform t).plugin.current.map Registry.throttle =
          s.plugin.inUse.map Registry.throttle) ∧
      (∀ t : Turn, s.Changes t → (s.outcome t).result = .ok () →
        ∀ between : List Turn, (∀ u ∈ between, u.call ≠ .release) →
          let later := (s.perform t).after between
          ((∀ u ∈ between, u.call ≠ .process) → later.plugin.check.1 = .ok () →
              later.plugin.adopts = true ∧ ∃ r, later.plugin.inUse = some r ∧
                r.skip = later.plugin.control.settings.skip ∧
                r.context.sourceId = later.plugin.control.settings.sourceId) ∧
            ((∀ m ∈ (s.perform t).marksAfter [] between, m.counted = false) →
              ∀ cycle : Turn, cycle.call = .process → (later.mark cycle).counted = true →
                later.samples cycle ≠ [])) ∧
      (∀ t : Turn, t.call = .setSkip parameters.skip ∨ t.call = .setSourceId parameters.sourceId →
        (s.outcome t).result = .ok () ∧
          s.perform t = { s with bus := { s.bus with now := t.now } }) ∧
      (∀ (t : Turn) (activate : Bool), t.call = .setActivate activate →
        (s.outcome t).result = .ok () ∧
          (s.perform t).plugin.control.settings = { parameters with activate } ∧
          (s.perform t).plugin.control.active = activate ∧
          (s.perform t).plugin.registries = s.plugin.registries ∧
          (s.perform t).bus = { s.bus with now := t.now }) := by
  intro prepared s parameters
  have hbefore : ((start settings probe thread capacity).after before).Agrees :=
    (agrees_start settings probe thread capacity).after before
  have ha₀ : prepared.Agrees := hbefore.perform t₀
  obtain ⟨span, hspan₀⟩ := exists_span_perform ht₀ hok
  have hphase₀ : prepared.plugin.InPhase (countSinceAdoption []) := inPhase_of_prepare ht₀ hok
  have ha : s.Agrees := Agrees.after ha₀ during
  have hspan : s.span = some span := Agrees.span_after ha₀ hspan₀ hd
  have hphase := Agrees.inPhase_after ha₀ hspan₀ hphase₀ hd
  have hlisted {s' : Session} (ha' : s'.Agrees) (hspan' : s'.span = some span) :
      s'.plugin.control.settings.vars ≠ [] := by
    rw [(Plugin.Agrees.running ha' span hspan').vars,
      ← (Plugin.Agrees.running ha₀ span hspan₀).vars]
    exact hvars
  have hcycles (t : Turn) (ht : t.call = .process) :=
    Agrees.samples_ne_nil_iff ha hspan hphase (hlisted ha hspan) ht
  refine ⟨hcycles, ?_, ?_, fun t ht => perform_of_same_value s ht,
    fun t activate ht => perform_of_switched s ht⟩
  · intro t ht hc
    obtain ⟨r, hr⟩ := (Plugin.Agrees.running ha span hspan).exists_inUse
    have hthrottle := Agrees.throttle_process ha ht hr
    rw [hc] at hthrottle
    refine ⟨?_, by rw [hthrottle, hr]; rfl⟩
    by_contra hsent
    obtain ⟨hresult, hactivate, _⟩ := (hcycles t ht).mp hsent
    rw [mark, hresult, hactivate] at hc
    cases hc
  · intro t hchanges hdone between hb later
    have hcall : t.call ≠ .release := by
      rcases hchanges with ⟨skip, ht, _⟩ | ⟨sourceId, ht, _⟩ <;> rw [ht] <;> simp
    have hcycle : t.call ≠ .process := by
      rcases hchanges with ⟨skip, ht, _⟩ | ⟨sourceId, ht, _⟩ <;> rw [ht] <;> simp
    have ha₁ : (s.perform t).Agrees := Agrees.perform ha t
    have hspan₁ := Agrees.span_perform ha hspan hcall
    have hpending := Agrees.isSome_pending_of_changes ha hspan hchanges hdone
    have hlater : later.Agrees := Agrees.after ha₁ between
    have hspan₂ : later.span = some span := Agrees.span_after ha₁ hspan₁ hb
    have hrunning := Plugin.Agrees.running hlater span hspan₂
    refine ⟨?_, ?_⟩
    · intro hcontrol hv
      have hwaits := Agrees.isSome_pending_after ha₁ hspan₁ hpending hb hcontrol
      refine ⟨Agrees.adopts_of_pending hlater hspan₂ hwaits hv, ?_⟩
      obtain ⟨r, hr⟩ := hrunning.exists_inUse
      have hfollows := hrunning.follows r (hrunning.inUse_eq_newest hv ▸ hr)
      exact ⟨r, hr, hfollows.skip, by rw [hfollows.context]⟩
    · intro hidle cycle hc hcounted
      have hphase₁ := Agrees.inPhase_steered ha hspan hphase hcycle hcall
      exact Agrees.samples_of_isDue hlater hspan₂
        (Agrees.inPhase_after ha₁ hspan₁ hphase₁ hb)
        (Agrees.isDue_after ha₁ hspan₁ (.inl hpending) hb hidle)
        (hlisted hlater hspan₂) hc hcounted

/-- A level that is sent at every second cycle is sent at two cycles in a row if the skip
interval changes between them. -/
theorem emission_schedule_of_changed_skip :
    let space := Space.empty.insert "level" (.int32 [7])
    let settings : Settings := ⟨["level"], "desk", false, true, 1⟩
    let prepare : Turn := ⟨.prepare ⟨.ofNat 1000, 10⟩, .ofSpace space, space.memory, .epoch⟩
    let cycle : Turn := ⟨.process, .ofSpace space, space.memory, .epoch⟩
    let change : Turn := ⟨.setSkip 2, .ofSpace space, space.memory, .epoch⟩
    (((start settings none .ordinary 4).after []).outcome prepare).result = .ok () ∧
      (((start settings none .ordinary 4).after []).perform
        prepare).plugin.control.settings.vars ≠ [] ∧
      (∀ u ∈ [cycle, change], u.call ≠ .release) ∧
      ((((start settings none .ordinary 4).after []).perform prepare).after
        [cycle, change]).samples cycle ≠ [] := by
  intro space settings prepare cycle change
  have hok : (((start settings none .ordinary 4).after []).outcome prepare).result = .ok () := by
    unfold settings prepare space
    decide +kernel
  have hvars : (((start settings none .ordinary 4).after []).perform
      prepare).plugin.control.settings.vars ≠ [] := by
    unfold settings prepare space
    decide +kernel
  have hd : ∀ u ∈ [cycle, change], u.call ≠ .release := by
    simp [cycle, change]
  have hsends := (emission_schedule settings none .ordinary 4 [] rfl hok hvars hd).1 cycle rfl
  refine ⟨hok, hvars, hd, hsends.mpr ⟨?_, ?_, ?_⟩⟩
  · unfold settings prepare change cycle space
    decide +kernel
  · unfold settings prepare change cycle space
    decide +kernel
  · unfold settings prepare change cycle space
    decide +kernel

end Session

end VariableBridge
