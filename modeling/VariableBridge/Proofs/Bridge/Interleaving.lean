import VariableBridge.Proofs.Bridge.Ownership

/-!
# Calls between the steps of preparing and releasing

Preparing and releasing are made of steps, and the controlling side may make its
calls between any two of them. Main statements: without a call between the steps
they are the calls of a bridge; and every interleaving keeps all registries sound
and the streams of the bus equal to those of the registries that are held.
-/

namespace VariableBridge

open Space (Memory)

/-- Is this a call of the controlling side? -/
def Call.isSteering : Call → Bool
  | .prepare _ => false
  | .process => false
  | .release => false
  | _ => true

namespace Interplay

/-- How far the processing side has come in a call of several steps. -/
inductive Stage where
  /-- There is no such call. -/
  | idle
  /-- Preparing has taken over settings and shape; it installs this registry next. -/
  | taken (registry : Registry) (rtStrict : Bool)
  /-- Releasing has dropped the current registry; it empties the slot next. -/
  | dropped
  /-- Releasing has emptied the slot; it arms the safety check next. -/
  | emptied
  /-- Releasing has armed the safety check; it unlocks the parameters next. -/
  | armed
  deriving DecidableEq

/-- The registry that is installed next. -/
def Stage.registry? : Stage → Option Registry
  | .taken registry _ => some registry
  | _ => none

/-- What happens at one moment. -/
inductive Move where
  /-- The processing side begins to prepare for a signal. -/
  | prepare (shape : Shape)
  /-- The processing side begins to release. -/
  | release
  /-- The processing side takes the next step of the call it is in. -/
  | advance
  /-- A complete call of either side. -/
  | call (c : Call)
  deriving DecidableEq

/-- A move with the variable space as it is then. -/
structure Moment where
  /-- The move. -/
  move : Move
  /-- The variables. -/
  catalogue : Catalogue
  /-- The memory that descriptors point into. -/
  memory : Memory
  /-- The time that samples are stamped with. -/
  now : Time.Instant

/-- The world around the bridge: streams are refused by nobody but the bus. -/
def Moment.host (m : Moment) : Host := ⟨m.catalogue, m.memory, fun _ => none⟩

end Interplay

/-- A bridge whose longer calls may be interrupted, with its bus. -/
structure Interplay where
  /-- The bridge. -/
  plugin : Plugin
  /-- The bus. -/
  bus : Bus
  /-- How far the processing side has come. -/
  stage : Interplay.Stage

namespace Interplay

/-- A new bridge on a new bus. -/
def start (settings : Settings) (probe : Option Probe) (thread : Probe) (capacity : Nat) :
    Interplay :=
  ⟨.new settings probe thread, .new capacity, .idle⟩

/-- The settings as they are now. -/
def settings (s : Interplay) : Settings := s.plugin.control.settings

/-- The registry that waits for the processing side. -/
def pending (s : Interplay) : Option Registry := s.plugin.control.slot.pending

/-- The first step of preparing. If it fails, the preparation has ended. -/
def beginPrepare (s : Interplay) (h : Host) (shape : Shape) : Interplay :=
  let taken := Plugin.takeOver s.plugin.control h shape s.bus
  match taken.result with
  | .error _ => { s with bus := taken.bus }
  | .ok registry =>
    ⟨{ s.plugin with control := taken.state }, taken.bus,
      .taken registry taken.state.settings.rtStrict⟩

/-- The first step of releasing. -/
def beginRelease (s : Interplay) : Interplay :=
  ⟨(s.plugin.dropCurrent s.bus).1, (s.plugin.dropCurrent s.bus).2, .dropped⟩

/-- The next step of the call that the processing side is in. -/
def advance (s : Interplay) : Interplay :=
  match s.stage with
  | .idle => s
  | .taken registry rtStrict =>
    ⟨(s.plugin.install registry rtStrict s.bus).1, (s.plugin.install registry rtStrict s.bus).2,
      .idle⟩
  | .dropped => ⟨(s.plugin.clearSlot s.bus).1, (s.plugin.clearSlot s.bus).2, .emptied⟩
  | .emptied => ⟨s.plugin.rearm, s.bus, .armed⟩
  | .armed => ⟨s.plugin.unlock, s.bus, .idle⟩

/-- A complete call. -/
def call (s : Interplay) (h : Host) (c : Call) : Interplay :=
  ⟨(c.run h s.plugin s.bus).state, (c.run h s.plugin s.bus).bus, s.stage⟩

/-- The bridge after a moment. The processing side makes one call after the other, so a call
of its own has no effect while it is in another one; the controlling side never waits. -/
def perform (s : Interplay) (m : Moment) : Interplay :=
  let timed : Interplay := { s with bus := { s.bus with now := m.now } }
  match m.move with
  | .prepare shape => if s.stage = .idle then timed.beginPrepare m.host shape else timed
  | .release => if s.stage = .idle then timed.beginRelease else timed
  | .advance => timed.advance
  | .call c => if s.stage = .idle ∨ c.isSteering = true then timed.call m.host c else timed

/-- The bridge after some moments. -/
def after (s : Interplay) (moments : List Moment) : Interplay := moments.foldl perform s

/-- A preparation that nothing interrupts is the whole call, so the steps say the same as
`Plugin.prepare`. -/
theorem call_prepare {s : Interplay} (hs : s.stage = .idle) (h : Host) (shape : Shape) :
    s.call h (.prepare shape) = (s.beginPrepare h shape).advance := by
  unfold call beginPrepare
  change Interplay.mk (s.plugin.prepare h shape s.bus).state
    (s.plugin.prepare h shape s.bus).bus s.stage = _
  unfold Plugin.prepare
  cases ht : (Plugin.takeOver s.plugin.control h shape s.bus).result with
  | error error =>
    simp only [ht, advance, hs]
  | ok registry =>
    simp only [ht, advance, hs]

/-- A release that nothing interrupts is the whole call, so its four steps say the same as
`Plugin.release`. -/
theorem call_release {s : Interplay} (hs : s.stage = .idle) (h : Host) :
    s.call h .release = s.beginRelease.advance.advance.advance := by
  rw [call, hs]
  rfl

/-- All registries of the bridge, with the one that is installed next. -/
def registries (s : Interplay) : List Registry := s.stage.registry?.toList ++ s.plugin.registries

/-- Is every registry of the bridge sound? -/
def IsSound (s : Interplay) : Prop := ∀ r ∈ s.registries, r.IsSound

end Interplay

namespace Plugin

variable {p : Plugin}

/-- A change of parameters adds at most a registry that was built for it. -/
theorem isSound_update (hs : ∀ r ∈ p.registries, r.IsSound) (h : Host) (next : Settings)
    (bus : Bus) : ∀ r ∈ (p.steered (p.control.update h next bus)).state.registries,
      r.IsSound := by
  rcases p.control.update_cases h next bus with ⟨_, hu⟩ | ⟨_, hu⟩ | ⟨shape, error, _, hb, hu⟩ |
    ⟨shape, built, _, hb, hu⟩
  · rw [steered, hu]
    exact hs
  · rw [steered, hu]
    exact hs
  · rw [steered, hu]
    exact hs
  · rw [steered, hu]
    intro r hr
    rcases List.mem_append.mp hr with hr | hr
    · exact hs r (List.mem_append_left _ hr)
    · have hbuilt : r = built := List.mem_singleton.mp hr
      rw [hbuilt]
      exact (of_buildRegistry hb).monitors.sound

/-- Calls that leave the slot alone leave the registries alone, so these stay sound whatever else
was changed. -/
theorem isSound_of_slot_eq (hs : ∀ r ∈ p.registries, r.IsSound) {c : Control}
    (hc : c.slot = p.control.slot) :
    ∀ r ∈ ({ p with control := c } : Plugin).registries, r.IsSound := by
  have hsame : ({ p with control := c } : Plugin).registries = p.registries := by
    rw [registries, registries, hc]
  rw [hsame]
  exact hs

/-- A cycle changes the registry in use only, and that one stays sound whether the cycle succeeds or
not. -/
theorem isSound_process (hs : ∀ r ∈ p.registries, r.IsSound) (h : Host) (bus : Bus) :
    ∀ r ∈ (p.process h bus).state.registries, r.IsSound := by
  have hchecked : p.check.2.registries = p.registries := by
    rw [registries, registries, control_check, current_check]
  have hadopted : ∀ r ∈ p.check.2.adopt.registries, r.IsSound := by
    intro r hr
    have hbefore := p.check.2.registries_adopt.mem_iff.mp hr
    exact hs r (hchecked ▸ hbefore)
  rcases p.process_cases h bus with ⟨error, _, hr⟩ | ⟨_, hstate, _⟩ | ⟨q, _, hq, hstate, _⟩
  · rw [hr, hchecked]
    exact hs
  · rw [hstate]
    exact hadopted
  · rw [hstate]
    intro r hr
    rcases List.mem_append.mp hr with hr | hr
    · have hcycled : r = (q.process h bus).state := List.mem_singleton.mp hr
      rw [hcycled]
      exact Registry.isSound_process h bus (hs q (mem_registries_of_adopt hq))
    · exact hadopted r (List.mem_append_right _ hr)

/-- A call of one step keeps all registries sound and handles only their outlets. -/
theorem run_isSound (hs : ∀ r ∈ p.registries, r.IsSound) {c : Call}
    (hc : c.isSteering = true ∨ c = .process) (h : Host) (bus : Bus) :
    (∀ r ∈ (c.run h p bus).state.registries, r.IsSound) ∧
      Handling [] p.held bus (c.run h p bus).state.held (c.run h p bus).bus := by
  have hnone := carries_nil (outletsOf p.current.toList)
  cases c with
  | prepare shape => simp [Call.isSteering] at hc
  | release => simp [Call.isSteering] at hc
  | process => exact ⟨isSound_process hs h bus, process_handling hs [] h bus⟩
  | setVars vars =>
    have hslot := p.control.slot_setVars vars
    have hheld := held_of_slot_eq hslot
    exact ⟨isSound_of_slot_eq hs hslot, hheld ▸ .idle⟩
  | setRtStrict rtStrict =>
    have hslot := p.control.slot_setRtStrict rtStrict
    have hheld := held_of_slot_eq hslot
    exact ⟨isSound_of_slot_eq hs hslot, hheld ▸ .idle⟩
  | setSourceId sourceId => exact ⟨isSound_update hs h _ bus, update_handling hnone h _ bus⟩
  | setSkip skip => exact ⟨isSound_update hs h _ bus, update_handling hnone h _ bus⟩
  | setActivate activate => exact ⟨hs, .idle⟩
  | collect =>
    refine ⟨?_, collect_handling hnone bus⟩
    intro r hr
    apply hs r
    rcases List.mem_append.mp hr with hr | hr
    · exact List.mem_append_left _ hr
    · refine List.mem_append_right _ (List.mem_append_left _ ?_)
      change r ∈ p.control.slot.pending.toList ++ [] at hr
      rwa [List.append_nil] at hr

end Plugin

namespace Interplay

variable {s : Interplay} {h : Host}

/-- At the beginning there are no registries, so all of them are sound. -/
theorem isSound_start (settings : Settings) (probe : Option Probe) (thread : Probe)
    (capacity : Nat) :
    (start settings probe thread capacity).IsSound := by
  intro r hr
  cases hr

/-- A call of one step may come at any stage of a longer call, and handles only outlets that the
bridge has. -/
theorem IsSound.call (hs : s.IsSound) {c : Call} (hc : c.isSteering = true ∨ c = .process) :
    (s.call h c).IsSound ∧ Handling [] (outletsOf s.registries) s.bus
      (outletsOf (s.call h c).registries) (s.call h c).bus := by
  have hplugin : ∀ r ∈ s.plugin.registries, r.IsSound :=
    fun r hr => hs r (List.mem_append_right _ hr)
  obtain ⟨hsound, hhandling⟩ := Plugin.run_isSound hplugin hc h s.bus
  constructor
  · intro r hr
    rcases List.mem_append.mp hr with hr | hr
    · exact hs r (List.mem_append_left _ hr)
    · exact hsound r hr
  · have hframe := hhandling.frame (outletsOf s.stage.registry?.toList)
    refine hframe.of_perm ?_ ?_
    · rw [registries, outletsOf_append]
      exact List.perm_append_comm
    · rw [registries, outletsOf_append]
      exact List.perm_append_comm

/-- The registry that preparing builds is held until it is installed. -/
theorem IsSound.beginPrepare (hs : s.IsSound) (hi : s.stage = .idle) (shape : Shape) :
    (s.beginPrepare h shape).IsSound ∧ Handling [] (outletsOf s.registries) s.bus
      (outletsOf (s.beginPrepare h shape).registries) (s.beginPrepare h shape).bus := by
  have hnone := carries_nil (outletsOf s.registries)
  unfold Interplay.beginPrepare
  rcases Plugin.takeOver_cases s.plugin.control h shape s.bus with ⟨error, ht⟩ |
    ⟨settings, error, hb, ht⟩ | ⟨vars, registry, _, hb, ht⟩
  · rw [ht]
    exact ⟨hs, .idle⟩
  · have hbuild := Plugin.buildRegistry_handling hnone h settings shape s.bus
    rw [hb] at hbuild
    rw [ht]
    exact ⟨hs, hbuild⟩
  · have hbuild := Plugin.buildRegistry_handling hnone h
      { s.plugin.control.settings with vars } shape s.bus
    have hsame : s.registries = s.plugin.registries := by
      rw [registries, hi]
      rfl
    rw [hb, hsame] at hbuild
    rw [hsame, ht]
    constructor
    · intro r hr
      rcases List.mem_cons.mp hr with rfl | hr
      · exact (Plugin.of_buildRegistry hb).monitors.sound
      · exact hs r (List.mem_append_right _ hr)
    · rw [registries, outletsOf_append]
      exact hbuild

/-- Taking the registry in use out of the bridge closes its streams. What is left waits in the slot
for the second half. -/
theorem IsSound.beginRelease (hs : s.IsSound) (hi : s.stage = .idle) :
    s.beginRelease.IsSound ∧ Handling [] (outletsOf s.registries) s.bus
      (outletsOf s.beginRelease.registries) s.beginRelease.bus := by
  have hsame : s.registries = s.plugin.registries := by
    rw [registries, hi]
    rfl
  constructor
  · intro r hr
    apply hs r
    rw [hsame]
    exact List.mem_append_right _ hr
  · rw [hsame, Plugin.registries, outletsOf_append]
    exact closeRegistries_handling (carries_nil _) s.plugin.current.toList s.bus

/-- A step of a longer call closes the streams of what it drops. -/
theorem IsSound.advance (hs : s.IsSound) :
    s.advance.IsSound ∧ Handling [] (outletsOf s.registries) s.bus
      (outletsOf s.advance.registries) s.advance.bus := by
  obtain ⟨p, bus, stage⟩ := s
  cases stage with
  | idle => exact ⟨hs, .idle⟩
  | taken registry rtStrict =>
    constructor
    · intro r hr
      apply hs r
      have hinstalled : r = registry := List.mem_singleton.mp hr
      rw [hinstalled]
      exact List.mem_cons_self
    · have hslot := closeRegistries_handling
        (carries_nil (outletsOf p.current.toList ++ registry.outlets)) p.control.slot.values bus
      have hcurrent := closeRegistries_handling (carries_nil registry.outlets) p.current.toList
        (closeRegistries p.control.slot.values bus)
      refine (hslot.trans hcurrent).of_perm ?_ ?_
      · change (outletsOf ([registry] ++ (p.current.toList ++ p.control.slot.values))).Perm _
        rw [outletsOf_append, outletsOf_append]
        apply List.perm_iff_count.mpr
        intro o
        simp only [outletsOf, List.flatMap_singleton, List.count_append]
        omega
      · change registry.outlets.Perm (outletsOf [registry])
        simp [outletsOf]
  | dropped =>
    constructor
    · intro r hr
      apply hs r
      have hcurrent : r ∈ p.current.toList ++ [] := hr
      rw [List.append_nil] at hcurrent
      exact List.mem_append_right _ (List.mem_append_left _ hcurrent)
    · have hslot := closeRegistries_handling (carries_nil (outletsOf p.current.toList))
        p.control.slot.values bus
      refine hslot.of_perm ?_ ?_
      · change (outletsOf (p.current.toList ++ p.control.slot.values)).Perm _
        rw [outletsOf_append]
        exact List.perm_append_comm
      · change (outletsOf p.current.toList).Perm (outletsOf (p.current.toList ++ []))
        rw [List.append_nil]
  | emptied => exact ⟨hs, .idle⟩
  | armed => exact ⟨hs, .idle⟩

/-- Every move keeps all registries sound and handles only their outlets. -/
theorem IsSound.perform (hs : s.IsSound) (m : Moment) :
    (s.perform m).IsSound ∧ Handling [] (outletsOf s.registries) s.bus
      (outletsOf (s.perform m).registries) (s.perform m).bus := by
  obtain ⟨move, catalogue, memory, now⟩ := m
  let timed : Interplay := { s with bus := { s.bus with now } }
  let world : Host := ⟨catalogue, memory, fun _ => none⟩
  have htimed : timed.IsSound := hs
  -- time passes first, whatever the move is
  have hwait : Handling [] (outletsOf s.registries) s.bus (outletsOf timed.registries) timed.bus :=
    Handling.idle.wait now
  suffices hmove : (s.perform ⟨move, catalogue, memory, now⟩).IsSound ∧
      Handling [] (outletsOf timed.registries) timed.bus
        (outletsOf (s.perform ⟨move, catalogue, memory, now⟩).registries)
        (s.perform ⟨move, catalogue, memory, now⟩).bus from
    ⟨hmove.1, hwait.trans hmove.2⟩
  cases move with
  | prepare shape =>
    simp only [Interplay.perform]
    split
    next hi => exact htimed.beginPrepare hi shape
    next => exact ⟨htimed, .idle⟩
  | release =>
    simp only [Interplay.perform]
    split
    next hi => exact htimed.beginRelease hi
    next => exact ⟨htimed, .idle⟩
  | advance => exact htimed.advance
  | call c =>
    simp only [Interplay.perform]
    split
    next hc =>
      by_cases hone : c.isSteering = true ∨ c = .process
      · exact htimed.call hone
      · have hi : timed.stage = .idle := by
          rcases hc with hi | hsteering
          · exact hi
          · exact absurd (.inl hsteering) hone
        cases c with
        | prepare shape =>
          obtain ⟨hbegun, hfirst⟩ := htimed.beginPrepare (h := world) hi shape
          obtain ⟨hdone, hsecond⟩ := hbegun.advance
          rw [call_prepare hi]
          exact ⟨hdone, hfirst.trans hsecond⟩
        | release =>
          obtain ⟨hbegun, hfirst⟩ := htimed.beginRelease hi
          obtain ⟨hcleared, hsecond⟩ := hbegun.advance
          obtain ⟨harmed, hthird⟩ := hcleared.advance
          obtain ⟨hdone, hfourth⟩ := harmed.advance
          rw [call_release hi]
          exact ⟨hdone, ((hfirst.trans hsecond).trans hthird).trans hfourth⟩
        | process => exact absurd (.inr rfl) hone
        | _ => exact absurd (.inl rfl) hone
    next => exact ⟨htimed, .idle⟩

/-- All registries are sound at every moment, and on the way only streams of these registries are
opened and closed. -/
theorem IsSound.after (hs : s.IsSound) (moments : List Moment) :
    (s.after moments).IsSound ∧ Handling [] (outletsOf s.registries) s.bus
      (outletsOf (s.after moments).registries) (s.after moments).bus := by
  induction moments generalizing s with
  | nil => exact ⟨hs, .idle⟩
  | cons m moments ih =>
    obtain ⟨hnext, hfirst⟩ := hs.perform m
    obtain ⟨hlast, hrest⟩ := ih hnext
    exact ⟨hlast, hfirst.trans hrest⟩

/-- After any moves, the open streams of the bus are those of the registries that are held. -/
theorem holds_after (settings : Settings) (probe : Option Probe) (thread : Probe) (capacity : Nat)
    (moments : List Moment) :
    ((start settings probe thread capacity).after moments).bus.Holds
      (outletsOf ((start settings probe thread capacity).after moments).registries) :=
  ((isSound_start settings probe thread capacity).after moments).2.holds (Bus.holds_new capacity)

end Interplay

end VariableBridge
