import VariableBridge.Proofs.Bridge.Agreement

/-!
# The streams of a bridge

Streams are opened and closed by preparing, by changing parameters, by cycles, by
collecting and by releasing. Main statements: every call handles only the outlets
of the registries that the bridge holds, and no call but a release leaves a
variable without a stream on its way; hence, after every sequence of calls, the
log tells one life for each stream and the open streams are those of the bridge.
-/

namespace VariableBridge

/-- The names that are kept during a span. -/
def Span.kept (span : Option Span) : List String := (span.map Span.vars).getD []

/-- A registry has a stream for each of its variables, under the name of the variable. -/
theorem Registry.Monitors.carries {r : Registry} {vars : List String} (hr : r.Monitors vars) :
    Carries r.outlets vars := by
  intro x hx
  obtain ⟨entry, he, rfl⟩ := List.mem_map.mp ((hr.names x).mpr hx)
  exact ⟨entry.2.outlet, List.mem_map_of_mem he, (hr.sound.bound entry he).name_eq⟩

namespace Plugin

variable {p : Plugin} {span : Option Span}

/-- What a bridge holds are the streams of its registry in use, of the pending one and of the
retired one. -/
theorem held_eq (p : Plugin) :
    p.held = outletsOf p.current.toList ++
      (outletsOf p.control.slot.pending.toList ++ outletsOf p.control.slot.retired.toList) := by
  rw [held, registries, Slot.values, outletsOf_append, outletsOf_append]

/-- An idle bridge holds no stream, since it has neither a registry in use nor one in the slot. -/
theorem IsIdle.held_eq_nil (hp : p.IsIdle) : p.held = [] := by
  rw [held_eq, hp.current, hp.slot]
  rfl

/-- Changed settings do not change what is held: only the slot and the registry in use hold
outlets. -/
theorem held_of_slot_eq {p : Plugin} {c : Control} (hs : c.slot = p.control.slot) :
    ({ p with control := c } : Plugin).held = p.held := by
  rw [held_eq, held_eq]
  change outletsOf p.current.toList ++
    (outletsOf c.slot.pending.toList ++ outletsOf c.slot.retired.toList) = _
  rw [hs]

/-- Every registry of the bridge is sound, whether it is in use, pending or retired. -/
theorem Agrees.isSound_of_mem (ha : p.Agrees span) {r : Registry} (hr : r ∈ p.registries) :
    r.IsSound := by
  cases span with
  | some current => exact ((ha.running current rfl).monitors r hr).sound
  | none =>
    rw [registries, (ha.idle rfl).current, (ha.idle rfl).slot] at hr
    cases hr

/-- The registry in use is one for the variables of the settings. -/
theorem Agrees.monitors_current (ha : p.Agrees span) {r : Registry} (hr : p.current = some r) :
    r.Monitors p.control.settings.vars := by
  cases span with
  | none =>
    rw [(ha.idle rfl).current] at hr
    cases hr
  | some current =>
    have hrunning := ha.running current rfl
    rw [hrunning.vars]
    apply hrunning.monitors r
    rw [registries, hr]
    exact List.mem_cons_self

/-- Any one registry of the bridge carries all the names that are kept. -/
theorem Agrees.carries_of_mem (ha : p.Agrees span) {r : Registry} (hr : r ∈ p.registries) :
    Carries r.outlets (Span.kept span) := by
  cases span with
  | none => exact carries_nil _
  | some current => exact ((ha.running current rfl).monitors r hr).carries

/-- The registry in use carries all the names that are kept, so whatever else is closed, they stay
open. -/
theorem Agrees.carries_current (ha : p.Agrees span) :
    Carries (outletsOf p.current.toList) (Span.kept span) := by
  cases hc : p.current with
  | some r =>
    have hr : r ∈ p.registries := by
      rw [registries, hc]
      exact List.mem_cons_self
    refine (ha.carries_of_mem hr).mono ?_
    intro o ho
    exact List.mem_append_left _ ho
  | none =>
    cases span with
    | none => exact carries_nil _
    | some current =>
      have hcurrent := (ha.running current rfl).current
      rw [hc] at hcurrent
      cases hcurrent

/-- What a build opens is held besides the outlets before, and a build that fails holds nothing. -/
theorem buildRegistry_handling {kept : List String} {rest : List Outlet} (hc : Carries rest kept)
    (h : Host) (settings : Settings) (shape : Shape) (bus : Bus) :
    Handling kept rest bus
      (outletsOf (Control.buildRegistry h settings shape bus).1.toOption.toList ++ rest)
      (Control.buildRegistry h settings shape bus).2 :=
  Registry.build_handling hc

/-- The outlets of all registries carry what those of the registry in use carry. -/
theorem carries_held {kept : List String} (hc : Carries (outletsOf p.current.toList) kept) :
    Carries p.held kept := by
  refine hc.mono ?_
  rw [held_eq]
  exact List.subset_append_left _ _

/-- During a span the bridge holds a stream for each of its variables. Outside a span nothing has to
be kept. -/
theorem Agrees.carries (ha : p.Agrees span) : Carries p.held (Span.kept span) :=
  carries_held ha.carries_current

/-- A change of parameters opens the new streams before the old ones are closed. -/
theorem update_handling {kept : List String} (hc : Carries (outletsOf p.current.toList) kept)
    (h : Host) (next : Settings) (bus : Bus) :
    Handling kept p.held bus (p.steered (p.control.update h next bus)).state.held
      (p.control.update h next bus).bus := by
  rcases p.control.update_cases h next bus with ⟨_, hu⟩ | ⟨_, hu⟩ | ⟨shape, error, _, hb, hu⟩ |
    ⟨shape, r, _, hb, hu⟩
  · rw [steered, hu]
    exact .idle
  · rw [steered, hu]
    exact .idle
  · have hbuild := buildRegistry_handling (carries_held hc) h next shape bus
    rw [hb] at hbuild
    rw [steered, hu]
    exact hbuild
  · have hbuild := buildRegistry_handling (carries_held hc) h next shape bus
    rw [hb] at hbuild
    -- what is left after closing still carries all names, because the registry in use stays
    have hleft : Carries (outletsOf p.current.toList ++ outletsOf [r]) kept :=
      hc.mono (List.subset_append_left _ _)
    have hclose := closeRegistries_handling hleft
      (p.control.slot.retired.toList ++ p.control.slot.pending.toList)
      (Control.buildRegistry h next shape bus).2
    rw [steered, hu, held_eq p]
    rw [held_eq p] at hbuild
    rw [outletsOf_append] at hclose
    refine hbuild.trans (hclose.of_perm ?_ ?_)
    · apply List.perm_iff_count.mpr
      intro o
      simp only [List.count_append, Except.toOption, Option.toList_some]
      omega
    · rw [held_eq]
      apply List.perm_iff_count.mpr
      intro o
      simp [outletsOf]

/-- A change of parameters during a span keeps a stream for each variable of the span open all the
time. -/
theorem Agrees.update_handling (ha : p.Agrees span) (h : Host) (next : Settings) (bus : Bus) :
    Handling (Span.kept span) p.held bus (p.steered (p.control.update h next bus)).state.held
      (p.control.update h next bus).bus :=
  Plugin.update_handling ha.carries_current h next bus

/-- Collecting closes the streams of a registry that was replaced. -/
theorem collect_handling {kept : List String} (hc : Carries (outletsOf p.current.toList) kept)
    (bus : Bus) :
    Handling kept p.held bus
      ({ p with control := (p.control.collect bus).2.1 } : Plugin).held
      (p.control.collect bus).2.2 := by
  have hleft : Carries (outletsOf p.current.toList ++ outletsOf p.control.slot.pending.toList)
      kept := hc.mono (List.subset_append_left _ _)
  refine (closeRegistries_handling hleft p.control.slot.retired.toList bus).of_perm ?_ ?_
  · rw [held_eq]
    apply List.perm_iff_count.mpr
    intro o
    simp only [List.count_append]
    omega
  · rw [held_eq]
    apply List.perm_iff_count.mpr
    intro o
    simp [Control.collect, Slot.collect, Slot.takeRetired, outletsOf]

/-- Collecting during a span closes streams of a retired registry only, so each variable keeps
one. -/
theorem Agrees.collect_handling (ha : p.Agrees span) (bus : Bus) :
    Handling (Span.kept span) p.held bus
      ({ p with control := (p.control.collect bus).2.1 } : Plugin).held
      (p.control.collect bus).2.2 :=
  Plugin.collect_handling ha.carries_current bus

/-- Releasing closes all streams, those of the registry in use first and then those of the slot. -/
theorem release_handling (p : Plugin) (bus : Bus) :
    Handling [] p.held bus (p.release bus).1.held (p.release bus).2 := by
  have hcurrent := closeRegistries_handling (carries_nil (outletsOf p.control.slot.values))
    p.current.toList bus
  have hslot := closeRegistries_handling (carries_nil []) p.control.slot.values
    (closeRegistries p.current.toList bus)
  rw [List.append_nil] at hslot
  rw [held, registries, outletsOf_append]
  exact hcurrent.trans hslot

/-- Preparing opens the streams of one registry, or leaves none. -/
theorem Agrees.prepare_handling (ha : p.Agrees span) (h : Host) (shape : Shape) (bus : Bus) :
    Handling (Span.kept span) p.held bus (p.prepare h shape bus).state.held
      (p.prepare h shape bus).bus := by
  rcases p.prepare_cases h bus shape with ⟨error, hr⟩ | ⟨settings, error, hb, hr⟩ |
    ⟨vars, r, hshape, hb, _, hs, hbus⟩
  · rw [hr]
    exact .idle
  · have hbuild := buildRegistry_handling ha.carries h settings shape bus
    rw [hb] at hbuild
    rw [hr]
    exact hbuild
  · have hidle := ha.idle (ha.shape_eq_none_iff.mp hshape)
    have hbuild := buildRegistry_handling ha.carries h
      { p.control.settings with vars } shape bus
    rw [hb, hidle.held_eq_nil, List.append_nil] at hbuild
    rw [hs, hbus, hidle.held_eq_nil, hidle.current, hidle.slot]
    exact hbuild

/-- A cycle uses one of the registries that the bridge held before. -/
theorem mem_registries_of_adopt {r : Registry} (hr : p.check.2.adopt.current = some r) :
    r ∈ p.registries := by
  have hadopting : r ∈ p.check.2.registries := by
    apply p.check.2.registries_adopt.mem_iff.mp
    rw [registries, hr]
    exact List.mem_cons_self
  rwa [registries, control_check, current_check] at hadopting

/-- A cycle handles the outlets of the registry in use, and adopting only moves outlets within the
bridge. -/
theorem process_handling (hs : ∀ r ∈ p.registries, r.IsSound) (kept : List String) (h : Host)
    (bus : Bus) :
    Handling kept p.held bus (p.process h bus).state.held (p.process h bus).bus := by
  have hchecked : p.check.2.held = p.held := by
    rw [held_eq, held_eq, control_check, current_check]
  have hadopted : p.held.Perm p.check.2.adopt.held := by
    rw [← hchecked]
    exact (p.check.2.registries_adopt.flatMap_right Registry.outlets).symm
  rcases p.process_cases h bus with ⟨error, _, hr⟩ | ⟨_, hstate, hbus⟩ | ⟨r, _, hr, hstate, hbus⟩
  · rw [hr, hchecked]
    exact .idle
  · rw [hstate, hbus]
    exact Handling.idle.perm hadopted
  · have hsound := hs r (mem_registries_of_adopt hr)
    have hbefore : p.check.2.adopt.held =
        r.outlets ++ outletsOf p.check.2.adopt.control.slot.values := by
      rw [held, registries, hr]
      rfl
    have hcycle := (Registry.process_handling h bus kept hsound).frame
      (outletsOf p.check.2.adopt.control.slot.values)
    rw [hbefore] at hadopted
    rw [hstate, hbus]
    exact hcycle.of_perm hadopted (List.Perm.refl _)

/-- A cycle during a span keeps a stream for each variable open: one that is rebuilt is opened
before the old one closes. -/
theorem Agrees.process_handling (ha : p.Agrees span) (h : Host) (bus : Bus) :
    Handling (Span.kept span) p.held bus (p.process h bus).state.held (p.process h bus).bus :=
  Plugin.process_handling (fun _ hr => ha.isSound_of_mem hr) _ h bus

/-- The samples of a cycle are none, or one of each variable of the registry in use. -/
theorem Agrees.process_samples (ha : p.Agrees span) (h : Host) (bus : Bus) :
    ∃ published, (p.process h bus).bus.log.toList = bus.log.toList ++ published ∧
      (framesIn published = [] ∨ ∃ r, (p.process h bus).state.current = some r ∧
        (framesIn published).map (fun frame => (frame.name, frame.id)) =
          r.adapters.map fun entry => (entry.1, entry.2.outlet.id)) := by
  rcases p.process_cases h bus with ⟨error, _, hr⟩ | ⟨_, _, hbus⟩ | ⟨r, _, hr, hs, hbus⟩
  · rw [hr]
    exact ⟨[], (List.append_nil _).symm, .inl rfl⟩
  · rw [hbus]
    exact ⟨[], (List.append_nil _).symm, .inl rfl⟩
  · obtain ⟨published, hlog, hsamples⟩ :=
      Registry.process_samples h bus (ha.isSound_of_mem (mem_registries_of_adopt hr))
    rw [hs, hbus]
    exact ⟨published, hlog, hsamples.imp_right fun hone => ⟨_, rfl, hone⟩⟩

end Plugin

namespace Session

variable {s : Session}

/-- A call that is not a release keeps a stream for each variable of the span, at each of its
messages. -/
theorem Agrees.perform_handling (ha : s.Agrees) {t : Turn} (ht : t.call ≠ .release) :
    Handling (Span.kept s.span) s.plugin.held s.bus (s.perform t).plugin.held
      (s.perform t).bus := by
  obtain ⟨call, catalogue, memory, now⟩ := t
  refine (Handling.idle.wait now).trans ?_
  cases call with
  | prepare shape => exact Plugin.Agrees.prepare_handling ha _ shape _
  | process => exact Plugin.Agrees.process_handling ha _ _
  | release => exact (ht rfl).elim
  | setVars vars =>
    have hheld := Plugin.held_of_slot_eq (s.plugin.control.slot_setVars vars)
    exact hheld ▸ .idle
  | setRtStrict rtStrict =>
    have hheld := Plugin.held_of_slot_eq (s.plugin.control.slot_setRtStrict rtStrict)
    exact hheld ▸ .idle
  | setSourceId sourceId => exact Plugin.Agrees.update_handling ha _ _ _
  | setSkip skip => exact Plugin.Agrees.update_handling ha _ _ _
  | setActivate activate => exact .idle
  | collect => exact Plugin.Agrees.collect_handling ha _

/-- Every call handles only what the bridge holds, so streams of others on the same bus are left
alone. -/
theorem Agrees.perform_handling_nil (ha : s.Agrees) (t : Turn) :
    Handling [] s.plugin.held s.bus (s.perform t).plugin.held (s.perform t).bus := by
  by_cases ht : t.call = .release
  · obtain ⟨call, catalogue, memory, now⟩ := t
    cases ht
    exact (Handling.idle.wait now).trans (Plugin.release_handling s.plugin _)
  · exact (ha.perform_handling ht).weaken (List.nil_subset _)

/-- Over any calls the bridge closes only what it holds, and in the end it holds what it has opened
and not closed. -/
theorem Agrees.after_handling_nil (ha : s.Agrees) (turns : List Turn) :
    Handling [] s.plugin.held s.bus (s.after turns).plugin.held (s.after turns).bus := by
  induction turns generalizing s with
  | nil => exact .idle
  | cons t turns ih => exact (ha.perform_handling_nil t).trans (ih (ha.perform t))

/-- Calls without a release keep a stream for each variable of the span. -/
theorem Agrees.after_handling (ha : s.Agrees) {span : Span} (hs : s.span = some span)
    {turns : List Turn} (ht : ∀ t ∈ turns, t.call ≠ .release) :
    Handling span.vars s.plugin.held s.bus (s.after turns).plugin.held (s.after turns).bus ∧
      (s.after turns).span = some span := by
  induction turns generalizing s with
  | nil => exact ⟨.idle, hs⟩
  | cons t turns ih =>
    have hcall := ht t List.mem_cons_self
    have hfirst := ha.perform_handling hcall
    rw [hs] at hfirst
    obtain ⟨hrest, hspan⟩ := ih (ha.perform t) (ha.span_perform hs hcall)
      (fun u hu => ht u (List.mem_cons_of_mem _ hu))
    exact ⟨hfirst.trans hrest, hspan⟩

/-- The open streams of the bus are those that the bridge holds. -/
theorem holds_after (settings : Settings) (probe : Option Probe) (thread : Probe) (capacity : Nat)
    (turns : List Turn) :
    ((start settings probe thread capacity).after turns).bus.Holds
      ((start settings probe thread capacity).after turns).plugin.held :=
  ((agrees_start settings probe thread capacity).after_handling_nil turns).holds
    (Bus.holds_new capacity)

/-- After every sequence of calls, whatever the variable space does in between: the messages
of each stream tell one life, with numbered samples under one name; the bus lists exactly the
streams that were opened and not closed, and these are the streams of the registries in use,
pending and retired; without a preparation there is none; and each cycle sends no sample, or
one of each variable of the settings, over its stream in use, in the order of the names. -/
theorem streams_have_one_life_and_owner (settings : Settings) (probe : Option Probe)
    (thread : Probe) (capacity : Nat) (turns : List Turn) :
    let s := (start settings probe thread capacity).after turns
    (∀ i, s.bus.messagesOf i = [] ∨
        (∃ info sent, IsAlive i info sent (s.bus.messagesOf i)) ∨ IsEnded i (s.bus.messagesOf i)) ∧
      ((s.bus.openStreams.map Prod.fst).Nodup ∧
        (∀ i info, (i, info) ∈ s.bus.openStreams ↔ OpenIn s.bus.log.toList i info) ∧
        s.bus.openStreams.Perm (s.plugin.held.map fun o => (o.id, o.info))) ∧
      (¬s.plugin.control.isPrepared = true → s.bus.openStreams = []) ∧
      (∀ t : Turn, t.call = .process → ∃ published,
        (s.perform t).bus.log.toList = s.bus.log.toList ++ published ∧
        (framesIn published = [] ∨ ∃ r, (s.perform t).plugin.current = some r ∧
          r.names.Pairwise (· < ·) ∧
          (∀ x, x ∈ r.names ↔ x ∈ (s.perform t).plugin.control.settings.vars) ∧
          (framesIn published).map (fun frame => (frame.name, frame.id)) =
            r.adapters.map fun entry => (entry.1, entry.2.outlet.id))) := by
  intro s
  have ha : s.Agrees := (agrees_start settings probe thread capacity).after turns
  have hh : s.bus.Holds s.plugin.held := holds_after settings probe thread capacity turns
  have hids : (s.bus.openStreams.map Prod.fst).Perm (s.plugin.held.map Outlet.id) := by
    have hmap := hh.table.map Prod.fst
    rwa [List.map_map] at hmap
  refine ⟨hh.life, ⟨hids.nodup_iff.mpr hh.distinct, ?_, hh.table⟩, ?_, ?_⟩
  · intro i info
    rw [hh.openIn_iff, hh.table.mem_iff, List.mem_map]
    simp only [Prod.mk.injEq]
  · intro hp
    have htable := hh.table
    rw [(ha.isIdle hp).held_eq_nil] at htable
    exact htable.eq_nil
  · intro t ht
    obtain ⟨call, catalogue, memory, now⟩ := t
    cases ht
    obtain ⟨published, hlog, hsamples⟩ := Plugin.Agrees.process_samples ha
      (Turn.host ⟨.process, catalogue, memory, now⟩) { s.bus with now }
    refine ⟨published, hlog, hsamples.imp_right ?_⟩
    rintro ⟨r, hr, hone⟩
    have hmonitors :=
      Plugin.Agrees.monitors_current (ha.perform ⟨.process, catalogue, memory, now⟩) hr
    exact ⟨r, hr, hmonitors.sound.ordered, hmonitors.names, hone⟩

end Session

end VariableBridge
