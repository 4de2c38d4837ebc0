import VariableBridge.Proofs.Bridge.Session

/-!
# Settings and registries agree

A bridge is either idle or running. An idle one holds no registry; a running one
holds registries for the variables that it was prepared with, and the newest of
them follows the settings. Main statements: every call takes an idle or running
bridge to an idle or running one; hence settings and registries agree after every
sequence of calls.
-/

namespace VariableBridge

/-- Is the registry one for exactly these variables? -/
structure Registry.Monitors (r : Registry) (vars : List String) : Prop where
  /-- Every name has one adapter, in ascending order. -/
  sound : r.IsSound
  /-- The names are those of the variables. -/
  names : ∀ x, x ∈ r.names ↔ x ∈ vars

/-- Is the registry the one that the settings ask for? -/
structure Registry.Follows (r : Registry) (settings : Settings) (shape : Shape) : Prop where
  /-- The names are those of the variables of the settings. -/
  monitors : r.Monitors settings.vars
  /-- The skip interval is that of the settings. -/
  skip : r.skip = settings.skip
  /-- The streams have the rate and the source of the settings. -/
  context : r.context = ⟨shape.streamRate settings.skip, settings.sourceId⟩

namespace Plugin

/-- A bridge that is not prepared. -/
structure IsIdle (p : Plugin) : Prop where
  /-- The parameters are not locked. -/
  shape : p.control.shape = none
  /-- There is no registry to use. -/
  current : p.current = none
  /-- There is none in the slot either. -/
  slot : p.control.slot = .empty

/-- A bridge since a preparation. -/
structure IsRunning (span : Span) (p : Plugin) : Prop where
  /-- The parameters are locked. -/
  shape : p.control.shape = some span.shape
  /-- The list of variables has not changed. -/
  vars : p.control.settings.vars = span.vars
  /-- Neither has the safety check. -/
  rtStrict : p.control.settings.rtStrict = span.rtStrict
  /-- There is a registry to use. -/
  current : p.current.isSome = true
  /-- A pending registry never waits for a retired one. -/
  free : p.control.slot.pending = none ∨ p.control.slot.retired = none
  /-- All registries are for the variables of the settings. -/
  monitors : ∀ r ∈ p.registries, r.Monitors span.vars
  /-- The newest one follows the settings. -/
  follows : ∀ r, p.newest = some r → r.Follows p.control.settings span.shape

/-- The switch that cycles look at is that of the settings, and the bridge is idle, or has
been running since this span began. -/
structure Agrees (span : Option Span) (p : Plugin) : Prop where
  /-- The switch agrees with the settings. -/
  flag : p.control.active = p.control.settings.activate
  /-- Without a span the bridge is idle. -/
  idle : span = none → p.IsIdle
  /-- With a span the bridge is running. -/
  running : ∀ current, span = some current → p.IsRunning current

variable {p p' : Plugin} {span : Span} {h : Host} {bus : Bus}

/-- A new registry follows the settings it was built for, in its names, its skip and the rate and
source of its streams. -/
theorem of_buildRegistry {settings : Settings} {shape : Shape} {r : Registry}
    (hb : (Control.buildRegistry h settings shape bus).1 = .ok r) :
    r.Follows settings shape :=
  ⟨⟨Registry.isSound_of_build hb, fun _ => Registry.mem_names_of_build hb⟩,
    Registry.skip_of_build hb, Registry.context_of_build hb⟩

/-- An idle bridge agrees with no span. Only the switch remains to be compared, because there is no
running bridge to speak of. -/
theorem Agrees.of_idle (hf : p.control.active = p.control.settings.activate) (hp : p.IsIdle) :
    p.Agrees none := by
  refine ⟨hf, fun _ => hp, ?_⟩
  intro current hc
  cases hc

/-- A running bridge agrees with its span once the switch has the value that the settings ask
for. -/
theorem Agrees.of_running (hf : p.control.active = p.control.settings.activate)
    (hp : p.IsRunning span) : p.Agrees (some span) := by
  refine ⟨hf, ?_, ?_⟩
  · intro hn
    cases hn
  · intro current hc
    obtain rfl := Option.some.inj hc
    exact hp

/-- The parameters are locked exactly during a span: with the shape that it was prepared for. -/
theorem Agrees.shape_eq_none_iff {span : Option Span} (ha : p.Agrees span) :
    p.control.shape = none ↔ span = none := by
  cases span with
  | none => exact iff_of_true (ha.idle rfl).shape rfl
  | some current =>
    rw [(ha.running current rfl).shape]
    exact iff_of_false (Option.some_ne_none _) (Option.some_ne_none _)

/-- Whether a bridge runs is seen from its controls and its current registry, so gate and probe do
not matter. -/
theorem IsRunning.congr (hp : p.IsRunning span) (hcontrol : p'.control = p.control)
    (hcurrent : p'.current = p.current) : p'.IsRunning span := by
  obtain ⟨control, current, gate, probe, thread, probing⟩ := p'
  subst hcontrol hcurrent
  exact ⟨hp.shape, hp.vars, hp.rtStrict, hp.current, hp.free, hp.monitors, hp.follows⟩

/-- Whether a bridge is idle is seen from its controls and its current registry alone, so gate and
probe may change. -/
theorem IsIdle.congr (hp : p.IsIdle) (hcontrol : p'.control = p.control)
    (hcurrent : p'.current = p.current) : p'.IsIdle := by
  obtain ⟨control, current, gate, probe, thread, probing⟩ := p'
  subst hcontrol hcurrent
  exact ⟨hp.shape, hp.current, hp.slot⟩

/-- Adopting the pending registry keeps a bridge running and leaves nothing pending, so the next
cycle adopts nothing. -/
theorem IsRunning.adopt (hp : p.IsRunning span) :
    p.adopt.IsRunning span ∧ p.adopt.control.slot.pending = none := by
  have hpending := p.pending_adopt hp.free
  have hcontrol : p.adopt.control.shape = p.control.shape ∧
      p.adopt.control.settings = p.control.settings := ⟨rfl, rfl⟩
  refine ⟨⟨?_, ?_, ?_, p.isSome_current_adopt hp.current, .inl hpending, ?_, ?_⟩, hpending⟩
  · rw [hcontrol.1]
    exact hp.shape
  · rw [hcontrol.2]
    exact hp.vars
  · rw [hcontrol.2]
    exact hp.rtStrict
  · intro r hr
    exact hp.monitors r (p.registries_adopt.mem_iff.mp hr)
  · intro r hr
    rw [newest_adopt] at hr
    rw [hcontrol.2]
    exact hp.follows r hr

/-- An idle bridge has an empty slot, so there is no registry to adopt and the poll of the next
cycle changes nothing. -/
theorem IsIdle.adopt (hp : p.IsIdle) : p.adopt = p := by
  rcases p.adopt_cases with ⟨v, hs, _⟩ | ⟨_, ha⟩
  · rw [hp.slot] at hs
    cases hs
  · exact ha

/-- A cycle of the current registry keeps what the settings ask for. -/
theorem IsRunning.cycled (hp : p.IsRunning span) (hpending : p.control.slot.pending = none)
    {r : Registry} (hr : p.current = some r) (h : Host) (bus : Bus) :
    ({ p with current := some (r.process h bus).state } : Plugin).IsRunning span := by
  have hmem : r ∈ p.registries := by
    rw [registries, hr]
    exact List.mem_cons_self
  -- nothing is pending, so the registry in use is the newest one
  have hnewest : p.newest = some r := by
    rw [newest, hpending, hr]
    rfl
  have hmonitors : (r.process h bus).state.Monitors span.vars := by
    refine ⟨Registry.isSound_process h bus (hp.monitors r hmem).sound, ?_⟩
    rw [Registry.names_process]
    exact (hp.monitors r hmem).names
  refine ⟨hp.shape, hp.vars, hp.rtStrict, rfl, hp.free, ?_, ?_⟩
  · intro q hq
    rcases List.mem_cons.mp hq with rfl | hq
    · exact hmonitors
    · exact hp.monitors q (List.mem_append_right _ hq)
  · intro q hq
    have hcycled : q = (r.process h bus).state := by
      rw [newest, hpending] at hq
      exact (Option.some.inj hq).symm
    rw [hcycled]
    refine ⟨hp.vars ▸ hmonitors, ?_, ?_⟩
    · rw [Registry.skip_process]
      exact (hp.follows r hnewest).skip
    · rw [Registry.context_process]
      exact (hp.follows r hnewest).context

section Calls

variable {span : Option Span}

/-- Only the newest registry matters when a registry is published. -/
theorem IsRunning.published {span : Span} (hp : p.IsRunning span) {next : Settings}
    (hvars : next.vars = p.control.settings.vars)
    (hstrict : next.rtStrict = p.control.settings.rtStrict) {r : Registry}
    (hr : r.Follows next span.shape) :
    ({ p with control := { p.control with settings := next, slot := ⟨some r, none⟩ } } :
      Plugin).IsRunning span := by
  refine ⟨hp.shape, hvars.trans hp.vars, hstrict.trans hp.rtStrict, hp.current, .inr rfl, ?_, ?_⟩
  · intro q hq
    rcases List.mem_append.mp hq with hq | hq
    · exact hp.monitors q (List.mem_append_left _ hq)
    · obtain rfl := List.mem_singleton.mp hq
      rw [← hp.vars, ← hvars]
      exact hr.monitors
  · intro q hq
    obtain rfl := Option.some.inj hq
    exact hr

/-- A change of another parameter than the list of variables, the safety check and the
switch keeps the agreement, also if no registry can be built. -/
theorem Agrees.update (ha : p.Agrees span) (h : Host) {next : Settings} (bus : Bus)
    (hvars : next.vars = p.control.settings.vars)
    (hstrict : next.rtStrict = p.control.settings.rtStrict)
    (hactivate : next.activate = p.control.settings.activate) :
    (p.steered (p.control.update h next bus)).state.Agrees span := by
  rcases p.control.update_cases h next bus with ⟨_, hu⟩ | ⟨hs, hu⟩ | ⟨shape, error, _, _, hu⟩ |
    ⟨shape, r, hs, hb, hu⟩
  · rw [steered, hu]
    exact ha
  · obtain rfl := ha.shape_eq_none_iff.mp hs
    have hidle := ha.idle rfl
    have hflag := ha.flag.trans hactivate.symm
    rw [steered, hu]
    exact .of_idle hflag ⟨hs, hidle.current, hidle.slot⟩
  · rw [steered, hu]
    exact ha
  · rw [steered, hu]
    refine ⟨ha.flag.trans hactivate.symm, ?_, ?_⟩
    · intro hspan
      rw [ha.shape_eq_none_iff.mpr hspan] at hs
      cases hs
    · intro current hc
      have hrunning := ha.running current hc
      have hshape : shape = current.shape := Option.some.inj (hs.symm.trans hrunning.shape)
      rw [hshape] at hb
      exact hrunning.published hvars hstrict (of_buildRegistry hb)

/-- A list of variables or a safety check is changed only while the bridge is idle. -/
theorem Agrees.unlocked (ha : p.Agrees none) {next : Settings}
    (hactivate : next.activate = p.control.settings.activate) :
    ({ p with control := { p.control with settings := next } } : Plugin).Agrees none := by
  have hidle := ha.idle rfl
  have hflag := ha.flag.trans hactivate.symm
  exact .of_idle hflag ⟨hidle.shape, hidle.current, hidle.slot⟩

/-- Agreement and the lock tell the same: a bridge whose parameters are not locked has no span, so
it is idle. -/
theorem Agrees.eq_none_of_not_isPrepared (ha : p.Agrees span)
    (hp : ¬p.control.isPrepared = true) : span = none := by
  apply ha.shape_eq_none_iff.mp
  simpa [Control.isPrepared] using hp

/-- Naming other variables keeps the agreement. During a span the call is refused, and in between
nothing was built from the names. -/
theorem Agrees.setVars (ha : p.Agrees span) (vars : List String) :
    ({ p with control := (p.control.setVars vars).2 } : Plugin).Agrees span := by
  unfold Control.setVars
  by_cases hp : p.control.isPrepared = true
  · rw [if_pos hp]
    exact ha
  · rw [if_neg hp]
    obtain rfl := ha.eq_none_of_not_isPrepared hp
    cases Settings.checkNames vars with
    | error error => exact ha
    | ok checked => exact ha.unlocked rfl

/-- Changing the safety check keeps the agreement, for the same reason: it is refused as long as a
span lasts. -/
theorem Agrees.setRtStrict (ha : p.Agrees span) (rtStrict : Bool) :
    ({ p with control := (p.control.setRtStrict rtStrict).2 } : Plugin).Agrees span := by
  unfold Control.setRtStrict
  by_cases hp : p.control.isPrepared = true
  · rw [if_pos hp]
    exact ha
  · rw [if_neg hp]
    obtain rfl := ha.eq_none_of_not_isPrepared hp
    exact ha.unlocked rfl

/-- Switching sending on or off keeps the agreement. The switch and the settings change together,
and no registry is touched. -/
theorem Agrees.setActivate (ha : p.Agrees span) (activate : Bool) :
    ({ p with control := p.control.setActivate activate } : Plugin).Agrees span := by
  refine ⟨rfl, ?_, ?_⟩
  · intro hspan
    have hidle := ha.idle hspan
    exact ⟨hidle.shape, hidle.current, hidle.slot⟩
  · intro current hc
    have hrunning := ha.running current hc
    refine ⟨hrunning.shape, hrunning.vars, hrunning.rtStrict, hrunning.current, hrunning.free,
      hrunning.monitors, ?_⟩
    intro r hr
    have hfollows := hrunning.follows r hr
    exact ⟨hfollows.monitors, hfollows.skip, hfollows.context⟩

/-- Collecting drops a registry that was replaced, never the newest one, so the agreement is
kept. -/
theorem Agrees.collect (ha : p.Agrees span) (bus : Bus) :
    ({ p with control := (p.control.collect bus).2.1 } : Plugin).Agrees span := by
  refine ⟨ha.flag, ?_, ?_⟩
  · intro hspan
    have hidle := ha.idle hspan
    refine ⟨hidle.shape, hidle.current, ?_⟩
    change Slot.mk p.control.slot.pending none = .empty
    rw [hidle.slot]
    rfl
  · intro current hc
    have hrunning := ha.running current hc
    refine ⟨hrunning.shape, hrunning.vars, hrunning.rtStrict, hrunning.current, .inr rfl, ?_,
      hrunning.follows⟩
    intro r hr
    apply hrunning.monitors r
    rcases List.mem_append.mp hr with hr | hr
    · exact List.mem_append_left _ hr
    · refine List.mem_append_right _ (List.mem_append_left _ ?_)
      change r ∈ p.control.slot.pending.toList ++ [] at hr
      rwa [List.append_nil] at hr

/-- Releasing makes every bridge idle: the registry in use and the slot are given up, and the lock
is opened. -/
theorem Agrees.release (ha : p.Agrees span) (bus : Bus) : (p.release bus).1.Agrees none :=
  .of_idle ha.flag ⟨rfl, rfl, rfl⟩

/-- A cycle keeps the agreement, also if it fails: what it may do is adopt the newest registry and
let it pass. -/
theorem Agrees.process (ha : p.Agrees span) (h : Host) (bus : Bus) :
    (p.process h bus).state.Agrees span := by
  have hchecked : p.check.2.Agrees span := by
    refine ⟨by rw [control_check]; exact ha.flag, ?_, ?_⟩
    · intro hspan
      exact (ha.idle hspan).congr p.control_check p.current_check
    · intro current hc
      exact (ha.running current hc).congr p.control_check p.current_check
  have hadopted : p.check.2.adopt.Agrees span := by
    refine ⟨hchecked.flag, ?_, ?_⟩
    · intro hspan
      rw [(hchecked.idle hspan).adopt]
      exact hchecked.idle hspan
    · intro current hc
      exact (hchecked.running current hc).adopt.1
  rcases p.process_cases h bus with ⟨error, _, hr⟩ | ⟨_, hs, _⟩ | ⟨r, _, hr, hs, _⟩
  · rw [hr]
    exact hchecked
  · rw [hs]
    exact hadopted
  · rw [hs]
    refine ⟨hadopted.flag, ?_, ?_⟩
    · intro hspan
      rw [(hadopted.idle hspan).current] at hr
      cases hr
    · intro current hc
      obtain ⟨hrunning, hpending⟩ := (hchecked.running current hc).adopt
      exact hrunning.cycled hpending hr h bus

/-- A cycle that passes the safety check leaves nothing pending. -/
theorem Agrees.pending_process (ha : p.Agrees span) (hv : p.check.1 = .ok ()) (h : Host)
    (bus : Bus) : (p.process h bus).state.control.slot.pending = none := by
  have hfree : p.check.2.control.slot.pending = none ∨ p.check.2.control.slot.retired = none := by
    rw [control_check]
    cases span with
    | none =>
      rw [(ha.idle rfl).slot]
      exact .inl rfl
    | some current => exact (ha.running current rfl).free
  have hpending := p.check.2.pending_adopt hfree
  rcases p.process_cases h bus with ⟨error, hfails, _⟩ | ⟨_, hs, _⟩ | ⟨r, _, _, hs, _⟩
  · rw [hv] at hfails
    cases hfails
  · rw [hs]
    exact hpending
  · rw [hs]
    exact hpending

/-- A preparation that fails changes nothing, and one that succeeds begins a span. -/
theorem Agrees.prepare (ha : p.Agrees span) (h : Host) (shape : Shape) (bus : Bus) :
    ((∃ error, (p.prepare h shape bus).result = .error error) ∧
        (p.prepare h shape bus).state.Agrees span) ∨
      (span = none ∧ (p.prepare h shape bus).result = .ok () ∧
        (p.prepare h shape bus).state.Agrees (some ⟨shape,
          (p.prepare h shape bus).state.control.settings.vars,
          (p.prepare h shape bus).state.control.settings.rtStrict⟩)) := by
  rcases p.prepare_cases h bus shape with ⟨error, hr⟩ | ⟨settings, error, _, hr⟩ |
    ⟨vars, r, hshape, hb, hok, hs, _⟩
  · left
    rw [hr]
    exact ⟨⟨error, rfl⟩, ha⟩
  · left
    rw [hr]
    exact ⟨⟨error, rfl⟩, ha⟩
  · right
    have hfollows := of_buildRegistry hb
    refine ⟨ha.shape_eq_none_iff.mp hshape, hok, ?_⟩
    rw [hs]
    refine .of_running ha.flag ⟨rfl, rfl, rfl, rfl, .inl rfl, ?_, ?_⟩
    · intro q hq
      obtain rfl := List.mem_singleton.mp hq
      exact hfollows.monitors
    · intro q hq
      obtain rfl := Option.some.inj hq
      exact hfollows

end Calls

end Plugin

namespace Session

/-- Settings and registries of the bridge agree. -/
def Agrees (s : Session) : Prop := s.plugin.Agrees s.span

/-- A new session agrees with no span: nothing was prepared, the slot is empty, and the switch
starts with the value of the settings. -/
theorem agrees_start (settings : Settings) (probe : Option Probe) (thread : Probe)
    (capacity : Nat) :
    (start settings probe thread capacity).Agrees :=
  Plugin.Agrees.of_idle rfl ⟨rfl, rfl, rfl⟩

/-- Only a release ends a span. A second preparation is refused, and no other call touches the
lock. -/
theorem Agrees.span_perform {s : Session} (ha : s.Agrees) {span : Span} (hs : s.span = some span)
    {t : Turn} (ht : t.call ≠ .release) : (s.perform t).span = some span := by
  obtain ⟨call, catalogue, memory, now⟩ := t
  cases call with
  | release => exact (ht rfl).elim
  | prepare shape =>
    rcases Plugin.Agrees.prepare ha _ shape _ with ⟨⟨error, hr⟩, _⟩ | ⟨hnone, _⟩
    · unfold Session.perform spanAfter
      rw [outcome, Call.run, hr]
      exact hs
    · rw [hs] at hnone
      cases hnone
  | _ => exact hs

/-- Every call keeps the agreement, whether it succeeds or not, and whatever variables it finds. -/
theorem Agrees.perform {s : Session} (ha : s.Agrees) (t : Turn) : (s.perform t).Agrees := by
  obtain ⟨call, catalogue, memory, now⟩ := t
  cases call with
  | prepare shape =>
    rcases Plugin.Agrees.prepare ha _ shape _ with ⟨⟨error, hr⟩, hs⟩ | ⟨_, hr, hs⟩
    · unfold Agrees Session.perform spanAfter
      rw [outcome, Call.run, hr]
      exact hs
    · unfold Agrees Session.perform spanAfter
      rw [outcome, Call.run, hr]
      exact hs
  | process => exact Plugin.Agrees.process ha _ _
  | release => exact Plugin.Agrees.release ha { s.bus with now }
  | setVars vars => exact Plugin.Agrees.setVars ha vars
  | setRtStrict rtStrict => exact Plugin.Agrees.setRtStrict ha rtStrict
  | setSourceId sourceId => exact Plugin.Agrees.update ha _ _ rfl rfl rfl
  | setSkip skip => exact Plugin.Agrees.update ha _ _ rfl rfl rfl
  | setActivate activate => exact Plugin.Agrees.setActivate ha activate
  | collect => exact Plugin.Agrees.collect ha { s.bus with now }

/-- Settings and registries agree after every sequence of calls, by induction on the calls with
`Agrees.perform` as the step. -/
theorem Agrees.after {s : Session} (ha : s.Agrees) (turns : List Turn) :
    (s.after turns).Agrees := by
  induction turns generalizing s with
  | nil => exact ha
  | cons t turns ih => exact ih (ha.perform t)

/-- Calls without a release keep the span that they began in, with its shape, its variables and its
strictness. -/
theorem Agrees.span_after {s : Session} (ha : s.Agrees) {span : Span} (hs : s.span = some span)
    {turns : List Turn} (ht : ∀ t ∈ turns, t.call ≠ .release) :
    (s.after turns).span = some span := by
  induction turns generalizing s with
  | nil => exact hs
  | cons t turns ih =>
    exact ih (ha.perform t) (ha.span_perform hs (ht t List.mem_cons_self))
      (fun u hu => ht u (List.mem_cons_of_mem _ hu))

/-- A prepared bridge has a span, and its newest registry follows the settings. -/
theorem Agrees.exists_newest {s : Session} (ha : s.Agrees)
    (hp : s.plugin.control.isPrepared = true) :
    ∃ span r, s.span = some span ∧ s.plugin.newest = some r ∧
      r.Follows s.plugin.control.settings span.shape ∧
      s.plugin.control.settings.vars = span.vars ∧
      s.plugin.control.settings.rtStrict = span.rtStrict := by
  cases hspan : s.span with
  | none =>
    have hshape := (Plugin.Agrees.idle ha hspan).shape
    rw [Control.isPrepared, hshape] at hp
    cases hp
  | some span =>
    have hrunning := Plugin.Agrees.running ha span hspan
    obtain ⟨current, hc⟩ := Option.isSome_iff_exists.mp hrunning.current
    have hnewest : ∃ r, s.plugin.newest = some r := by
      unfold Plugin.newest
      rw [hc]
      cases s.plugin.control.slot.pending with
      | none => exact ⟨current, rfl⟩
      | some r => exact ⟨r, rfl⟩
    obtain ⟨r, hr⟩ := hnewest
    exact ⟨span, r, rfl, hr, hrunning.follows r hr, hrunning.vars, hrunning.rtStrict⟩

/-- A bridge is prepared exactly while it has a registry to use. -/
theorem Agrees.isPrepared_iff {s : Session} (ha : s.Agrees) :
    s.plugin.control.isPrepared = true ↔ s.plugin.current.isSome = true := by
  cases hspan : s.span with
  | none =>
    have hidle := Plugin.Agrees.idle ha hspan
    rw [Control.isPrepared, hidle.shape, hidle.current]
    exact Iff.rfl
  | some span =>
    have hrunning := Plugin.Agrees.running ha span hspan
    rw [Control.isPrepared, hrunning.shape]
    exact iff_of_true rfl hrunning.current

/-- A bridge that is not prepared holds no registry at all, neither in use nor in the slot. -/
theorem Agrees.isIdle {s : Session} (ha : s.Agrees) (hp : ¬s.plugin.control.isPrepared = true) :
    s.plugin.IsIdle :=
  Plugin.Agrees.idle ha (Plugin.Agrees.eq_none_of_not_isPrepared ha hp)

/-- After every sequence of calls, whatever the variable space does in between: the bridge is
prepared exactly while it has a registry to use; unprepared it keeps no other registry; and
prepared its newest registry follows the settings for the signal of the last successful
preparation, since which variables and safety check are the same. A cycle that passes the
safety check leaves nothing pending, so that the registry in use is the newest one. -/
theorem settings_never_drift_apart (settings : Settings) (probe : Option Probe) (thread : Probe)
    (capacity : Nat) (turns : List Turn) :
    let s := (start settings probe thread capacity).after turns
    let c := s.plugin.control
    (c.isPrepared = true ↔ s.plugin.current.isSome = true) ∧
      (¬c.isPrepared = true → c.slot.pending = none ∧ c.slot.retired = none) ∧
      (c.isPrepared = true → ∃ span r, s.span = some span ∧ s.plugin.newest = some r ∧
        r.Follows c.settings span.shape ∧ c.settings.vars = span.vars ∧
        c.settings.rtStrict = span.rtStrict) ∧
      c.active = c.settings.activate ∧
      (∀ t : Turn, t.call = .process → s.plugin.check.1 = .ok () →
        let p := (s.perform t).plugin
        p.control.slot.pending = none ∧
        (p.control.isPrepared = true → ∃ span r, (s.perform t).span = some span ∧
          p.current = some r ∧ r.Follows p.control.settings span.shape)) := by
  intro s c
  have ha : s.Agrees := (agrees_start settings probe thread capacity).after turns
  refine ⟨ha.isPrepared_iff, ?_, ha.exists_newest, Plugin.Agrees.flag ha, ?_⟩
  · intro hp
    have hslot : c.slot = .empty := (ha.isIdle hp).slot
    rw [hslot]
    exact ⟨rfl, rfl⟩
  · intro t ht hv
    obtain ⟨call, catalogue, memory, now⟩ := t
    cases ht
    intro p
    have hpending : p.control.slot.pending = none := Plugin.Agrees.pending_process ha hv _ _
    refine ⟨hpending, ?_⟩
    intro hp
    obtain ⟨span, r, hspan, hr, hfollows, _, _⟩ := (ha.perform _).exists_newest hp
    refine ⟨span, r, hspan, ?_, hfollows⟩
    rw [← hr, Plugin.newest, hpending]
    rfl

end Session

end VariableBridge
