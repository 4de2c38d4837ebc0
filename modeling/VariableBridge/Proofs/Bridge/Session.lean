import VariableBridge.Bridge.Plugin
import VariableBridge.Proofs.Bridge.Cycle

/-!
# Sessions

A session is a bridge and the bus that only this bridge uses, under any sequence
of complete calls. Between two calls the variable space may change in any way and
time passes. Main statements: what each of the longer calls may do, as one case
for each way through it, so that no later proof opens a call again.
-/

namespace VariableBridge

open Space (Memory)

/-- The calls of a bridge and of its controlling side. -/
inductive Call where
  /-- Prepare for a signal. -/
  | prepare (shape : Shape)
  /-- Process a cycle. -/
  | process
  /-- Release. -/
  | release
  /-- Change the list of variables. -/
  | setVars (vars : List String)
  /-- Switch the safety check on or off. -/
  | setRtStrict (rtStrict : Bool)
  /-- Change the identifier of the source. -/
  | setSourceId (sourceId : String)
  /-- Change the number of cycles to skip. -/
  | setSkip (skip : UInt32)
  /-- Switch sending on or off. -/
  | setActivate (activate : Bool)
  /-- Drop the registry that the processing side is done with. -/
  | collect
  deriving DecidableEq, Repr

/-- A call on the controlling side of a bridge. -/
def Plugin.steered (p : Plugin) (o : Outcome Control Unit) : Outcome Plugin Unit :=
  ⟨o.result, { p with control := o.state }, o.bus⟩

/-- Make a call. -/
def Call.run (h : Host) (p : Plugin) (bus : Bus) : Call → Outcome Plugin Unit
  | .prepare shape => p.prepare h shape bus
  | .process => p.process h bus
  | .release => ⟨.ok (), (p.release bus).1, (p.release bus).2⟩
  | .setVars vars => p.steered ⟨(p.control.setVars vars).1, (p.control.setVars vars).2, bus⟩
  | .setRtStrict rtStrict =>
    p.steered ⟨(p.control.setRtStrict rtStrict).1, (p.control.setRtStrict rtStrict).2, bus⟩
  | .setSourceId sourceId => p.steered (p.control.setSourceId h sourceId bus)
  | .setSkip skip => p.steered (p.control.setSkip h skip bus)
  | .setActivate activate => p.steered ⟨.ok (), p.control.setActivate activate, bus⟩
  | .collect => p.steered ⟨.ok (), (p.control.collect bus).2.1, (p.control.collect bus).2.2⟩

/-- A call at some moment, with the variable space as it is then. -/
structure Turn where
  /-- The call. -/
  call : Call
  /-- The variables. -/
  catalogue : Catalogue
  /-- The memory that descriptors point into. -/
  memory : Memory
  /-- The time that samples are stamped with. -/
  now : Time.Instant

/-- The world around the bridge: streams are refused by nobody but the bus. -/
def Turn.host (t : Turn) : Host := ⟨t.catalogue, t.memory, fun _ => none⟩

/-- What a successful preparation has found out. -/
structure Span where
  /-- The signal of the host. -/
  shape : Shape
  /-- The variables of the settings, or all variables if the settings named none. -/
  vars : List String
  /-- Is a real-time thread refused? -/
  rtStrict : Bool

/-- A bridge with its bus. -/
structure Session where
  /-- The bridge. -/
  plugin : Plugin
  /-- The bus. -/
  bus : Bus
  /-- The last successful preparation, if no release came after it. No call looks at it. -/
  span : Option Span

namespace Session

/-- A new bridge on a new bus, called by a thread of which the system tells this. -/
def start (settings : Settings) (probe : Option Probe) (thread : Probe) (capacity : Nat) :
    Session :=
  ⟨.new settings probe thread, .new capacity, none⟩

/-- What a call answers, and the bridge and the bus after it. -/
def outcome (s : Session) (t : Turn) : Outcome Plugin Unit :=
  t.call.run t.host s.plugin { s.bus with now := t.now }

/-- The span after a call with this answer and these settings. -/
def spanAfter (s : Session) (call : Call) (result : Except BridgeError Unit)
    (settings : Settings) : Option Span :=
  match call, result with
  | .prepare shape, .ok () => some ⟨shape, settings.vars, settings.rtStrict⟩
  | .release, _ => none
  | _, _ => s.span

/-- The session after one call. -/
def perform (s : Session) (t : Turn) : Session :=
  ⟨(s.outcome t).state, (s.outcome t).bus,
    s.spanAfter t.call (s.outcome t).result (s.outcome t).state.control.settings⟩

/-- A successful preparation begins a span, with the shape it was called with and the variables it
has found. -/
theorem exists_span_perform {s : Session} {t : Turn} {shape : Shape} (ht : t.call = .prepare shape)
    (hok : (s.outcome t).result = .ok ()) : ∃ span, (s.perform t).span = some span := by
  simp only [perform, spanAfter, ht, hok]
  exact ⟨_, rfl⟩

/-- The session after some calls. -/
def after (s : Session) (turns : List Turn) : Session := turns.foldl perform s

/-- Making some calls and then others is making all of them in a row. -/
theorem after_append (s : Session) (turns turns' : List Turn) :
    s.after (turns ++ turns') = (s.after turns).after turns' :=
  List.foldl_append

end Session

namespace Plugin

/-- All registries that the bridge holds. -/
def registries (p : Plugin) : List Registry := p.current.toList ++ p.control.slot.values

/-- The registry that was built last. -/
def newest (p : Plugin) : Option Registry := p.control.slot.pending.or p.current

/-- The sending ends of all streams that the bridge holds. -/
def held (p : Plugin) : List Outlet := outletsOf p.registries

end Plugin

namespace Control

section Update

variable {c : Control} {h : Host} {next : Settings} {shape : Shape} {bus : Bus}

/-- Settings that change nothing are accepted, and neither the controls nor the bus are touched. -/
theorem update_of_eq (c : Control) (h : Host) (bus : Bus) :
    c.update h c.settings bus = ⟨.ok (), c, bus⟩ := by
  unfold update
  rw [if_pos rfl]

/-- Before the bridge is prepared new settings are only written down. The registry is built from
them later. -/
theorem update_of_unprepared (hs : c.shape = none) (h : Host) (next : Settings) (bus : Bus) :
    c.update h next bus = ⟨.ok (), { c with settings := next }, bus⟩ := by
  unfold update
  by_cases hn : next = c.settings
  · rw [if_pos hn, hn]
  · simp only [if_neg hn, hs]

/-- While prepared, a change that no registry can be built for is rejected. -/
theorem update_of_rejected (hn : next ≠ c.settings) (hs : c.shape = some shape)
    {error : BridgeError} (hb : (buildRegistry h next shape bus).1 = .error error) :
    c.update h next bus = ⟨.error error, c, (buildRegistry h next shape bus).2⟩ := by
  have hm : buildRegistry h next shape bus = (.error error, (buildRegistry h next shape bus).2) :=
    Prod.ext hb rfl
  unfold update
  simp only [if_neg hn, hs]
  rw [hm]

/-- While prepared, a change publishes the registry that was built for it and closes what was in
the slot. -/
theorem update_of_built (hn : next ≠ c.settings) (hs : c.shape = some shape) {r : Registry}
    (hb : (buildRegistry h next shape bus).1 = .ok r) :
    c.update h next bus = ⟨.ok (), { c with settings := next, slot := ⟨some r, none⟩ },
      closeRegistries (c.slot.retired.toList ++ c.slot.pending.toList)
        (buildRegistry h next shape bus).2⟩ := by
  have hm : buildRegistry h next shape bus = (.ok r, (buildRegistry h next shape bus).2) :=
    Prod.ext hb rfl
  unfold update
  simp only [if_neg hn, hs]
  rw [hm, ← hs]
  rfl

end Update

/-- Everything that a change of parameters may do: nothing, write them down, fail, or publish a
registry for them. -/
theorem update_cases (c : Control) (h : Host) (next : Settings) (bus : Bus) :
    (next = c.settings ∧ c.update h next bus = ⟨.ok (), c, bus⟩) ∨
      (c.shape = none ∧ c.update h next bus = ⟨.ok (), { c with settings := next }, bus⟩) ∨
      (∃ shape error, c.shape = some shape ∧
        (buildRegistry h next shape bus).1 = .error error ∧
        c.update h next bus = ⟨.error error, c, (buildRegistry h next shape bus).2⟩) ∨
      (∃ shape registry, c.shape = some shape ∧
        (buildRegistry h next shape bus).1 = .ok registry ∧
        c.update h next bus = ⟨.ok (), { c with settings := next, slot := ⟨some registry, none⟩ },
          closeRegistries (c.slot.retired.toList ++ c.slot.pending.toList)
            (buildRegistry h next shape bus).2⟩) := by
  by_cases hn : next = c.settings
  · left
    subst hn
    exact ⟨rfl, c.update_of_eq h bus⟩
  · right
    cases hs : c.shape with
    | none => exact .inl ⟨rfl, hs ▸ update_of_unprepared hs h next bus⟩
    | some shape =>
      right
      cases hb : (buildRegistry h next shape bus).1 with
      | error error => exact .inl ⟨shape, error, rfl, hb, update_of_rejected hn hs hb⟩
      | ok r => exact .inr ⟨shape, r, rfl, hb, hs ▸ update_of_built hn hs hb⟩

/-- No change of parameters touches the signal, so a change neither locks nor unlocks the others. -/
theorem shape_update (c : Control) (h : Host) (next : Settings) (bus : Bus) :
    (c.update h next bus).state.shape = c.shape := by
  rcases c.update_cases h next bus with ⟨_, hu⟩ | ⟨_, hu⟩ | ⟨_, _, _, _, hu⟩ | ⟨_, _, _, _, hu⟩ <;>
    rw [hu]

/-- A change of the list of variables leaves the slot alone, because the list can change only while
nothing runs. -/
theorem slot_setVars (c : Control) (vars : List String) :
    (c.setVars vars).2.slot = c.slot := by
  unfold setVars
  split
  · rfl
  · split <;> rfl

/-- The safety check has nothing to do with the slot, so no registry is published or lost by
changing it. -/
theorem slot_setRtStrict (c : Control) (rtStrict : Bool) :
    (c.setRtStrict rtStrict).2.slot = c.slot := by
  unfold setRtStrict
  split <;> rfl

/-- Naming other variables neither locks nor unlocks the parameters, so the shape stays. -/
theorem shape_setVars (c : Control) (vars : List String) :
    (c.setVars vars).2.shape = c.shape := by
  unfold setVars
  split
  · rfl
  · split <;> rfl

/-- Changing the safety check neither locks nor unlocks the parameters, so the shape stays. -/
theorem shape_setRtStrict (c : Control) (rtStrict : Bool) :
    (c.setRtStrict rtStrict).2.shape = c.shape := by
  unfold setRtStrict
  split <;> rfl

end Control

namespace Plugin

/-- Preparing fills in the list of variables and keeps all other settings. -/
theorem of_settingsToPrepare {c : Control} {h : Host} {settings : Settings}
    (hs : settingsToPrepare c h = .ok settings) :
    ∃ vars, settings = { c.settings with vars } := by
  unfold settingsToPrepare at hs
  split at hs
  · cases hd : h.catalogue.discover with
    | error error => simp [hd] at hs
    | ok vars =>
      simp only [hd, Except.ok.injEq] at hs
      exact ⟨vars, hs.symm⟩
  · obtain rfl := Except.ok.inj hs
    exact ⟨c.settings.vars, rfl⟩

variable (p : Plugin) (h : Host) (bus : Bus)

/-- Everything that the first step of preparing may do: refuse, fail to build, or lock the
parameters with a registry. -/
theorem takeOver_cases (c : Control) (h : Host) (shape : Shape) (bus : Bus) :
    (∃ error, takeOver c h shape bus = ⟨.error error, c, bus⟩) ∨
      (∃ settings error, (Control.buildRegistry h settings shape bus).1 = .error error ∧
        takeOver c h shape bus =
          ⟨.error error, c, (Control.buildRegistry h settings shape bus).2⟩) ∨
      (∃ vars registry, c.shape = none ∧
        (Control.buildRegistry h { c.settings with vars } shape bus).1 = .ok registry ∧
        takeOver c h shape bus =
          ⟨.ok registry, { c with settings := { c.settings with vars }, shape := some shape },
            (Control.buildRegistry h { c.settings with vars } shape bus).2⟩) := by
  unfold takeOver
  cases shape.validate with
  | error error => exact .inl ⟨error, rfl⟩
  | ok checked =>
    cases hp : c.isPrepared with
    | true => exact .inl ⟨_, rfl⟩
    | false =>
      have hs : c.shape = none := by simpa [Control.isPrepared] using hp
      simp only [Bool.false_eq_true, if_false]
      cases c.settings.validate with
      | error error => exact .inl ⟨error, rfl⟩
      | ok checked =>
        cases hv : settingsToPrepare c h with
        | error error => exact .inl ⟨error, rfl⟩
        | ok settings =>
          right
          obtain ⟨vars, rfl⟩ := of_settingsToPrepare hv
          cases hb : Control.buildRegistry h { c.settings with vars } shape bus with
          | mk result bus' =>
            cases result with
            | error error =>
              left
              refine ⟨{ c.settings with vars }, error, by rw [hb], ?_⟩
              simp only [hb]
            | ok registry =>
              right
              refine ⟨vars, registry, hs, by rw [hb], ?_⟩
              simp only [hb]

/-- Everything that preparing may do: refuse, fail to build and change nothing, or begin a span. -/
theorem prepare_cases (shape : Shape) :
    (∃ error, p.prepare h shape bus = ⟨.error error, p, bus⟩) ∨
      (∃ settings error, (Control.buildRegistry h settings shape bus).1 = .error error ∧
        p.prepare h shape bus =
          ⟨.error error, p, (Control.buildRegistry h settings shape bus).2⟩) ∨
      (∃ vars registry, p.control.shape = none ∧
        (Control.buildRegistry h { p.control.settings with vars } shape bus).1 = .ok registry ∧
        (p.prepare h shape bus).result = .ok () ∧
        (p.prepare h shape bus).state =
          { control := ⟨{ p.control.settings with vars }, some shape, p.control.active, .empty⟩
            current := some registry
            gate := .new p.control.settings.rtStrict
            probe := p.probe
            thread := p.thread
            probing := p.probe.isSome } ∧
        (p.prepare h shape bus).bus = closeRegistries p.current.toList
          (closeRegistries p.control.slot.values
            (Control.buildRegistry h { p.control.settings with vars } shape bus).2)) := by
  unfold prepare
  rcases takeOver_cases p.control h shape bus with ⟨error, ht⟩ | ⟨settings, error, hb, ht⟩ |
    ⟨vars, registry, hs, hb, ht⟩
  · left
    exact ⟨error, by rw [ht]⟩
  · right
    left
    exact ⟨settings, error, hb, by rw [ht]⟩
  · right
    right
    refine ⟨vars, registry, hs, hb, ?_, ?_, ?_⟩
    · rw [ht]
    · rw [ht]
      rfl
    · rw [ht]
      rfl

/-- The safety check looks at the gate and at what it may ask only. -/
@[simp] theorem control_check : p.check.2.control = p.control := by
  unfold check
  split <;> rfl

/-- The check is made in front of everything else in a cycle and leaves the registry in use as it
is. -/
@[simp] theorem current_check : p.check.2.current = p.current := by
  unfold check
  split <;> rfl

/-- Everything that a cycle may do: fail its check, only adopt, or let the registry in use have its
cycle. -/
theorem process_cases :
    (∃ error, p.check.1 = .error error ∧ p.process h bus = ⟨.error error, p.check.2, bus⟩) ∨
      (p.check.1 = .ok () ∧ (p.process h bus).state = p.check.2.adopt ∧
        (p.process h bus).bus = bus) ∨
      (∃ r, p.check.1 = .ok () ∧ p.check.2.adopt.current = some r ∧
        (p.process h bus).state =
          { p.check.2.adopt with current := some (r.process h bus).state } ∧
        (p.process h bus).bus = (r.process h bus).bus) := by
  unfold process
  cases hc : p.check with
  | mk verdict admitted =>
    cases verdict with
    | error error => exact .inl ⟨error, rfl, rfl⟩
    | ok checked =>
      right
      cases ha : admitted.adopt.control.active with
      | false =>
        left
        simp only [ha, Bool.false_eq_true, if_false, and_self]
      | true =>
        cases hr : admitted.adopt.current with
        | none =>
          left
          simp only [ha, hr, if_true, and_self]
        | some r =>
          right
          refine ⟨r, rfl, rfl, ?_⟩
          simp only [ha, hr, if_true, and_self]

/-- If the check fails, the cycle ends with its error. Nothing is adopted, and the bus is not
touched. -/
theorem process_of_error {error : BridgeError} (hc : p.check.1 = .error error) :
    p.process h bus = ⟨.error error, p.check.2, bus⟩ := by
  unfold process
  simp only [hc]

/-- A cycle that passes the safety check adopts what is pending and is a cycle of the registry
in use, if there is one and sending is switched on. -/
theorem process_of_ok (hc : p.check.1 = .ok ()) :
    p.process h bus =
      if p.check.2.adopt.control.active then
        match p.check.2.adopt.current with
        | none => ⟨.ok (), p.check.2.adopt, bus⟩
        | some r => ⟨(r.process h bus).result.map fun _ => (),
            { p.check.2.adopt with current := some (r.process h bus).state },
            (r.process h bus).bus⟩
      else ⟨.ok (), p.check.2.adopt, bus⟩ := by
  unfold process
  simp only [hc]
  cases p.check.2.adopt.current with
  | none => rfl
  | some r =>
    dsimp only
    cases (r.process h bus).result <;> rfl

/-- Everything that adopting may do: swap the pending registry in, or leave the bridge as it is. -/
theorem adopt_cases :
    (∃ v, p.control.slot = ⟨some v, none⟩ ∧ p.adopt =
        { p with current := some v, control := { p.control with slot := ⟨none, p.current⟩ } }) ∨
      ((p.control.slot.pending = none ∨ p.control.slot.retired ≠ none) ∧ p.adopt = p) := by
  obtain ⟨⟨settings, shape, active, ⟨pending, retired⟩⟩, current, gate, probe, thread, probing⟩ := p
  cases pending with
  | none => exact .inr ⟨.inl rfl, rfl⟩
  | some v =>
    cases retired with
    | none => exact .inl ⟨v, rfl, rfl⟩
    | some old => exact .inr ⟨.inr (Option.some_ne_none old), rfl⟩

/-- Adopting moves registries between the cells and the bridge, and drops none of them. -/
theorem registries_adopt : p.adopt.registries.Perm p.registries := by
  rcases p.adopt_cases with ⟨v, hs, ha⟩ | ⟨_, ha⟩
  · rw [ha, registries, registries, hs]
    exact List.perm_append_comm
  · rw [ha]

/-- Adopting makes the newest registry the current one, so which one is the newest does not
change. -/
theorem newest_adopt : p.adopt.newest = p.newest := by
  rcases p.adopt_cases with ⟨v, hs, ha⟩ | ⟨_, ha⟩
  · rw [ha, newest, newest, hs]
    rfl
  · rw [ha]

/-- Nothing stays pending if the place for the old registry is free. -/
theorem pending_adopt (hfree : p.control.slot.pending = none ∨ p.control.slot.retired = none) :
    p.adopt.control.slot.pending = none := by
  rcases p.adopt_cases with ⟨v, _, ha⟩ | ⟨hkeep, ha⟩
  · rw [ha]
  · rw [ha]
    rcases hfree with hp | hr
    · exact hp
    · exact hkeep.resolve_right (fun hne => hne hr)

/-- Adopting never leaves a bridge without a registry: what it puts aside is replaced by what it
takes. -/
theorem isSome_current_adopt (hc : p.current.isSome = true) : p.adopt.current.isSome = true := by
  rcases p.adopt_cases with ⟨v, _, ha⟩ | ⟨_, ha⟩
  · rw [ha]
    rfl
  · rw [ha]
    exact hc

end Plugin

end VariableBridge
