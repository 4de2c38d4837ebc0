import VariableBridge.Proofs.Bridge.Interleaving

/-!
# What survives between steps

A change of parameters that falls between two steps of preparing or releasing is
not seen by the step that follows. Main statements: the registry of a finished
preparation follows the settings exactly if the calls between its steps left skip
interval and source as they were; and a finished release leaves no registry
exactly if no such call came after it had emptied the slot.
-/

namespace VariableBridge

/-- The parameters that may be changed at any time and that show in the streams. -/
structure Tuning where
  /-- Cycles to skip after each one that sends. -/
  skip : UInt32
  /-- Identifier of the source. -/
  sourceId : String
  deriving DecidableEq, Repr

/-- What the settings ask for. -/
def Settings.tuning (s : Settings) : Tuning := ⟨s.skip, s.sourceId⟩

/-- What a registry was built with. -/
def Registry.tuning (r : Registry) : Tuning := ⟨r.skip, r.context.sourceId⟩

/-- Settings that differ at most in what may be changed at any time are told apart by it. -/
theorem Settings.ne_tuning {s next : Settings} (hvars : next.vars = s.vars)
    (hstrict : next.rtStrict = s.rtStrict) (hactivate : next.activate = s.activate)
    (hn : next ≠ s) : next.tuning ≠ s.tuning := by
  intro ht
  apply hn
  obtain ⟨hskip, hsource⟩ := Tuning.mk.inj ht
  cases s
  cases next
  simp_all

namespace Plugin

variable {p q : Plugin}

/-- What a call of the controlling side may do to a bridge: if it changes the tuning of a prepared
bridge, it publishes a registry with the new one, and otherwise it publishes none. -/
structure IsSteered (p q : Plugin) : Prop where
  /-- The registry in use stays. -/
  current : q.current = p.current
  /-- So does the signal. -/
  shape : q.control.shape = p.control.shape
  /-- Nothing is retired. -/
  retired : p.control.slot.retired = none → q.control.slot.retired = none
  /-- A registry is published exactly if the tuning of a prepared bridge changes. -/
  pending : (q.control.slot.pending = p.control.slot.pending ∧
      (p.control.isPrepared = true → q.control.settings.tuning = p.control.settings.tuning)) ∨
    (p.control.isPrepared = true ∧ q.control.settings.tuning ≠ p.control.settings.tuning ∧
      ∃ r, q.control.slot.pending = some r ∧ r.tuning = q.control.settings.tuning)

/-- A bridge that stays as it is counts as steered: its tuning does not change, and no registry is
published. -/
theorem IsSteered.refl (p : Plugin) : p.IsSteered p :=
  ⟨rfl, rfl, fun hr => hr, .inl ⟨rfl, fun _ => rfl⟩⟩

/-- A change that leaves variables, safety check and switch alone either is a change of the tuning,
for which a registry is published, or publishes none. -/
theorem isSteered_update (h : Host) {next : Settings} (bus : Bus)
    (hvars : next.vars = p.control.settings.vars)
    (hstrict : next.rtStrict = p.control.settings.rtStrict)
    (hactivate : next.activate = p.control.settings.activate) :
    p.IsSteered (p.steered (p.control.update h next bus)).state := by
  by_cases hn : next = p.control.settings
  · rw [hn, Control.update_of_eq]
    exact .refl p
  · have hne := Settings.ne_tuning hvars hstrict hactivate hn
    rcases p.control.update_cases h next bus with ⟨heq, _⟩ | ⟨hs, hu⟩ | ⟨shape, error, _, _, hu⟩ |
      ⟨shape, r, hs, hb, hu⟩
    · exact absurd heq hn
    · rw [hu]
      refine ⟨rfl, rfl, fun hr => hr, .inl ⟨rfl, ?_⟩⟩
      intro hp
      rw [Control.isPrepared, hs] at hp
      cases hp
    · rw [hu]
      exact .refl p
    · have hp : p.control.isPrepared = true := by
        rw [Control.isPrepared, hs]
        rfl
      have hfollows := of_buildRegistry hb
      have ht : r.tuning = next.tuning := by
        unfold Registry.tuning Settings.tuning
        rw [hfollows.skip, hfollows.context]
      rw [hu]
      exact ⟨rfl, rfl, fun _ => rfl, .inr ⟨hp, hne, r, rfl, ht⟩⟩

/-- The list of variables and the safety check are not part of the tuning. -/
theorem isSteered_setVars (p : Plugin) (vars : List String) :
    p.IsSteered { p with control := (p.control.setVars vars).2 } := by
  unfold Control.setVars
  split
  · exact .refl p
  · split
    · exact .refl p
    · exact ⟨rfl, rfl, fun hr => hr, .inl ⟨rfl, fun _ => rfl⟩⟩

/-- To switch the safety check on or off publishes no registry, since it is refused while the bridge
is prepared. -/
theorem isSteered_setRtStrict (p : Plugin) (rtStrict : Bool) :
    p.IsSteered { p with control := (p.control.setRtStrict rtStrict).2 } := by
  unfold Control.setRtStrict
  split
  · exact .refl p
  · exact ⟨rfl, rfl, fun hr => hr, .inl ⟨rfl, fun _ => rfl⟩⟩

/-- Each call of the controlling side does one of the two: it publishes a registry for a new tuning,
or it publishes none. -/
theorem isSteered_run (p : Plugin) {c : Call} (hc : c.isSteering = true) (h : Host) (bus : Bus) :
    p.IsSteered (c.run h p bus).state := by
  cases c with
  | prepare shape => cases hc
  | process => cases hc
  | release => cases hc
  | setVars vars => exact p.isSteered_setVars vars
  | setRtStrict rtStrict => exact p.isSteered_setRtStrict rtStrict
  | setSourceId sourceId => exact isSteered_update h bus rfl rfl rfl
  | setSkip skip => exact isSteered_update h bus rfl rfl rfl
  | setActivate activate => exact ⟨rfl, rfl, fun hr => hr, .inl ⟨rfl, fun _ => rfl⟩⟩
  | collect => exact ⟨rfl, rfl, fun _ => rfl, .inl ⟨rfl, fun _ => rfl⟩⟩

end Plugin

namespace Interplay

variable {s : Interplay} {moments : List Moment}

/-- Does skip interval and source of the settings stay the same at each of these moments? -/
def IsQuiet (s : Interplay) : List Moment → Prop
  | [] => True
  | m :: moments =>
    (s.perform m).settings.tuning = s.settings.tuning ∧ (s.perform m).IsQuiet moments

/-- The processing side takes no step of the call that it is in. -/
def Pauses (moments : List Moment) : Prop := ∀ m ∈ moments, m.move ≠ .advance

/-- Within a call of the processing side, only calls of the controlling side have an effect. -/
theorem perform_of_pause (hs : s.stage ≠ .idle) {m : Moment} (hm : m.move ≠ .advance) :
    (s.perform m).stage = s.stage ∧ s.plugin.IsSteered (s.perform m).plugin := by
  obtain ⟨move, catalogue, memory, now⟩ := m
  unfold perform
  cases move with
  | prepare shape =>
    simp only [if_neg hs]
    exact ⟨trivial, .refl _⟩
  | release =>
    simp only [if_neg hs]
    exact ⟨trivial, .refl _⟩
  | advance => exact absurd rfl hm
  | call c =>
    by_cases hc : c.isSteering = true
    · simp only [hc, or_true, if_true]
      exact ⟨rfl, s.plugin.isSteered_run hc _ _⟩
    · have hbusy : ¬(s.stage = .idle ∨ c.isSteering = true) := by
        rintro (hi | hsteering)
        · exact hs hi
        · exact hc hsteering
      simp only [if_neg hbusy]
      exact ⟨trivial, .refl _⟩

/-- What stays the same between two steps of a call. -/
structure Waits (s t : Interplay) : Prop where
  /-- The processing side is where it was. -/
  stage : t.stage = s.stage
  /-- The registry in use stays. -/
  current : t.plugin.current = s.plugin.current
  /-- So does the signal. -/
  shape : t.plugin.control.shape = s.plugin.control.shape
  /-- Nothing is retired. -/
  retired : s.plugin.control.slot.retired = none → t.plugin.control.slot.retired = none

/-- While the processing side pauses, the bridge does not become prepared or released: only its own
steps do that. -/
theorem Waits.isPrepared {t : Interplay} (hw : s.Waits t) :
    t.plugin.control.isPrepared = s.plugin.control.isPrepared := by
  rw [Control.isPrepared, Control.isPrepared, hw.shape]

/-- Whatever the controlling side asks for between two steps of a call, the next step finds the call
where the last one has left it. -/
theorem waits_after (hs : s.stage ≠ .idle) (hp : Pauses moments) :
    s.Waits (s.after moments) := by
  induction moments generalizing s with
  | nil => exact ⟨rfl, rfl, rfl, fun hr => hr⟩
  | cons m moments ih =>
    obtain ⟨hstage, hsteered⟩ := perform_of_pause hs (hp m List.mem_cons_self)
    have hnext : (s.perform m).stage ≠ .idle := hstage ▸ hs
    have hrest := ih hnext fun m' hm' => hp m' (List.mem_cons_of_mem _ hm')
    exact ⟨hrest.stage.trans hstage, hrest.current.trans hsteered.current,
      hrest.shape.trans hsteered.shape, fun hr => hrest.retired (hsteered.retired hr)⟩

/-- A prepared bridge has nothing pending after a pause exactly if it had nothing pending before
and its tuning was left alone. -/
theorem pending_after_eq_none_iff (hs : s.stage ≠ .idle) (hp : Pauses moments) :
    (s.after moments).pending = none ↔ s.pending = none ∧
      (s.plugin.control.isPrepared = true → s.IsQuiet moments) := by
  induction moments generalizing s with
  | nil => exact ⟨fun hn => ⟨hn, fun _ => trivial⟩, fun hn => hn.1⟩
  | cons m moments ih =>
    obtain ⟨hstage, hsteered⟩ := perform_of_pause hs (hp m List.mem_cons_self)
    have hnext : (s.perform m).stage ≠ .idle := hstage ▸ hs
    have hrest := ih hnext fun m' hm' => hp m' (List.mem_cons_of_mem _ hm')
    have hprepared : (s.perform m).plugin.control.isPrepared = s.plugin.control.isPrepared := by
      rw [Control.isPrepared, Control.isPrepared, hsteered.shape]
    change ((s.perform m).after moments).pending = none ↔ _
    rw [hrest, hprepared]
    rcases hsteered.pending with ⟨hpending, htuning⟩ | ⟨hlocked, hchanged, r, hpending, _⟩
    · constructor
      · rintro ⟨hn, hquiet⟩
        exact ⟨hpending.symm.trans hn, fun hl => ⟨htuning hl, hquiet hl⟩⟩
      · rintro ⟨hn, hquiet⟩
        exact ⟨hpending.trans hn, fun hl => (hquiet hl).2⟩
    · constructor
      · rintro ⟨hn, _⟩
        have hsome := hpending.symm.trans hn
        cases hsome
      · rintro ⟨_, hquiet⟩
        exact absurd (hquiet hlocked).1 hchanged

/-- What is pending follows the settings of a prepared bridge. -/
def Tuned (s : Interplay) : Prop :=
  ∀ r, s.pending = some r →
    s.plugin.control.isPrepared = true ∧ r.tuning = s.settings.tuning

/-- Whatever falls between two steps of a call, a pending registry goes on to follow the settings of
a prepared bridge. -/
theorem Tuned.after (ht : s.Tuned) (hs : s.stage ≠ .idle) (hp : Pauses moments) :
    (s.after moments).Tuned := by
  induction moments generalizing s with
  | nil => exact ht
  | cons m moments ih =>
    obtain ⟨hstage, hsteered⟩ := perform_of_pause hs (hp m List.mem_cons_self)
    refine ih ?_ (hstage ▸ hs) fun m' hm' => hp m' (List.mem_cons_of_mem _ hm')
    have hprepared : (s.perform m).plugin.control.isPrepared = s.plugin.control.isPrepared := by
      rw [Control.isPrepared, Control.isPrepared, hsteered.shape]
    intro r hr
    rw [hprepared]
    rcases hsteered.pending with ⟨hpending, htuning⟩ | ⟨hlocked, _, q, hpending, hq⟩
    · obtain ⟨hlocked, hbefore⟩ := ht r (hpending.symm.trans hr)
      exact ⟨hlocked, hbefore.trans (htuning hlocked).symm⟩
    · have hsame : q = r := Option.some.inj (hpending.symm.trans hr)
      exact ⟨hlocked, hsame ▸ hq⟩

/-- The registry that a preparation has built follows the settings that it took over. -/
theorem tuning_of_taken {m : Moment} {shape : Shape} (hs : s.stage = .idle)
    (hm : m.move = .prepare shape) {r : Registry} {rtStrict : Bool}
    (ht : (s.perform m).stage = .taken r rtStrict) :
    r.tuning = (s.perform m).settings.tuning := by
  obtain ⟨move, catalogue, memory, now⟩ := m
  obtain rfl : move = .prepare shape := hm
  simp only [perform, if_pos hs] at ht ⊢
  generalize hstart : ({ s with bus := { s.bus with now } } : Interplay) = timed at ht ⊢
  have hidle : timed.stage = .idle := by
    rw [← hstart]
    exact hs
  unfold beginPrepare at ht ⊢
  rcases Plugin.takeOver_cases timed.plugin.control (Moment.host ⟨.prepare shape, catalogue,
      memory, now⟩) shape timed.bus with
    ⟨error, hcase⟩ | ⟨settings, error, _, hcase⟩ | ⟨vars, built, _, hb, hcase⟩
  · rw [hcase] at ht
    exact absurd (hidle.symm.trans ht) (by simp)
  · rw [hcase] at ht
    exact absurd (hidle.symm.trans ht) (by simp)
  · rw [hcase] at ht ⊢
    obtain ⟨rfl, _⟩ := Stage.taken.inj ht
    have hfollows := Plugin.of_buildRegistry hb
    unfold Registry.tuning
    rw [hfollows.skip, hfollows.context]
    rfl

section Steps

variable {m : Moment}

/-- The last step of preparing installs the registry, also if another one is pending. -/
theorem perform_of_taken {r : Registry} {rtStrict : Bool} (hs : s.stage = .taken r rtStrict)
    (hm : m.move = .advance) :
    (s.perform m).stage = .idle ∧ (s.perform m).plugin.newest = some r ∧
      (s.perform m).settings = s.settings := by
  unfold perform
  simp only [hm, advance, hs]
  exact ⟨trivial, rfl, rfl⟩

/-- A release begins by dropping the registry in use; settings, slot and signal are as before. -/
theorem perform_of_release (hs : s.stage = .idle) (hm : m.move = .release) :
    (s.perform m).stage = .dropped ∧ (s.perform m).plugin.current = none ∧
      (s.perform m).plugin.control = s.plugin.control := by
  unfold perform
  simp only [hm, if_pos hs]
  exact ⟨rfl, rfl, rfl⟩

/-- The second step of a release empties the slot and nothing else: what is published after it stays
there. -/
theorem perform_of_dropped (hs : s.stage = .dropped) (hm : m.move = .advance) :
    (s.perform m).stage = .emptied ∧ (s.perform m).plugin.current = s.plugin.current ∧
      (s.perform m).plugin.control = { s.plugin.control with slot := .empty } := by
  unfold perform
  simp only [hm, advance, hs]
  exact ⟨trivial, rfl, rfl⟩

/-- The third step of a release arms the safety check, and leaves the registries and the controlling
side alone. -/
theorem perform_of_emptied (hs : s.stage = .emptied) (hm : m.move = .advance) :
    (s.perform m).stage = .armed ∧ (s.perform m).plugin.current = s.plugin.current ∧
      (s.perform m).plugin.control = s.plugin.control := by
  unfold perform
  simp only [hm, advance, hs]
  exact ⟨trivial, rfl, rfl⟩

/-- The last step of a release unlocks the parameters, and leaves in the slot what was published
before it. -/
theorem perform_of_armed (hs : s.stage = .armed) (hm : m.move = .advance) :
    (s.perform m).stage = .idle ∧ (s.perform m).plugin.current = s.plugin.current ∧
      (s.perform m).plugin.control = { s.plugin.control with shape := none } := by
  unfold perform
  simp only [hm, advance, hs]
  exact ⟨trivial, rfl, rfl⟩

/-- A bridge that holds no registry publishes nothing in a cycle. -/
theorem log_perform_process (hcurrent : s.plugin.current = none)
    (hslot : s.plugin.control.slot = .empty) (hm : m.move = .call .process) :
    (s.perform m).bus.log = s.bus.log := by
  have hadopted : s.plugin.check.2.adopt.current = none := by
    rcases s.plugin.check.2.adopt_cases with ⟨v, hs, _⟩ | ⟨_, ha⟩
    · rw [Plugin.control_check, hslot] at hs
      cases hs
    · rw [ha, Plugin.current_check]
      exact hcurrent
  unfold perform
  simp only [hm]
  split
  next =>
    rcases s.plugin.process_cases m.host { s.bus with now := m.now } with ⟨error, _, hr⟩ |
      ⟨_, _, hbus⟩ | ⟨r, _, hr, _, _⟩
    · exact congrArg (fun o => o.bus.log) hr
    · have hlog := congrArg Bus.log hbus
      exact hlog
    · rw [hadopted] at hr
      cases hr
  next => rfl

end Steps

/-- The state of a release that has emptied the slot. -/
structure IsCleared (s : Interplay) : Prop where
  /-- No registry is in use. -/
  current : s.plugin.current = none
  /-- None is retired. -/
  retired : s.plugin.control.slot.retired = none
  /-- A pending one was published since, for the present settings. -/
  tuned : s.Tuned

/-- After the step that empties the slot no registry is in use, none is retired and none is
pending. -/
theorem isCleared_perform (hs : s.stage = .dropped) (hc : s.plugin.current = none) {m : Moment}
    (hm : m.move = .advance) : (s.perform m).IsCleared ∧ (s.perform m).pending = none := by
  obtain ⟨_, hcurrent, hcontrol⟩ := perform_of_dropped hs hm
  have hempty : (s.perform m).pending = none := by
    rw [pending, hcontrol]
    rfl
  refine ⟨⟨hcurrent.trans hc, ?_, ?_⟩, hempty⟩
  · rw [hcontrol]
    rfl
  · intro r hr
    rw [hempty] at hr
    cases hr

/-- A slot that was emptied stays cleared while the processing side pauses, apart from what is
published for the present settings. -/
theorem IsCleared.after (hc : s.IsCleared) (hs : s.stage ≠ .idle) (hp : Pauses moments) :
    (s.after moments).IsCleared := by
  have hwaits := waits_after hs hp
  exact ⟨hwaits.current.trans hc.current, hwaits.retired hc.retired, hc.tuned.after hs hp⟩

/-- To arm the safety check neither clears nor fills a slot, so that what was published after it was
emptied is still pending. -/
theorem IsCleared.perform_of_emptied (hc : s.IsCleared) (hs : s.stage = .emptied) {m : Moment}
    (hm : m.move = .advance) :
    (s.perform m).IsCleared ∧ (s.perform m).pending = s.pending := by
  obtain ⟨_, hcurrent, hcontrol⟩ := Interplay.perform_of_emptied hs hm
  have htuned := hc.tuned
  unfold Tuned pending settings at htuned
  refine ⟨⟨hcurrent.trans hc.current, ?_, ?_⟩, by rw [pending, hcontrol]; rfl⟩
  · rw [hcontrol]
    exact hc.retired
  · unfold Tuned pending settings
    rw [hcontrol]
    exact htuned

/-- What a release leaves when calls of the controlling side fell between its steps. -/
structure LeftByRelease (s : Interplay) (quiet : Prop) : Prop where
  /-- The release is over. -/
  stage : s.stage = .idle
  /-- The parameters are unlocked. -/
  shape : s.plugin.control.shape = none
  /-- No registry is in use. -/
  current : s.plugin.current = none
  /-- None is retired. -/
  retired : s.plugin.control.slot.retired = none
  /-- A pending one follows the settings. -/
  tuned : ∀ r, s.pending = some r → r.tuning = s.settings.tuning
  /-- There is none exactly if the tuning was left alone. -/
  pending : s.pending = none ↔ quiet
  /-- The open streams are those of the pending one. -/
  streams : s.bus.openStreams.Perm
    ((outletsOf s.pending.toList).map fun o => (o.id, o.info))
  /-- If there is none, a cycle publishes nothing. -/
  silent : s.pending = none →
    ∀ m : Moment, m.move = .call .process → (s.perform m).bus.log = s.bus.log

/-- The last step of a release keeps what is pending, with its streams. -/
theorem IsCleared.leftByRelease (hc : s.IsCleared) (hs : s.stage = .armed) {last : Moment}
    (hlast : last.move = .advance) {quiet : Prop} (hquiet : s.pending = none ↔ quiet)
    (hheld : (s.perform last).bus.Holds (outletsOf (s.perform last).registries)) :
    (s.perform last).LeftByRelease quiet := by
  obtain ⟨hidle, hcurrent, hcontrol⟩ := perform_of_armed hs hlast
  have hnone : (s.perform last).plugin.current = none := hcurrent.trans hc.current
  have hslot : (s.perform last).plugin.control.slot = ⟨s.pending, none⟩ := by
    have hretired := hc.retired
    unfold pending
    rw [hcontrol, ← hretired]
  have hpending : (s.perform last).pending = s.pending := by
    rw [pending, hslot]
  refine ⟨hidle, by rw [hcontrol], hnone, by rw [hslot], ?_, by rw [hpending, hquiet], ?_, ?_⟩
  · intro r hr
    have hfollows := (hc.tuned r (hpending.symm.trans hr)).2
    rw [settings, hcontrol]
    exact hfollows
  · have hregistries : (s.perform last).registries = (s.perform last).pending.toList := by
      rw [registries, hidle, Plugin.registries, hnone, hslot, hpending]
      change [] ++ ([] ++ (s.pending.toList ++ [])) = _
      rw [List.nil_append, List.nil_append, List.append_nil]
    rw [hregistries] at hheld
    exact hheld.table
  · intro hn m hm
    have hempty : (s.perform last).plugin.control.slot = .empty := by
      rw [hslot, ← hpending, hn]
      rfl
    exact log_perform_process hnone hempty hm

/-- The registry that an interrupted preparation installs was built before the interruption. -/
theorem newest_of_interrupted_prepare (hs : s.stage = .idle) {begun last : Moment} {shape : Shape}
    (hb : begun.move = .prepare shape) {r : Registry} {rtStrict : Bool}
    (ht : (s.perform begun).stage = .taken r rtStrict) (hp : Pauses moments)
    (hl : last.move = .advance) :
    let taken := s.perform begun
    let done := (taken.after moments).perform last
    done.stage = .idle ∧ done.plugin.newest = some r ∧ r.tuning = taken.settings.tuning ∧
      done.settings = (taken.after moments).settings := by
  intro taken done
  have hbusy : taken.stage ≠ .idle := by
    rw [ht]
    exact Stage.noConfusion
  have hwaits : taken.Waits (taken.after moments) := waits_after hbusy hp
  obtain ⟨hstage, hnewest, hsettings⟩ := perform_of_taken (hwaits.stage.trans ht) hl
  exact ⟨hstage, hnewest, tuning_of_taken hs hb ht, hsettings⟩

/-- An interrupted release leaves what was published after the slot had been emptied. -/
theorem leftBy_interrupted_release (hsound : s.IsSound)
    (hheld : s.bus.Holds (outletsOf s.registries)) (hs : s.stage = .idle)
    {begun second third last : Moment} {first middle final : List Moment}
    (hb : begun.move = .release) (hpfirst : Pauses first) (hsecond : second.move = .advance)
    (hpmiddle : Pauses middle) (hthird : third.move = .advance) (hpfinal : Pauses final)
    (hlast : last.move = .advance) :
    let emptied := ((s.perform begun).after first).perform second
    let armed := (emptied.after middle).perform third
    ((armed.after final).perform last).LeftByRelease
      (s.plugin.control.isPrepared = true → emptied.IsQuiet middle ∧ armed.IsQuiet final) := by
  intro emptied armed
  -- the steps, with the calls between them
  obtain ⟨hdropped, hnone, hcontrol⟩ := perform_of_release hs hb
  have hwaits₁ : (s.perform begun).Waits ((s.perform begun).after first) :=
    waits_after (by rw [hdropped]; exact Stage.noConfusion) hpfirst
  have hdropped' := hwaits₁.stage.trans hdropped
  obtain ⟨hemptied, _, hslot⟩ := perform_of_dropped hdropped' hsecond
  have hbusy : emptied.stage ≠ .idle := by
    rw [hemptied]
    exact Stage.noConfusion
  have hwaits₂ : emptied.Waits (emptied.after middle) := waits_after hbusy hpmiddle
  obtain ⟨harmed, _, hkept⟩ := perform_of_emptied (hwaits₂.stage.trans hemptied) hthird
  have hbusy' : armed.stage ≠ .idle := by
    rw [harmed]
    exact Stage.noConfusion
  have hwaits₃ : armed.Waits (armed.after final) := waits_after hbusy' hpfinal
  -- the slot is empty after the second step, and then only what is published is pending
  obtain ⟨hcleared, hempty⟩ :=
    isCleared_perform hdropped' (hwaits₁.current.trans hnone) hsecond
  obtain ⟨hcleared', hsame⟩ := (hcleared.after hbusy hpmiddle).perform_of_emptied
    (hwaits₂.stage.trans hemptied) hthird
  -- the bridge counts as prepared until the last step
  have hprepared : emptied.plugin.control.isPrepared = s.plugin.control.isPrepared := by
    rw [hslot]
    exact hwaits₁.isPrepared.trans (congrArg Control.isPrepared hcontrol)
  have hprepared' : armed.plugin.control.isPrepared = s.plugin.control.isPrepared := by
    rw [hkept]
    exact hwaits₂.isPrepared.trans hprepared
  have hquiet : (armed.after final).pending = none ↔
      (s.plugin.control.isPrepared = true → emptied.IsQuiet middle ∧ armed.IsQuiet final) := by
    rw [pending_after_eq_none_iff hbusy' hpfinal, hsame, pending_after_eq_none_iff hbusy hpmiddle,
      hprepared, hprepared']
    constructor
    · rintro ⟨⟨_, hmiddle⟩, hfinal⟩ hp
      exact ⟨hmiddle hp, hfinal hp⟩
    · intro hboth
      exact ⟨⟨hempty, fun hp => (hboth hp).1⟩, fun hp => (hboth hp).2⟩
  have hmoves : (armed.after final).perform last =
      s.after (begun :: first ++ second :: middle ++ third :: final ++ [last]) := by
    simp only [after, List.foldl_append, List.foldl_cons, List.foldl_nil, List.cons_append]
    rfl
  refine (hcleared'.after hbusy' hpfinal).leftByRelease (hwaits₃.stage.trans harmed) hlast
    hquiet ?_
  rw [hmoves]
  exact (hsound.after _).2.holds hheld

/-- A change of skip interval or source is lost to a preparation, and a registry survives a
release, exactly if the change falls between certain steps. After any moves: the registry that a
preparation installs is the one that it built, so that it follows the settings exactly if their
tuning is the same after the calls between the two steps; and a release of a prepared bridge
leaves no registry and no open stream exactly if the calls after it emptied the slot left the
tuning alone. -/
theorem tuning_survives_iff_left_alone (settings : Settings) (probe : Option Probe) (thread : Probe)
    (capacity : Nat) (before : List Moment)
    (hs : ((start settings probe thread capacity).after before).stage = .idle) :
    let s := (start settings probe thread capacity).after before
    (∀ (begun last : Moment) (between : List Moment) (shape : Shape) (r : Registry)
        (rtStrict : Bool), begun.move = .prepare shape →
        (s.perform begun).stage = .taken r rtStrict → Pauses between → last.move = .advance →
      let taken := s.perform begun
      let done := (taken.after between).perform last
      done.stage = .idle ∧ done.plugin.newest = some r ∧
        (r.tuning = done.settings.tuning ↔
          (taken.after between).settings.tuning = taken.settings.tuning)) ∧
      (∀ (begun second third last : Moment) (first middle final : List Moment),
        begun.move = .release → second.move = .advance → third.move = .advance →
        last.move = .advance → Pauses first → Pauses middle → Pauses final →
      let emptied := ((s.perform begun).after first).perform second
      let armed := (emptied.after middle).perform third
      ((armed.after final).perform last).LeftByRelease
        (s.plugin.control.isPrepared = true →
          emptied.IsQuiet middle ∧ armed.IsQuiet final)) := by
  intro s
  constructor
  · intro begun last between shape r rtStrict hb ht hp hl taken done
    obtain ⟨hidle, hnewest, htuning, hkept⟩ := newest_of_interrupted_prepare hs hb ht hp hl
    refine ⟨hidle, hnewest, ?_⟩
    rw [htuning, hkept]
    exact eq_comm
  · intro begun second third last first middle final hb hsecond hthird hl hpfirst hpmiddle hpfinal
    have hsound := ((isSound_start settings probe thread capacity).after before).1
    have hheld := holds_after settings probe thread capacity before
    exact leftBy_interrupted_release hsound hheld hs hb hpfirst hsecond hpmiddle hthird hpfinal hl

/-- A host with one level. -/
def levelSpace : Space := Space.empty.insert "level" (.int32 [7])

/-- A bridge for the level. -/
def levelStart : Interplay := start ⟨["level"], "desk", false, true, 0⟩ none .ordinary 4

/-- A move while the host has the level. -/
def levelMoment (move : Move) : Moment := ⟨move, .ofSpace levelSpace, levelSpace.memory, .epoch⟩

/-- The beginning of a preparation. -/
def levelPrepare : Moment := levelMoment (.prepare ⟨.ofNat 1000, 10⟩)

/-- The next step of a call. -/
def levelAdvance : Moment := levelMoment .advance

/-- Two more cycles are to be skipped. -/
def levelSkips : Moment := levelMoment (.call (.setSkip 2))

/-- The moments of a whole preparation. -/
def levelPrepared : List Moment := [levelPrepare, levelAdvance]

/-- What the streams of the first registry have in common. -/
def levelContext : StreamContext := ⟨(Shape.mk (.ofNat 1000) 10).streamRate 0, "desk"⟩

/-- The registry that is built before the change of the skip interval. -/
def levelRegistry : Registry where
  adapters := [("level",
    ⟨⟨⟨0⟩, streamInfo "level" .int32 1 levelContext, 0⟩, .word 0 0, 1, .int32⟩)]
  context := levelContext
  throttle := .new 0
  stats := ⟨0, 0, 0, 0⟩

/-- The first step of the preparation takes the settings over and has built the registry of the
level, which is not installed yet. -/
theorem stage_levelPrepare :
    (levelStart.perform levelPrepare).stage = .taken levelRegistry false := by
  decide +kernel

/-- The preparation is over after two moments, and the processing side is idle again. -/
theorem stage_levelPrepared : (levelStart.after levelPrepared).stage = .idle := by
  decide +kernel

/-- The level is prepared and released while the skip interval is changed. -/
theorem level_is_left_behind :
    (levelStart.after []).stage = .idle ∧
      (levelStart.perform levelPrepare).stage = .taken levelRegistry false ∧
      Pauses [levelSkips] ∧
      (let taken := levelStart.perform levelPrepare
        let done := (taken.after [levelSkips]).perform levelAdvance
        done.stage = .idle ∧ done.plugin.newest = some levelRegistry ∧
          (levelRegistry.tuning = done.settings.tuning ↔
            (taken.after [levelSkips]).settings.tuning = taken.settings.tuning)) ∧
      (levelStart.after levelPrepared).stage = .idle ∧ Pauses [] ∧
      let s := levelStart.after levelPrepared
      let emptied := ((s.perform (levelMoment .release)).after []).perform levelAdvance
      let armed := (emptied.after [levelSkips]).perform levelAdvance
      ((armed.after []).perform levelAdvance).LeftByRelease
        (s.plugin.control.isPrepared = true →
          emptied.IsQuiet [levelSkips] ∧ armed.IsQuiet []) := by
  have hpauses : Pauses [levelSkips] := by
    unfold Pauses
    decide +kernel
  have hnone : Pauses [] := by
    unfold Pauses
    decide +kernel
  have hprepare := (tuning_survives_iff_left_alone ⟨["level"], "desk", false, true, 0⟩ none
    .ordinary 4 [] rfl).1 levelPrepare levelAdvance [levelSkips] _ levelRegistry false rfl
    stage_levelPrepare hpauses rfl
  have hrelease := (tuning_survives_iff_left_alone ⟨["level"], "desk", false, true, 0⟩ none
    .ordinary 4 levelPrepared stage_levelPrepared).2 (levelMoment .release) levelAdvance
    levelAdvance levelAdvance [] [levelSkips] [] rfl rfl rfl rfl hnone hpauses hnone
  exact ⟨rfl, stage_levelPrepare, hpauses, hprepare, stage_levelPrepared, hnone, hrelease⟩

/-- A change of the skip interval between the steps of a preparation can be lost, and one between
the steps of a release can leave a registry with an open stream. -/
theorem not_every_change_survives :
    (¬∀ (settings : Settings) (probe : Option Probe) (thread : Probe) (capacity : Nat)
        (moments : List Moment) (last : Moment) (r : Registry) (rtStrict : Bool),
        last.move = .advance →
      let s := (start settings probe thread capacity).after moments
      s.stage = .taken r rtStrict →
        (s.perform last).plugin.newest.map Registry.tuning =
          some (s.perform last).settings.tuning) ∧
      ¬∀ (settings : Settings) (probe : Option Probe) (thread : Probe) (capacity : Nat)
          (moments : List Moment) (last : Moment), last.move = .advance →
        let s := (start settings probe thread capacity).after moments
        s.stage = .armed →
          (s.perform last).pending = none ∧ (s.perform last).bus.openStreams = [] := by
  constructor
  · intro hall
    have hstage : (levelStart.after [levelPrepare, levelSkips]).stage =
        .taken levelRegistry false := by decide +kernel
    have hclaimed := hall _ _ _ _ [levelPrepare, levelSkips] levelAdvance levelRegistry false rfl
      hstage
    have hlost : (levelStart.after [levelPrepare, levelSkips, levelAdvance]).plugin.newest.map
        Registry.tuning ≠
          some (levelStart.after [levelPrepare, levelSkips, levelAdvance]).settings.tuning := by
      decide +kernel
    exact hlost hclaimed
  · intro hall
    let steps := levelPrepared ++ [levelMoment .release, levelAdvance, levelSkips, levelAdvance]
    have hstage : (levelStart.after steps).stage = .armed := by decide +kernel
    have hclaimed := hall _ _ _ _ steps levelAdvance rfl hstage
    have hleft : ((levelStart.after steps).perform levelAdvance).pending ≠ none := by
      decide +kernel
    exact hleft hclaimed.1

end Interplay

end VariableBridge
