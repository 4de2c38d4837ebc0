import VariableBridge.Proofs.Bridge.Interruption
import VariableBridge.Proofs.Bridge.Rejection

/-!
# What is left of a bridge that was given up

A bridge may be given up between any two calls of its processing side, while the controlling
side goes on making its own. Giving up closes all streams and empties the slot, but it does not
unlock the parameters. Main statements: the calls that follow keep the streams of the bus equal
to those of the pending registry; and nothing is pending, and nothing was published, exactly if
the bridge was not prepared or its tuning was left alone.
-/

namespace VariableBridge

namespace Interplay

/-- Is this a call of the controlling side? -/
def Moment.isSteering (m : Moment) : Bool :=
  match m.move with
  | .call c => c.isSteering
  | _ => false

/-- The bridge is given up. What it shares with the controlling side remains. -/
def giveUp (s : Interplay) (now : Time.Instant) : Interplay :=
  let remains := s.plugin.drop { s.bus with now }
  { s with plugin := { s.plugin with control := remains.1, current := none }, bus := remains.2 }

variable {s : Interplay} {moments : List Moment}

/-- The bridge is given up as a whole. At which stage of a call the processing side is does not
change by it. -/
@[simp] theorem stage_giveUp (s : Interplay) (now : Time.Instant) :
    (s.giveUp now).stage = s.stage := rfl

/-- A bridge that was given up is like one whose release has emptied the slot. -/
theorem isCleared_giveUp (s : Interplay) (now : Time.Instant) (stage : Stage) :
    ({ s.giveUp now with stage } : Interplay).IsCleared where
  current := rfl
  retired := rfl
  tuned := fun _ hr => nomatch hr

/-- No registry is left, neither in use nor in the slot, so nobody can use a stream of the bridge
any more. -/
theorem registries_giveUp (hi : s.stage = .idle) (now : Time.Instant) :
    (s.giveUp now).registries = [] := by
  rw [registries, stage_giveUp, hi]
  rfl

/-- Giving up closes the streams of all registries: of the one in use and of those in the slot. -/
theorem handling_giveUp (hi : s.stage = .idle) (now : Time.Instant) :
    Handling [] (outletsOf s.registries) s.bus [] (s.giveUp now).bus := by
  have hsame : s.registries = s.plugin.registries := by
    rw [registries, hi]
    rfl
  have hslot := closeRegistries_handling (carries_nil (outletsOf s.plugin.current.toList))
    s.plugin.control.slot.values { s.bus with now }
  have hcurrent := closeRegistries_handling (carries_nil []) s.plugin.current.toList
    (closeRegistries s.plugin.control.slot.values { s.bus with now })
  rw [List.append_nil] at hcurrent
  rw [hsame, Plugin.registries, outletsOf_append]
  exact (Handling.idle.wait now).trans
    ((hslot.trans hcurrent).of_perm List.perm_append_comm (List.Perm.refl _))

/-- A call of the controlling side has its effect, whatever the processing side is doing. -/
theorem perform_of_isSteering {m : Moment} (hm : m.isSteering = true) :
    ∃ c : Call, c.isSteering = true ∧ ∀ s : Interplay,
      s.perform m = ({ s with bus := { s.bus with now := m.now } } : Interplay).call m.host c := by
  obtain ⟨move, catalogue, memory, now⟩ := m
  cases move with
  | prepare shape => cases hm
  | release => cases hm
  | advance => cases hm
  | call c =>
    have hc : c.isSteering = true := hm
    refine ⟨c, hc, fun s => ?_⟩
    unfold perform
    simp only [hc, or_true, if_true]

/-- Calls of the controlling side do the same at every stage of the processing side. -/
theorem after_at (stage : Stage) (hm : ∀ m ∈ moments, m.isSteering = true) :
    ({ s with stage } : Interplay).after moments = { s.after moments with stage } ∧
      (s.after moments).stage = s.stage ∧
      (({ s with stage } : Interplay).IsQuiet moments ↔ s.IsQuiet moments) := by
  induction moments generalizing s with
  | nil => exact ⟨rfl, rfl, Iff.rfl⟩
  | cons m moments ih =>
    obtain ⟨c, _, hcall⟩ := perform_of_isSteering (hm m List.mem_cons_self)
    obtain ⟨hrest, hstage, hquiet⟩ := ih (s := s.perform m) fun m' hm' =>
      hm m' (List.mem_cons_of_mem _ hm')
    have hkept : (s.perform m).stage = s.stage := by
      rw [hcall]
      rfl
    have hstep : ({ s with stage } : Interplay).perform m = { s.perform m with stage } := by
      rw [hcall, hcall]
      rfl
    refine ⟨?_, hstage.trans hkept, ?_⟩
    · change (({ s with stage } : Interplay).perform m).after moments = _
      rw [hstep, hrest]
      rfl
    · unfold IsQuiet
      rw [hstep, hquiet]
      exact Iff.rfl

end Interplay

namespace Plugin

variable {p : Plugin} {h : Host}

/-- A change of parameters that leaves the tuning of a prepared bridge publishes nothing. -/
theorem log_update_of_quiet (href : ∀ info, h.refusal info = none) {next : Settings} (bus : Bus)
    (hvars : next.vars = p.control.settings.vars)
    (hstrict : next.rtStrict = p.control.settings.rtStrict)
    (hactivate : next.activate = p.control.settings.activate)
    (hquiet : p.control.isPrepared = true →
      (p.control.update h next bus).state.settings.tuning = p.control.settings.tuning) :
    (p.control.update h next bus).bus.log = bus.log := by
  rcases p.control.update_cases h next bus with ⟨_, hu⟩ | ⟨_, hu⟩ | ⟨shape, error, _, hb, hu⟩ |
    ⟨shape, r, hs, _, hu⟩
  · rw [hu]
  · rw [hu]
  · rw [hu, Control.buildRegistry_of_error href hb]
  · have hp : p.control.isPrepared = true := by
      rw [Control.isPrepared, hs]
      rfl
    have htuning := hquiet hp
    rw [hu] at htuning
    -- a registry for the same settings is never built
    have hsame : next = p.control.settings := by
      by_contra hn
      exact Settings.ne_tuning hvars hstrict hactivate hn htuning
    rw [hsame, Control.update_of_eq]

/-- A call of the controlling side publishes nothing, if nothing is retired and the tuning of a
prepared bridge is left alone. -/
theorem log_run_of_quiet (href : ∀ info, h.refusal info = none) {c : Call}
    (hc : c.isSteering = true) (hretired : p.control.slot.retired = none) (bus : Bus)
    (hquiet : p.control.isPrepared = true →
      (c.run h p bus).state.control.settings.tuning = p.control.settings.tuning) :
    (c.run h p bus).bus.log = bus.log := by
  cases c with
  | prepare shape => cases hc
  | process => cases hc
  | release => cases hc
  | setVars vars => rfl
  | setRtStrict rtStrict => rfl
  | setSourceId sourceId => exact log_update_of_quiet href bus rfl rfl rfl hquiet
  | setSkip skip => exact log_update_of_quiet href bus rfl rfl rfl hquiet
  | setActivate activate => rfl
  | collect =>
    change (closeRegistries p.control.slot.retired.toList bus).log = bus.log
    rw [hretired]
    rfl

end Plugin

namespace Interplay

variable {s : Interplay} {moments : List Moment}

/-- Nothing is published while nothing is retired and the tuning is left alone. -/
theorem log_after_of_quiet (hm : ∀ m ∈ moments, m.isSteering = true)
    (hretired : s.plugin.control.slot.retired = none)
    (hquiet : s.plugin.control.isPrepared = true → s.IsQuiet moments) :
    (s.after moments).bus.log = s.bus.log := by
  induction moments generalizing s with
  | nil => rfl
  | cons m moments ih =>
    obtain ⟨c, hc, hcall⟩ := perform_of_isSteering (hm m List.mem_cons_self)
    have hsteered : s.plugin.IsSteered (s.perform m).plugin := by
      rw [hcall]
      exact s.plugin.isSteered_run hc _ _
    have hstep : (s.perform m).bus.log = s.bus.log := by
      have htuning : s.plugin.control.isPrepared = true →
          (s.perform m).plugin.control.settings.tuning = s.plugin.control.settings.tuning :=
        fun hp => (hquiet hp).1
      rw [hcall] at htuning ⊢
      exact Plugin.log_run_of_quiet (fun _ => rfl) hc hretired _ htuning
    have hprepared : (s.perform m).plugin.control.isPrepared = s.plugin.control.isPrepared := by
      rw [Control.isPrepared, Control.isPrepared, hsteered.shape]
    have hrest := ih (s := s.perform m) (fun m' hm' => hm m' (List.mem_cons_of_mem _ hm'))
      (hsteered.retired hretired) (fun hp => (hquiet (hprepared ▸ hp)).2)
    exact hrest.trans hstep

/-- What is left of a bridge that was given up, after calls of the controlling side. -/
structure LeftByGivingUp (given left : Interplay) (quiet : Prop) : Prop where
  /-- The parameters are locked if they were. -/
  shape : left.plugin.control.shape = given.plugin.control.shape
  /-- No registry is in use. -/
  current : left.plugin.current = none
  /-- None is retired. -/
  retired : left.plugin.control.slot.retired = none
  /-- A pending one follows the settings. -/
  tuned : ∀ r, left.pending = some r → r.tuning = left.settings.tuning
  /-- There is none exactly if the tuning was left alone. -/
  pending : left.pending = none ↔ quiet
  /-- The open streams are those of the pending one. -/
  streams : left.bus.openStreams.Perm
    ((outletsOf left.pending.toList).map fun o => (o.id, o.info))
  /-- If there is none, no stream was opened. -/
  silent : left.pending = none → left.bus.log = given.bus.log ∧ left.bus.openStreams = []

/-- Whatever is done with a bridge that was given up, its registries own the open streams. -/
theorem openStreams_after_giveUp (hi : s.stage = .idle)
    (hheld : s.bus.Holds (outletsOf s.registries)) (now : Time.Instant) (moments : List Moment) :
    ((s.giveUp now).after moments).bus.openStreams.Perm
      ((outletsOf ((s.giveUp now).after moments).registries).map fun o => (o.id, o.info)) := by
  have hsound : (s.giveUp now).IsSound := by
    intro r hr
    rw [registries_giveUp hi] at hr
    cases hr
  have hopen : (s.giveUp now).bus.Holds (outletsOf (s.giveUp now).registries) := by
    rw [registries_giveUp hi]
    exact (handling_giveUp hi now).holds hheld
  exact ((hsound.after moments).2.holds hopen).table

/-- The calls of the controlling side leave at most one registry, which nobody will use. -/
theorem leftByGivingUp_after (hi : s.stage = .idle) (hheld : s.bus.Holds (outletsOf s.registries))
    (now : Time.Instant) (hm : ∀ m ∈ moments, m.isSteering = true) :
    (s.giveUp now).LeftByGivingUp ((s.giveUp now).after moments)
      (s.plugin.control.isPrepared = true → (s.giveUp now).IsQuiet moments) := by
  -- the controlling side does not see that the processing side takes no more steps
  let halted : Interplay := { s.giveUp now with stage := .emptied }
  have hbusy : halted.stage ≠ .idle := Stage.noConfusion
  have hpauses : Pauses moments := by
    intro m hmem hadvance
    have hsteering := hm m hmem
    simp [Moment.isSteering, hadvance] at hsteering
  obtain ⟨hafter, hstage, hsame⟩ := after_at (s := s.giveUp now) .emptied hm
  have hleft : ((s.giveUp now).after moments).plugin = (halted.after moments).plugin := by
    rw [hafter]
  have hpending : ((s.giveUp now).after moments).pending = (halted.after moments).pending :=
    congrArg (fun p => p.control.slot.pending) hleft
  have hcleared : halted.IsCleared := isCleared_giveUp s now .emptied
  have hend := hcleared.after hbusy hpauses
  have hquiet : ((s.giveUp now).after moments).pending = none ↔
      (s.plugin.control.isPrepared = true → (s.giveUp now).IsQuiet moments) := by
    rw [hpending, pending_after_eq_none_iff hbusy hpauses, hsame]
    exact and_iff_right rfl
  have hstreams : ((s.giveUp now).after moments).bus.openStreams.Perm
      ((outletsOf ((s.giveUp now).after moments).pending.toList).map fun o => (o.id, o.info)) := by
    have htable := openStreams_after_giveUp hi hheld now moments
    have hregistries : ((s.giveUp now).after moments).registries =
        ((s.giveUp now).after moments).pending.toList := by
      rw [registries, hstage, stage_giveUp, hi, Plugin.registries, Slot.values, hleft,
        hend.current, hend.retired, hpending]
      change [] ++ ([] ++ ((halted.after moments).pending.toList ++ [])) = _
      rw [List.nil_append, List.nil_append, List.append_nil]
    rwa [hregistries] at htable
  refine ⟨?_, ?_, ?_, ?_, hquiet, hstreams, ?_⟩
  · rw [hleft]
    exact (waits_after hbusy hpauses).shape
  · rw [hleft]
    exact hend.current
  · rw [hleft]
    exact hend.retired
  · intro r hr
    have htuned := (hend.tuned r (hpending.symm.trans hr)).2
    unfold settings at htuned ⊢
    rwa [hleft]
  · intro hnone
    rw [hnone] at hstreams
    exact ⟨log_after_of_quiet hm rfl (hquiet.mp hnone), hstreams.eq_nil⟩

/-- After any moves, also with calls between the steps of others, a bridge that is given up has no
open stream and an empty slot, and is otherwise shared as it was. Whatever the controlling side
calls then: a registry is pending exactly if the bridge was prepared and its tuning has changed,
it owns the open streams, and if there is none, nothing was published. -/
theorem nothing_left_iff_left_alone (settings : Settings) (probe : Option Probe) (thread : Probe)
    (capacity : Nat) (before : List Moment)
    (hs : ((start settings probe thread capacity).after before).stage = .idle)
    (now : Time.Instant) (later : List Moment) (hm : ∀ m ∈ later, m.isSteering = true) :
    let s := (start settings probe thread capacity).after before
    (s.giveUp now).bus.openStreams = [] ∧
      (s.giveUp now).plugin.control = { s.plugin.control with slot := .empty } ∧
      (s.giveUp now).LeftByGivingUp ((s.giveUp now).after later)
        (s.plugin.control.isPrepared = true → (s.giveUp now).IsQuiet later) := by
  intro s
  have hheld := holds_after settings probe thread capacity before
  have hclosed := ((handling_giveUp hs now).holds hheld).table
  exact ⟨hclosed.eq_nil, rfl, leftByGivingUp_after hs hheld now hm⟩

/-- A prepared bridge for the level is given up, and then the skip interval is changed. -/
theorem level_is_given_up :
    (levelStart.after levelPrepared).stage = .idle ∧
      (∀ m ∈ [levelSkips], m.isSteering = true) ∧
      let s := levelStart.after levelPrepared
      (s.giveUp .epoch).bus.openStreams = [] ∧
        (s.giveUp .epoch).plugin.control = { s.plugin.control with slot := .empty } ∧
        (s.giveUp .epoch).LeftByGivingUp ((s.giveUp .epoch).after [levelSkips])
          (s.plugin.control.isPrepared = true → (s.giveUp .epoch).IsQuiet [levelSkips]) := by
  have hm : ∀ m ∈ [levelSkips], m.isSteering = true := by
    intro m hmem
    rw [List.mem_singleton.mp hmem]
    rfl
  exact ⟨stage_levelPrepared, hm, nothing_left_iff_left_alone ⟨["level"], "desk", false, true, 0⟩
    none .ordinary 4 levelPrepared stage_levelPrepared .epoch [levelSkips] hm⟩

/-- A bridge that was given up can be made to open streams again, which stay open. -/
theorem not_everything_ends_with_the_bridge :
    ¬∀ (settings : Settings) (probe : Option Probe) (thread : Probe) (capacity : Nat)
        (before : List Moment) (now : Time.Instant) (later : List Moment),
      let s := (start settings probe thread capacity).after before
      s.stage = .idle → (∀ m ∈ later, m.isSteering = true) →
        ((s.giveUp now).after later).bus.openStreams = [] ∧
          ((s.giveUp now).after later).pending = none := by
  intro hall
  have hm : ∀ m ∈ [levelSkips], m.isSteering = true := by
    intro m hmem
    rw [List.mem_singleton.mp hmem]
    rfl
  obtain ⟨hclosed, _⟩ := hall ⟨["level"], "desk", false, true, 0⟩ none .ordinary 4 levelPrepared
    .epoch [levelSkips] stage_levelPrepared hm
  have hopen : (((levelStart.after levelPrepared).giveUp .epoch).after
      [levelSkips]).bus.openStreams ≠ [] := by decide +kernel
  exact hopen hclosed

end Interplay

end VariableBridge
