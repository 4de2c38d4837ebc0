import VariableBridge.Proofs.Bridge.Agreement
import VariableBridge.Proofs.Bridge.Rejection
import VariableBridge.Proofs.Bridge.Twins

/-!
# Released bridges are like new ones

Everything that a span leaves behind is either dropped by the release or overwritten by
the next preparation. Two bridges are twins if they differ only in the identities of
their streams and, while they are not prepared, in the safety check. Main statements:
every call takes twins to twins, answers the same and publishes the same; a released
bridge is the twin of a new one with its settings; hence the two cannot be told apart
by calls, as long as no cycle is asked of an unprepared bridge.
-/

namespace VariableBridge

variable {ρ ρ₁ : Renaming} {b b' : Bus} {h : Host}

/-- Two registries that are twins for all names, or none on either side. -/
abbrev OptionTwin (ρ : Renaming) : Option Registry → Option Registry → Prop :=
  Option.Rel (Registry.Twin allNames ρ)

namespace OptionTwin

variable {o o' : Option Registry}

/-- Registries that may be missing stay twins when more streams stand for each other, since no pair
is taken back. -/
theorem mono (ho : OptionTwin ρ o o') (hs : ρ.pairs ⊆ ρ₁.pairs) : OptionTwin ρ₁ o o' := by
  cases ho with
  | none => exact .none
  | some hr => exact .some (hr.mono hs)

/-- As lists of one registry or none, twins are twins element by element, so that they are closed in
lockstep. -/
theorem forall₂_toList (ho : OptionTwin ρ o o') :
    List.Forall₂ (Registry.Twin allNames ρ) o.toList o'.toList := by
  cases ho with
  | none => exact .nil
  | some hr => exact .cons hr .nil

/-- Of twins, either both registries are there or both are missing. -/
theorem isSome_eq (ho : OptionTwin ρ o o') : o'.isSome = o.isSome := by
  cases ho <;> rfl

/-- Twins have done equally much: their counts of passes, repointed and replaced streams and sends
agree. -/
theorem stats_eq (ho : OptionTwin ρ o o') : o'.map Registry.stats = o.map Registry.stats := by
  cases ho with
  | none => rfl
  | some hr => exact congrArg some (hr.counts fun _ _ => rfl)

end OptionTwin

/-- The registries on their way are twins. -/
structure Slot.Twin (ρ : Renaming) (s s' : Slot Registry) : Prop where
  /-- The pending ones. -/
  pending : OptionTwin ρ s.pending s'.pending
  /-- The retired ones. -/
  retired : OptionTwin ρ s.retired s'.retired

/-- The controlling sides are alike. -/
structure Control.Twin (ρ : Renaming) (c c' : Control) : Prop where
  /-- The parameters are the same. -/
  settings : c'.settings = c.settings
  /-- The signal is the same. -/
  shape : c'.shape = c.shape
  /-- The switch is the same. -/
  active : c'.active = c.active
  /-- The slots hold twins. -/
  slot : c.slot.Twin ρ c'.slot

/-- The bridges are alike, apart from the safety check while they are not prepared. -/
structure Plugin.Twin (ρ : Renaming) (p p' : Plugin) : Prop where
  /-- The controlling sides. -/
  control : p.control.Twin ρ p'.control
  /-- The registries that cycles use. -/
  current : OptionTwin ρ p.current p'.current
  /-- The probes have given the same answers and will go on doing so. -/
  probe : p'.probe = p.probe
  /-- So does the system of the calling threads. -/
  thread : p'.thread = p.thread
  /-- A span has the same safety check. -/
  gate : p.control.isPrepared = true → p'.gate = p.gate ∧ p'.probing = p.probing

/-- Two calls of bridges or controlling sides that were alike have ended alike. -/
def Outcome.Twin {σ α : Type} (twin : Renaming → σ → σ → Prop) (ρ : Renaming) (b b' : Bus)
    (o o' : Outcome σ α) : Prop :=
  ∃ ρ₁, Lockstep allNames ρ b b' ρ₁ o.bus o'.bus ∧ twin ρ₁ o.state o'.state ∧
    o'.result = o.result

namespace Slot

variable {s s' : Slot Registry}

/-- Slots stay twins when more streams stand for each other, since no pair is taken back. -/
theorem Twin.mono (ht : s.Twin ρ s') (hs : ρ.pairs ⊆ ρ₁.pairs) : s.Twin ρ₁ s' :=
  ⟨ht.pending.mono hs, ht.retired.mono hs⟩

/-- Two empty slots are twins under any renaming, which is how two bridges begin again after a
release. -/
theorem twin_empty (ρ : Renaming) : Slot.Twin ρ .empty .empty := ⟨.none, .none⟩

/-- All that a slot drops when it is emptied is closed in lockstep. -/
theorem Twin.close_values (ht : s.Twin ρ s') (hk : ρ.Known b b') :
    Lockstep allNames ρ b b' ρ (closeRegistries s.values b) (closeRegistries s'.values b') :=
  closeRegistries_twin (List.rel_append ht.pending.forall₂_toList ht.retired.forall₂_toList) hk

end Slot

namespace Control

variable {c c' : Control}

/-- Either both controlling sides are prepared or both are not, since their signals are the same. -/
theorem Twin.isPrepared_eq (ht : c.Twin ρ c') : c'.isPrepared = c.isPrepared := by
  unfold isPrepared
  rw [ht.shape]

/-- The same settings build twins on two buses, or fail on both for the same reason. -/
theorem buildRegistry_twin (h : Host) (settings : Settings) (shape : Shape) (hk : ρ.Known b b') :
    let made := buildRegistry h settings shape b
    let made' := buildRegistry h settings shape b'
    (∃ error, made.1 = .error error ∧ made'.1 = .error error) ∨
      ∃ r r' ρ₁, made.1 = .ok r ∧ made'.1 = .ok r' ∧
        Lockstep allNames ρ b b' ρ₁ made.2 made'.2 ∧ r.Twin allNames ρ₁ r' := by
  unfold buildRegistry
  cases hf : resolveAll h settings.vars with
  | error error =>
    left
    exact ⟨error, by simp only [Registry.build, hf], by simp only [Registry.build, hf]⟩
  | ok found =>
    exact Registry.build_twin allNames hf hf (List.filter_eq_self.mpr fun _ _ => rfl).symm hk
      (.inr fun _ _ => rfl)

/-- A change of parameters does the same on both sides: the same answer, and registries that are
twins. -/
theorem Twin.update (ht : c.Twin ρ c') (hk : ρ.Known b b')
    (href : ∀ info, h.refusal info = none) (next : Settings) :
    Outcome.Twin Control.Twin ρ b b' (c.update h next b) (c'.update h next b') := by
  by_cases hn : next = c.settings
  · have hn' : next = c'.settings := hn.trans ht.settings.symm
    subst hn
    rw [update_of_eq, hn', update_of_eq]
    exact ⟨ρ, .idle hk, ht, rfl⟩
  · have hn' : next ≠ c'.settings := fun he => hn (he.trans ht.settings)
    cases hs : c.shape with
    | none =>
      rw [update_of_unprepared hs, update_of_unprepared (ht.shape.trans hs)]
      exact ⟨ρ, .idle hk, ⟨rfl, ht.shape, ht.active, ht.slot⟩, rfl⟩
    | some shape =>
      have hs' : c'.shape = some shape := ht.shape.trans hs
      rcases buildRegistry_twin h next shape hk with ⟨error, he, he'⟩ |
        ⟨r, r', ρ₁, hr, hr', hbuild, hnew⟩
      · rw [update_of_rejected hn hs he, update_of_rejected hn' hs' he',
          buildRegistry_of_error href he, buildRegistry_of_error href he']
        exact ⟨ρ, .idle hk, ht, rfl⟩
      · rw [update_of_built hn hs hr, update_of_built hn' hs' hr']
        have hslot := ht.slot.mono hbuild.grows
        have hclose := closeRegistries_twin
          (List.rel_append hslot.retired.forall₂_toList hslot.pending.forall₂_toList) hbuild.known
        exact ⟨ρ₁, hbuild.trans hclose, ⟨rfl, ht.shape, ht.active, .some hnew, .none⟩, rfl⟩

/-- A collection drops twins, says the same, and closes the streams that stand for each other. -/
theorem Twin.collect (ht : c.Twin ρ c') (hk : ρ.Known b b') :
    Lockstep allNames ρ b b' ρ (c.collect b).2.2 (c'.collect b').2.2 ∧
      (c.collect b).2.1.Twin ρ (c'.collect b').2.1 ∧ (c'.collect b').1 = (c.collect b).1 :=
  ⟨closeRegistries_twin ht.slot.retired.forall₂_toList hk,
    ⟨ht.settings, ht.shape, ht.active, ht.slot.pending, .none⟩, ht.slot.retired.isSome_eq⟩

/-- To change the source does the same on both sides: it is refused with the same error, or new
registries that are twins are published. -/
theorem Twin.setSourceId (ht : c.Twin ρ c') (hk : ρ.Known b b')
    (href : ∀ info, h.refusal info = none) (sourceId : String) :
    Outcome.Twin Control.Twin ρ b b' (c.setSourceId h sourceId b)
      (c'.setSourceId h sourceId b') := by
  unfold Control.setSourceId
  rw [ht.settings]
  exact ht.update hk href _

/-- To change the skip interval does the same on both sides: it is refused with the same error, or
new registries that are twins are published. -/
theorem Twin.setSkip (ht : c.Twin ρ c') (hk : ρ.Known b b')
    (href : ∀ info, h.refusal info = none) (skip : UInt32) :
    Outcome.Twin Control.Twin ρ b b' (c.setSkip h skip b) (c'.setSkip h skip b') := by
  unfold Control.setSkip
  rw [ht.settings]
  exact ht.update hk href _

/-- To switch sending on or off does the same on both sides, and touches no registry. -/
theorem Twin.setActivate (ht : c.Twin ρ c') (activate : Bool) :
    (c.setActivate activate).Twin ρ (c'.setActivate activate) := by
  refine ⟨?_, ht.shape, rfl, ht.slot⟩
  unfold Control.setActivate
  rw [ht.settings]

/-- To change the variables gives the same answer on both sides: locked, refused for the same name,
or accepted. -/
theorem Twin.setVars (ht : c.Twin ρ c') (vars : List String) :
    (c.setVars vars).2.Twin ρ (c'.setVars vars).2 ∧
      (c'.setVars vars).1 = (c.setVars vars).1 := by
  unfold Control.setVars
  rw [ht.isPrepared_eq]
  by_cases hp : c.isPrepared = true
  · rw [if_pos hp, if_pos hp]
    exact ⟨ht, rfl⟩
  · rw [if_neg hp, if_neg hp, ht.settings]
    cases Settings.checkNames vars with
    | error error => exact ⟨ht, rfl⟩
    | ok checked => exact ⟨⟨rfl, ht.shape, ht.active, ht.slot⟩, rfl⟩

/-- To switch the safety check gives the same answer on both sides: it is locked on both or changed
on both. -/
theorem Twin.setRtStrict (ht : c.Twin ρ c') (rtStrict : Bool) :
    (c.setRtStrict rtStrict).2.Twin ρ (c'.setRtStrict rtStrict).2 ∧
      (c'.setRtStrict rtStrict).1 = (c.setRtStrict rtStrict).1 := by
  unfold Control.setRtStrict
  rw [ht.isPrepared_eq, ht.settings]
  by_cases hp : c.isPrepared = true
  · rw [if_pos hp, if_pos hp]
    exact ⟨ht, rfl⟩
  · rw [if_neg hp, if_neg hp]
    exact ⟨⟨rfl, ht.shape, ht.active, ht.slot⟩, rfl⟩

end Control

namespace Plugin

variable {p p' : Plugin}

/-- Bridges stay twins when more streams stand for each other, since no pair is taken back. -/
theorem Twin.mono (ht : p.Twin ρ p') (hs : ρ.pairs ⊆ ρ₁.pairs) : p.Twin ρ₁ p' :=
  ⟨⟨ht.control.settings, ht.control.shape, ht.control.active, ht.control.slot.mono hs⟩,
    ht.current.mono hs, ht.probe, ht.thread, ht.gate⟩

/-- A call on the controlling side that ends alike for the controlling sides ends alike for the
bridges, if it leaves the signal. -/
theorem Twin.steered (ht : p.Twin ρ p') {o o' : Outcome Control Unit}
    (ho : Outcome.Twin Control.Twin ρ b b' o o') (hs : o.state.shape = p.control.shape) :
    Outcome.Twin Plugin.Twin ρ b b' (p.steered o) (p'.steered o') := by
  obtain ⟨ρ₁, hstep, hcontrol, hresult⟩ := ho
  have hprepared : o.state.isPrepared = p.control.isPrepared := congrArg Option.isSome hs
  exact ⟨ρ₁, hstep, ⟨hcontrol, ht.current.mono hstep.grows, ht.probe, ht.thread,
    fun hp => ht.gate (hprepared ▸ hp)⟩, hresult⟩

/-- Taking over does the same on both sides: both fail with one error, or both build registries that
are twins. -/
theorem takeOver_twin {c c' : Control} (ht : c.Twin ρ c') (hk : ρ.Known b b')
    (href : ∀ info, h.refusal info = none) (shape : Shape) :
    (∃ error, takeOver c h shape b = ⟨.error error, c, b⟩ ∧
        takeOver c' h shape b' = ⟨.error error, c', b'⟩) ∨
      ∃ settings r r' ρ₁ b₁ b₁',
        takeOver c h shape b = ⟨.ok r, { c with settings, shape := some shape }, b₁⟩ ∧
        takeOver c' h shape b' = ⟨.ok r', { c' with settings, shape := some shape }, b₁'⟩ ∧
        Lockstep allNames ρ b b' ρ₁ b₁ b₁' ∧ r.Twin allNames ρ₁ r' := by
  have hfound : settingsToPrepare c' h = settingsToPrepare c h := by
    unfold settingsToPrepare
    rw [ht.settings]
  unfold takeOver
  rw [ht.isPrepared_eq, ht.settings, hfound]
  cases shape.validate with
  | error error => exact .inl ⟨error, rfl, rfl⟩
  | ok checked =>
    cases c.isPrepared with
    | true => exact .inl ⟨_, rfl, rfl⟩
    | false =>
      cases c.settings.validate with
      | error error => exact .inl ⟨error, rfl, rfl⟩
      | ok checked =>
        cases settingsToPrepare c h with
        | error error => exact .inl ⟨error, rfl, rfl⟩
        | ok settings =>
          simp only [Bool.false_eq_true, if_false]
          rcases Control.buildRegistry_twin h settings shape hk with ⟨error, he, he'⟩ |
            ⟨r, r', ρ₁, hr, hr', hbuild, hnew⟩
          · left
            have hm : Control.buildRegistry h settings shape b = (.error error, b) :=
              Prod.ext he (Control.buildRegistry_of_error href he)
            have hm' : Control.buildRegistry h settings shape b' = (.error error, b') :=
              Prod.ext he' (Control.buildRegistry_of_error href he')
            rw [hm, hm']
            exact ⟨error, rfl, rfl⟩
          · right
            have hm : Control.buildRegistry h settings shape b =
              (.ok r, (Control.buildRegistry h settings shape b).2) := Prod.ext hr rfl
            have hm' : Control.buildRegistry h settings shape b' =
              (.ok r', (Control.buildRegistry h settings shape b').2) := Prod.ext hr' rfl
            rw [hm, hm']
            exact ⟨settings, r, r', ρ₁, _, _, rfl, rfl, hbuild, hnew⟩

/-- A preparation does the same on both sides, whether it succeeds or not, and leaves twins. -/
theorem Twin.prepare (ht : p.Twin ρ p') (hk : ρ.Known b b')
    (href : ∀ info, h.refusal info = none) (shape : Shape) :
    Outcome.Twin Plugin.Twin ρ b b' (p.prepare h shape b) (p'.prepare h shape b') := by
  unfold Plugin.prepare
  rcases takeOver_twin ht.control hk href shape with ⟨error, he, he'⟩ |
    ⟨settings, r, r', ρ₁, b₁, b₁', hr, hr', hbuild, hnew⟩
  · rw [he, he']
    exact ⟨ρ, .idle hk, ht, rfl⟩
  · rw [hr, hr']
    have hslot := (ht.control.slot.mono hbuild.grows).close_values hbuild.known
    have hcurrent := closeRegistries_twin
      (ht.current.mono hbuild.grows).forall₂_toList hslot.known
    -- the new span begins with the same safety check, whatever the old checks were
    have hcontrol : Control.Twin ρ₁ ⟨settings, some shape, p.control.active, .empty⟩
        ⟨settings, some shape, p'.control.active, .empty⟩ :=
      ⟨rfl, rfl, ht.control.active, Slot.twin_empty ρ₁⟩
    exact ⟨ρ₁, hbuild.trans (hslot.trans hcurrent), ⟨hcontrol, .some hnew, ht.probe, ht.thread,
      fun _ => ⟨rfl, congrArg Option.isSome ht.probe⟩⟩, rfl⟩

/-- A release does the same on both sides: streams that stand for each other are closed in the same
order. -/
theorem Twin.release (ht : p.Twin ρ p') (hk : ρ.Known b b') :
    Lockstep allNames ρ b b' ρ (p.release b).2 (p'.release b').2 ∧
      (p.release b).1.Twin ρ (p'.release b').1 := by
  have hcurrent := closeRegistries_twin ht.current.forall₂_toList hk
  have hslot := ht.control.slot.close_values hcurrent.known
  have hcontrol : Control.Twin ρ { p.control with shape := none, slot := .empty }
      { p'.control with shape := none, slot := .empty } :=
    ⟨ht.control.settings, rfl, ht.control.active, Slot.twin_empty ρ⟩
  refine ⟨hcurrent.trans hslot, hcontrol, .none, ht.probe, ht.thread, ?_⟩
  -- the bridges are not prepared any more, so their safety checks need not be alike
  intro hp
  cases hp

/-- A prepared bridge makes the same safety check as its twin, with the same answers of the
probe. -/
theorem Twin.check (ht : p.Twin ρ p') (hp : p.control.isPrepared = true) :
    p'.check.1 = p.check.1 ∧ p.check.2.Twin ρ p'.check.2 := by
  obtain ⟨hgate, hprobing⟩ := ht.gate hp
  unfold Plugin.check
  rw [hgate, hprobing, ht.probe, ht.thread]
  cases p.probing with
  | false => exact ⟨rfl, ht.control, ht.current, rfl, rfl, fun _ => ⟨rfl, rfl⟩⟩
  | true =>
    cases p.probe with
    | none => exact ⟨rfl, ht.control, ht.current, rfl, rfl, fun _ => ⟨rfl, rfl⟩⟩
    | some probe => exact ⟨rfl, ht.control, ht.current, rfl, rfl, fun _ => ⟨rfl, rfl⟩⟩

/-- Adopting takes twins to twins, because both have something pending or neither has. -/
theorem Twin.adopt (ht : p.Twin ρ p') : p.adopt.Twin ρ p'.adopt := by
  obtain ⟨⟨settings, shape, active, ⟨pending, retired⟩⟩, current, gate, probe, thread, probing⟩ := p
  obtain ⟨⟨settings', shape', active', ⟨pending', retired'⟩⟩, current', gate', probe', thread',
    probing'⟩ := p'
  obtain ⟨⟨hsettings, hshape, hactive, ⟨hpending, hretired⟩⟩, hcurrent, hprobe, hthread, hgate⟩ :=
    ht
  cases hpending with
  | none => exact ⟨⟨hsettings, hshape, hactive, .none, hretired⟩, hcurrent, hprobe, hthread, hgate⟩
  | some hr =>
    cases hretired with
    | none =>
      exact ⟨⟨hsettings, hshape, hactive, .none, hcurrent⟩, .some hr, hprobe, hthread, hgate⟩
    | some hold =>
      exact ⟨⟨hsettings, hshape, hactive, .some hr, .some hold⟩, hcurrent, hprobe, hthread, hgate⟩

/-- A cycle of a prepared bridge does the same as that of its twin. -/
theorem Twin.process (ht : p.Twin ρ p') (hk : ρ.Known b b') (hp : p.control.isPrepared = true)
    (h : Host) : Outcome.Twin Plugin.Twin ρ b b' (p.process h b) (p'.process h b') := by
  obtain ⟨hverdict, hchecked⟩ := ht.check hp
  cases hc : p.check.1 with
  | error error =>
    rw [process_of_error _ _ _ hc, process_of_error _ _ _ (hverdict.trans hc)]
    exact ⟨ρ, .idle hk, hchecked, rfl⟩
  | ok checked =>
    have hadopted := hchecked.adopt
    rw [process_of_ok _ _ _ hc, process_of_ok _ _ _ (hverdict.trans hc), hadopted.control.active]
    cases p.check.2.adopt.control.active with
    | false => exact ⟨ρ, .idle hk, hadopted, rfl⟩
    | true =>
      have hcurrent := hadopted.current
      generalize p.check.2.adopt.current = current,
        p'.check.2.adopt.current = current' at hcurrent ⊢
      cases hcurrent with
      | none => exact ⟨ρ, .idle hk, hadopted, rfl⟩
      | some hr =>
        obtain ⟨ρ₁, hstep, hcycled, hresult⟩ := hr.process (h := h) hk (.inr fun _ _ => rfl)
        have hplugin := hadopted.mono hstep.grows
        exact ⟨ρ₁, hstep,
          ⟨hplugin.control, .some hcycled, hplugin.probe, hplugin.thread, hplugin.gate⟩,
          congrArg (Except.map fun _ => ()) hresult⟩

/-- A bridge that is idle is the twin of a new one that has its settings and asks what it would
ask. -/
theorem IsIdle.twin_new (hp : p.IsIdle) (hf : p.control.active = p.control.settings.activate)
    (ρ : Renaming) : p.Twin ρ (.new p.control.settings p.probe p.thread) := by
  have hslot : p.control.slot.Twin ρ .empty := by
    rw [hp.slot]
    exact Slot.twin_empty ρ
  refine ⟨⟨rfl, hp.shape.symm, hf.symm, hslot⟩, ?_, rfl, rfl, ?_⟩
  · rw [hp.current]
    exact .none
  · intro hprepared
    rw [Control.isPrepared, hp.shape] at hprepared
    cases hprepared

/-- What a bridge and its controlling side can be asked for. -/
structure Status where
  /-- The parameters. -/
  settings : Settings
  /-- Is the bridge prepared? -/
  prepared : Bool
  /-- Does a registry wait for the next cycle? -/
  pending : Bool
  /-- What the registry in use has done. -/
  stats : Option Stats
  deriving DecidableEq

/-- The answers of a bridge. -/
def status (p : Plugin) : Status :=
  ⟨p.control.settings, p.control.isPrepared, p.control.hasPending, p.current.map Registry.stats⟩

/-- All that a caller can ask a bridge for is the same of twins: settings, being prepared, a pending
registry, and the counts. -/
theorem Twin.status_eq (ht : p.Twin ρ p') : p'.status = p.status := by
  have hpending : p'.control.hasPending = p.control.hasPending :=
    ht.control.slot.pending.isSome_eq
  unfold status
  rw [ht.control.settings, ht.control.isPrepared_eq, hpending, ht.current.stats_eq]

end Plugin

/-- Every call but a cycle of an unprepared bridge does the same with twins. -/
theorem Call.run_twin (call : Call) {p p' : Plugin} (ht : p.Twin ρ p') (hk : ρ.Known b b')
    (href : ∀ info, h.refusal info = none)
    (hp : call = .process → p.control.isPrepared = true) :
    Outcome.Twin Plugin.Twin ρ b b' (call.run h p b) (call.run h p' b') := by
  have hc := ht.control
  cases call with
  | prepare shape => exact ht.prepare hk href shape
  | process => exact ht.process hk (hp rfl) h
  | release =>
    obtain ⟨hstep, hreleased⟩ := ht.release hk
    exact ⟨ρ, hstep, hreleased, rfl⟩
  | setVars vars =>
    obtain ⟨hset, hresult⟩ := hc.setVars vars
    exact ht.steered ⟨ρ, .idle hk, hset, hresult⟩ (p.control.shape_setVars vars)
  | setRtStrict rtStrict =>
    obtain ⟨hset, hresult⟩ := hc.setRtStrict rtStrict
    exact ht.steered ⟨ρ, .idle hk, hset, hresult⟩ (p.control.shape_setRtStrict rtStrict)
  | setSourceId sourceId =>
    exact ht.steered (hc.setSourceId hk href sourceId) (p.control.shape_update h _ b)
  | setSkip skip => exact ht.steered (hc.setSkip hk href skip) (p.control.shape_update h _ b)
  | setActivate activate => exact ht.steered ⟨ρ, .idle hk, hc.setActivate activate, rfl⟩ rfl
  | collect =>
    obtain ⟨hstep, hcollected, _⟩ := hc.collect hk
    exact ht.steered ⟨ρ, hstep, hcollected, rfl⟩ rfl

/-- Calls at moments that differ in the time only. -/
structure Turn.SameButTime (t t' : Turn) : Prop where
  /-- The calls are the same. -/
  call : t'.call = t.call
  /-- The variables are the same. -/
  catalogue : t'.catalogue = t.catalogue
  /-- The memory is the same. -/
  memory : t'.memory = t.memory

/-- What a call shows to the outside. -/
structure CallReport where
  /-- Whether the call succeeded. -/
  result : Except BridgeError Unit
  /-- Whether a collection had something to drop. -/
  dropped : Bool
  /-- What was published. -/
  messages : List BusMessage

/-- The same answers, and the same messages up to identities and time stamps. -/
structure CallReport.SameUpTo (ρ : Renaming) (report report' : CallReport) : Prop where
  /-- The answers are the same. -/
  result : report'.result = report.result
  /-- The answers of collections are the same. -/
  dropped : report'.dropped = report.dropped
  /-- The messages are the same. -/
  messages : SameMessages ρ report.messages report'.messages

namespace Session

/-- Does the call say that it dropped a registry? Only a collection can. -/
def drops (s : Session) (t : Turn) : Bool :=
  match t.call with
  | .collect => (s.plugin.control.collect { s.bus with now := t.now }).1
  | _ => false

/-- What calls show, one after the other. -/
def reports (s : Session) : List Turn → List CallReport
  | [] => []
  | t :: turns =>
    ⟨(s.outcome t).result, s.drops t, (s.perform t).bus.since s.bus⟩ :: (s.perform t).reports turns

/-- Is a cycle asked of the bridge only while it is prepared? -/
def Orderly (s : Session) : List Turn → Prop
  | [] => True
  | t :: turns =>
    (t.call = .process → s.plugin.control.isPrepared = true) ∧ (s.perform t).Orderly turns

instance decidableOrderly : (s : Session) → (turns : List Turn) → Decidable (s.Orderly turns)
  | _, [] => .isTrue trivial
  | s, t :: turns => @instDecidableAnd _ _ _ (decidableOrderly (s.perform t) turns)

/-- Sessions of twins on buses that know the renaming. -/
structure Twin (ρ : Renaming) (s s' : Session) : Prop where
  /-- The streams of the renaming were opened. -/
  known : ρ.Known s.bus s'.bus
  /-- The bridges are twins. -/
  plugin : s.plugin.Twin ρ s'.plugin

variable {s s' : Session} {t t' : Turn}

/-- A call takes twins to twins, answers the same, shows the same messages up to renaming, and drops
as much. -/
theorem Twin.perform (ht : s.Twin ρ s') (hsame : t.SameButTime t')
    (hp : t.call = .process → s.plugin.control.isPrepared = true) :
    ∃ ρ₁, Lockstep allNames ρ s.bus s'.bus ρ₁ (s.perform t).bus (s'.perform t').bus ∧
      (s.perform t).Twin ρ₁ (s'.perform t') ∧
      (s'.outcome t').result = (s.outcome t).result ∧ s'.drops t' = s.drops t := by
  obtain ⟨call, catalogue, memory, now⟩ := t
  obtain ⟨call', catalogue', memory', now'⟩ := t'
  obtain ⟨rfl, rfl, rfl⟩ := hsame
  let world : Host := ⟨catalogue', memory', fun _ => none⟩
  have hk : ρ.Known { s.bus with now } { s'.bus with now := now' } := ht.known
  obtain ⟨ρ₁, hstep, hplugin, hresult⟩ :=
    call'.run_twin (h := world) ht.plugin hk (fun _ => rfl) hp
  refine ⟨ρ₁, hstep.at_times, ⟨hstep.known, hplugin⟩, hresult, ?_⟩
  cases call' with
  | collect => exact (ht.plugin.control.collect hk).2.2
  | _ => rfl

/-- Orderly calls show the same of twins, by induction on the calls. The renaming only grows. -/
theorem Twin.reports (ht : s.Twin ρ s') {turns turns' : List Turn}
    (hsame : List.Forall₂ Turn.SameButTime turns turns') (ho : s.Orderly turns) :
    ∃ ρ₁, ρ.pairs ⊆ ρ₁.pairs ∧ (s.after turns).Twin ρ₁ (s'.after turns') ∧
      List.Forall₂ (CallReport.SameUpTo ρ₁) (s.reports turns) (s'.reports turns') := by
  induction hsame generalizing s s' ρ with
  | nil => exact ⟨ρ, fun _ hp => hp, ht, .nil⟩
  | cons hfirst _ ih =>
    obtain ⟨ρ₁, hstep, hnext, hresult, hdropped⟩ := ht.perform hfirst ho.1
    obtain ⟨ρ₂, hgrows, hafter, hreports⟩ := ih hnext ho.2
    exact ⟨ρ₂, fun _ hp => hgrows (hstep.grows hp), hafter,
      .cons ⟨hresult, hdropped, hstep.since_of_allNames.mono hgrows⟩ hreports⟩

/-- Whatever happened before it, a release leaves a bridge that cannot be told apart from a new
one with the settings that are reported now and the same probes, on any bus: if a cycle is asked
only of a prepared bridge, both give the same answers to all calls, publish the same messages up
to the identities of the streams and the time stamps, and show the same settings, counts and
pending registries afterwards. -/
theorem release_leaves_no_residue (settings : Settings) (probe : Option Probe) (thread : Probe)
    (capacity : Nat) (before : List Turn) {release : Turn} (hr : release.call = .release)
    (bus : Bus) {turns turns' : List Turn} (hsame : List.Forall₂ Turn.SameButTime turns turns') :
    let released := ((start settings probe thread capacity).after before).perform release
    let fresh : Session :=
      ⟨.new released.plugin.control.settings released.plugin.probe released.plugin.thread, bus,
        none⟩
    released.Orderly turns →
      (fresh.after turns').plugin.status = (released.after turns).plugin.status ∧
      ∃ ρ, List.Forall₂ (CallReport.SameUpTo ρ) (released.reports turns)
        (fresh.reports turns') := by
  intro released fresh ho
  have ha : released.Agrees :=
    ((agrees_start settings probe thread capacity).after before).perform release
  have hspan : released.span = none := by
    obtain ⟨call, catalogue, memory, now⟩ := release
    obtain rfl : call = .release := hr
    rfl
  have hidle : released.plugin.IsIdle := Plugin.Agrees.idle ha hspan
  have htwin : released.Twin .empty fresh :=
    ⟨Renaming.known_empty _ _, hidle.twin_new (Plugin.Agrees.flag ha) _⟩
  obtain ⟨ρ, _, hafter, hreports⟩ := htwin.reports hsame ho
  exact ⟨hafter.plugin.status_eq, ρ, hreports⟩

/-- A strict bridge that was refused on a real-time thread is released and used again on an
ordinary one, a day later on the side of the new bridge. -/
theorem refused_bridge_leaves_no_residue :
    let space := Space.empty.insert "level" (.int32 [7])
    let settings : Settings := ⟨["level"], "desk", true, true, 1⟩
    let probe : Option Probe := some (.ofAnswers [.ok .fifo, .ok (.other 0)])
    let turn := fun call now => Turn.mk call (.ofSpace space) space.memory now
    let prepare : Call := .prepare ⟨.ofNat 1000, 10⟩
    let before := [turn prepare .epoch, turn .process .epoch]
    let turns := [turn prepare .epoch, turn .process .epoch]
    let turns' := [turn prepare ⟨86400, 0⟩, turn .process ⟨86400, 0⟩]
    let refused := (start settings probe .ordinary 4).after before
    let released := refused.perform (turn .release .epoch)
    let fresh : Session :=
      ⟨.new released.plugin.control.settings released.plugin.probe released.plugin.thread, .new 8,
        none⟩
    refused.plugin.gate.violation.isSome = true ∧
      (turn .release .epoch).call = .release ∧ List.Forall₂ Turn.SameButTime turns turns' ∧
      released.Orderly turns ∧
      (fresh.after turns').plugin.status = (released.after turns).plugin.status ∧
      ∃ ρ, List.Forall₂ (CallReport.SameUpTo ρ) (released.reports turns)
        (fresh.reports turns') := by
  intro space settings probe turn prepare before turns turns' refused released fresh
  have hrefused : refused.plugin.gate.violation.isSome = true := by
    unfold refused before turn prepare probe settings space
    decide +kernel
  have hsame : List.Forall₂ Turn.SameButTime turns turns' :=
    .cons ⟨rfl, rfl, rfl⟩ (.cons ⟨rfl, rfl, rfl⟩ .nil)
  have ho : released.Orderly turns := by
    unfold released refused turns before turn prepare probe settings space
    decide +kernel
  exact ⟨hrefused, rfl, hsame, ho,
    release_leaves_no_residue settings probe .ordinary 4 before rfl (.new 8) hsame ho⟩

end Session

end VariableBridge
