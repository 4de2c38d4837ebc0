import VariableBridge.Proofs.Bridge.Session

/-!
# One safety check for each span

The answers of a probe may change from call to call, but a gate asks only once before it
is armed again. Main statements: a new gate takes the verdict on the next answer, a gate
that has a verdict repeats it and asks no more; hence a bridge that was refused at the
first cycle of a span is refused with the same error at all later ones, whatever is asked
of its controlling side, and a refused cycle changes nothing.
-/

namespace VariableBridge

namespace Gate

/-- The verdict of a check that is made now. -/
def verdictNow (strict : Bool) (p : Probe) : Except BridgeError Unit :=
  if strict then Probe.verdict (p.answer p.calls) else .ok ()

/-- The probe after a check. -/
def probeAfter (strict : Bool) (p : Probe) : Probe := if strict then p.ask.2 else p

/-- A gate with a verdict. -/
def decided (strict : Bool) (verdict : Except BridgeError Unit) : Gate :=
  ⟨strict, true, failureOf verdict⟩

/-- A new gate makes the check: it asks the probe if it is strict, and remembers the verdict. -/
theorem check_new (strict : Bool) (p : Probe) :
    (new strict).check p =
      (verdictNow strict p, decided strict (verdictNow strict p), probeAfter strict p) := by
  cases strict <;> rfl

/-- A gate that was asked before repeats its verdict, and the probe is not asked again. -/
theorem check_decided (strict : Bool) (verdict : Except BridgeError Unit) (p : Probe) :
    (decided strict verdict).check p = (verdict, decided strict verdict, p) := by
  cases verdict <;> rfl

/-- A check never changes whether the gate is strict. This is fixed when the gate is made. -/
theorem strict_check (g : Gate) (p : Probe) : (g.check p).2.1.strict = g.strict := by
  unfold check
  split
  · rfl
  · split <;> rfl

/-- A check fails exactly if the gate is strict and the probe failed or told of a real-time
thread. -/
theorem verdictNow_eq_error_iff (strict : Bool) (p : Probe) :
    (∃ error, verdictNow strict p = .error error) ↔
      strict = true ∧ ((∃ error, p.answer p.calls = .error error) ∨
        ∃ policy, p.answer p.calls = .ok policy ∧ policy.isRealTime = true) := by
  unfold verdictNow
  cases strict with
  | false => simp
  | true =>
    cases p.answer p.calls with
    | error error => simp [Probe.verdict]
    | ok policy => cases hp : policy.isRealTime <;> simp [Probe.verdict, hp]

end Gate

/-- A gate and the probe that it asks. -/
structure Guard where
  /-- The gate. -/
  gate : Gate
  /-- The probe. -/
  probe : Probe

namespace Guard

/-- What is asked of a gate. -/
inductive Request where
  /-- Make the check or repeat its verdict. -/
  | check
  /-- Arm the check again. -/
  | rearm
  deriving DecidableEq, Repr

/-- A new gate. -/
def start (strict : Bool) (probe : Probe) : Guard := ⟨.new strict, probe⟩

/-- The verdict that an admission gets now. -/
def verdict (g : Guard) : Except BridgeError Unit := (g.gate.check g.probe).1

/-- One request. -/
def perform (g : Guard) : Request → Guard
  | .check => ⟨(g.gate.check g.probe).2.1, (g.gate.check g.probe).2.2⟩
  | .rearm => ⟨g.gate.rearm, g.probe⟩

/-- Some requests. -/
def after (g : Guard) (requests : List Request) : Guard := requests.foldl perform g

/-- The verdicts of so many admissions in a row. -/
def verdicts (g : Guard) : Nat → List (Except BridgeError Unit)
  | 0 => []
  | n + 1 => g.verdict :: (g.perform .check).verdicts n

/-- No request changes whether a gate is strict, not even arming it again. -/
theorem strict_perform (g : Guard) (r : Request) : (g.perform r).gate.strict = g.gate.strict := by
  cases r with
  | check => exact g.gate.strict_check g.probe
  | rearm => rfl

/-- A gate stays as strict as it was made over all requests, by induction on the requests. -/
theorem strict_after (g : Guard) (requests : List Request) :
    (g.after requests).gate.strict = g.gate.strict := by
  induction requests generalizing g with
  | nil => rfl
  | cons r requests ih => exact (ih (g.perform r)).trans (g.strict_perform r)

/-- At the beginning of a stretch the gate is as good as new: it was just made, or it was just armed
again. -/
theorem gate_of_stretch {strict : Bool} {probe : Probe} {requests : List Request}
    (h : requests = [] ∨ ∃ earlier, requests = earlier ++ [.rearm]) :
    ((start strict probe).after requests).gate = .new strict := by
  rcases h with rfl | ⟨earlier, rfl⟩
  · rfl
  · rw [after, List.foldl_append]
    exact congrArg Gate.new (strict_after (start strict probe) earlier)

/-- Further admissions repeat the verdict and leave the probe alone. -/
theorem admits_of_decided {g : Guard} {strict : Bool} {verdict : Except BridgeError Unit}
    (hg : g.gate = .decided strict verdict) (n : Nat) :
    g.verdicts n = List.replicate n verdict ∧ g.after (List.replicate n .check) = g := by
  have hcheck := Gate.check_decided strict verdict g.probe
  have hsame : g.perform .check = g := by
    obtain ⟨gate, probe⟩ := g
    obtain rfl : gate = .decided strict verdict := hg
    simp only [perform, hcheck]
  induction n with
  | zero => exact ⟨rfl, rfl⟩
  | succ n ih =>
    rw [verdicts, List.replicate_succ, List.replicate_succ, after, List.foldl_cons, hsame]
    refine ⟨?_, ih.2⟩
    rw [ih.1, Guard.verdict, hg, hcheck]

/-- The admissions of a stretch get the verdict of the first one, for which the probe is asked. -/
theorem admits_of_new {g : Guard} {strict : Bool} (hg : g.gate = .new strict) (n : Nat) :
    g.verdicts n = List.replicate n (Gate.verdictNow strict g.probe) ∧
      (g.after (List.replicate n .check)).probe.calls =
        g.probe.calls + if strict = true ∧ n ≠ 0 then 1 else 0 := by
  have hcheck := Gate.check_new strict g.probe
  cases n with
  | zero => simp [verdicts, after]
  | succ n =>
    have hdecided : (g.perform .check).gate =
        .decided strict (Gate.verdictNow strict g.probe) := by
      rw [perform, hg, hcheck]
    obtain ⟨hverdicts, hafter⟩ := admits_of_decided hdecided n
    constructor
    · rw [verdicts, hverdicts, List.replicate_succ, Guard.verdict, hg, hcheck]
    · rw [List.replicate_succ, after, List.foldl_cons, ← after, hafter, perform, hg, hcheck]
      cases strict <;> simp [Gate.probeAfter, Probe.ask]

end Guard

namespace Plugin

variable {p : Plugin} {strict : Bool}

/-- The probe that the safety check asks. -/
def gateProbe (p : Plugin) : Probe := if p.probing then p.probe.getD p.thread else p.thread

/-- The first check of a span takes the verdict on the next answer. -/
theorem check_of_new (hg : p.gate = .new strict) :
    p.check.1 = Gate.verdictNow strict p.gateProbe ∧
      p.check.2.gate = .decided strict (Gate.verdictNow strict p.gateProbe) := by
  obtain ⟨control, current, gate, probe, thread, probing⟩ := p
  obtain rfl : gate = .new strict := hg
  unfold check gateProbe
  cases probing with
  | false =>
    simp only [Gate.check_new, Bool.false_eq_true, if_false, and_self]
  | true =>
    cases probe <;>
      simp only [Gate.check_new, if_true, Option.getD_none, Option.getD_some, and_self]

/-- A check after the first one changes nothing and repeats the verdict, whether it was good or
bad. -/
theorem check_of_decided {verdict : Except BridgeError Unit}
    (hg : p.gate = .decided strict verdict) : p.check = (verdict, p) := by
  obtain ⟨control, current, gate, probe, thread, probing⟩ := p
  obtain rfl : gate = .decided strict verdict := hg
  unfold check
  cases probing with
  | false => simp only [Gate.check_decided]
  | true => cases probe <;> simp only [Gate.check_decided]

/-- Was the bridge refused with this error in the span that it is in? -/
structure IsRefused (p : Plugin) (error : BridgeError) : Prop where
  /-- The span goes on. -/
  prepared : p.control.shape ≠ none
  /-- The verdict is the error. -/
  gate : ∃ strict, p.gate = .decided strict (.error error)

/-- A cycle of a refused bridge tells the error and changes nothing. -/
theorem IsRefused.process {error : BridgeError} (hp : p.IsRefused error) (h : Host) (bus : Bus) :
    p.process h bus = ⟨.error error, p, bus⟩ := by
  obtain ⟨strict, hg⟩ := hp.gate
  have hcheck := check_of_decided hg
  have hfails : p.check.1 = .error error := by rw [hcheck]
  rw [p.process_of_error h bus hfails, hcheck]

/-- Processing with a signal that is passed through fails with the same error as processing without
one. -/
theorem processSignal_of_error {α : Type} {error : BridgeError} {h : Host} {bus bus' : Bus}
    {p' : Plugin} (hp : p.process h bus = ⟨.error error, p', bus'⟩) (signal : α) :
    p.processSignal h signal bus = ⟨.error error, p', bus'⟩ := by
  unfold processSignal
  simp only [hp]

/-- A preparation during a span changes nothing in the bridge, because it is refused before anything
is built. -/
theorem state_prepare_of_prepared (hp : p.control.shape ≠ none) (h : Host) (shape : Shape)
    (bus : Bus) : (p.prepare h shape bus).state = p := by
  rcases p.prepare_cases h bus shape with ⟨error, hr⟩ | ⟨settings, error, _, hr⟩ |
    ⟨_, _, hs, _⟩
  · rw [hr]
  · rw [hr]
  · exact absurd hs hp

end Plugin

namespace Session

variable {s : Session} {t : Turn}

/-- During a span only a cycle and a release have to do with the safety check. -/
theorem check_perform (hp : s.plugin.control.shape ≠ none) (hcycle : t.call ≠ .process)
    (hrelease : t.call ≠ .release) :
    (s.perform t).plugin.control.shape = s.plugin.control.shape ∧
      (s.perform t).plugin.gate = s.plugin.gate ∧ (s.perform t).plugin.probe = s.plugin.probe ∧
      (s.perform t).plugin.probing = s.plugin.probing := by
  obtain ⟨call, catalogue, memory, now⟩ := t
  cases call with
  | process => exact (hcycle rfl).elim
  | release => exact (hrelease rfl).elim
  | prepare shape =>
    have hsame : (s.perform ⟨.prepare shape, catalogue, memory, now⟩).plugin = s.plugin :=
      Plugin.state_prepare_of_prepared hp _ shape _
    rw [hsame]
    exact ⟨rfl, rfl, rfl, rfl⟩
  | setVars vars => exact ⟨s.plugin.control.shape_setVars vars, rfl, rfl, rfl⟩
  | setRtStrict rtStrict => exact ⟨s.plugin.control.shape_setRtStrict rtStrict, rfl, rfl, rfl⟩
  | setSourceId sourceId => exact ⟨s.plugin.control.shape_update _ _ _, rfl, rfl, rfl⟩
  | setSkip skip => exact ⟨s.plugin.control.shape_update _ _ _, rfl, rfl, rfl⟩
  | setActivate activate => exact ⟨rfl, rfl, rfl, rfl⟩
  | collect => exact ⟨rfl, rfl, rfl, rfl⟩

/-- A successful preparation begins a span with a new gate, which is as strict as the settings say
and has asked nothing. -/
theorem gate_of_prepare {shape : Shape} (ht : t.call = .prepare shape)
    (hok : (s.outcome t).result = .ok ()) :
    (s.perform t).plugin.control.shape ≠ none ∧
      (s.perform t).plugin.gate = .new s.plugin.control.settings.rtStrict ∧
      (s.perform t).plugin.probing = (s.perform t).plugin.probe.isSome := by
  obtain ⟨call, catalogue, memory, now⟩ := t
  obtain rfl : call = .prepare shape := ht
  rcases s.plugin.prepare_cases (Turn.host ⟨.prepare shape, catalogue, memory, now⟩)
      { s.bus with now } shape with ⟨error, hr⟩ | ⟨settings, error, _, hr⟩ |
    ⟨vars, r, _, _, _, hs, _⟩
  · rw [outcome, Call.run, hr] at hok
    cases hok
  · rw [outcome, Call.run, hr] at hok
    cases hok
  · have hplugin : (s.perform ⟨.prepare shape, catalogue, memory, now⟩).plugin = _ := hs
    rw [hplugin]
    exact ⟨Option.some_ne_none shape, rfl, rfl⟩

/-- The gate of a span is new until the first cycle, since no other call but a release touches
it. -/
theorem gate_after_quiet {strict : Bool} (hp : s.plugin.control.shape ≠ none)
    (hg : s.plugin.gate = .new strict) (hprobe : s.plugin.probing = s.plugin.probe.isSome)
    {turns : List Turn} (ht : ∀ t ∈ turns, t.call ≠ .process ∧ t.call ≠ .release) :
    (s.after turns).plugin.control.shape ≠ none ∧ (s.after turns).plugin.gate = .new strict ∧
      (s.after turns).plugin.probing = (s.after turns).plugin.probe.isSome := by
  induction turns generalizing s with
  | nil => exact ⟨hp, hg, hprobe⟩
  | cons t turns ih =>
    obtain ⟨hcycle, hrelease⟩ := ht t List.mem_cons_self
    obtain ⟨hshape, hgate, hasked, hprobing⟩ := check_perform hp hcycle hrelease
    refine ih ?_ (hgate.trans hg) ?_ fun u hu => ht u (List.mem_cons_of_mem _ hu)
    · rw [hshape]
      exact hp
    · rw [hprobing, hasked]
      exact hprobe

/-- No call but a release helps a refused bridge: cycles repeat the error, and the others do not
touch the gate. -/
theorem isRefused_perform {error : BridgeError} (hs : s.plugin.IsRefused error)
    (hrelease : t.call ≠ .release) : (s.perform t).plugin.IsRefused error := by
  by_cases hcycle : t.call = .process
  · have hsame : (s.perform t).plugin = s.plugin := by
      simp only [perform, outcome, Call.run, hcycle, hs.process]
    rw [hsame]
    exact hs
  · obtain ⟨hshape, hgate, _⟩ := check_perform hs.prepared hcycle hrelease
    obtain ⟨strict, hg⟩ := hs.gate
    exact ⟨hshape ▸ hs.prepared, strict, hgate.trans hg⟩

/-- A bridge that was refused stays refused with the same error until it is released, whatever else
is called. -/
theorem isRefused_after {error : BridgeError} (hs : s.plugin.IsRefused error)
    {turns : List Turn} (ht : ∀ t ∈ turns, t.call ≠ .release) :
    (s.after turns).plugin.IsRefused error := by
  induction turns generalizing s with
  | nil => exact hs
  | cons t turns ih =>
    exact ih (isRefused_perform hs (ht t List.mem_cons_self))
      (fun u hu => ht u (List.mem_cons_of_mem _ hu))

/-- The first cycle of a span that is refused changes nothing but the safety check. -/
theorem refused_first {strict : Bool} (hp : s.plugin.control.shape ≠ none)
    (hg : s.plugin.gate = .new strict) {error : BridgeError}
    (hc : s.plugin.check.1 = .error error) (ht : t.call = .process) :
    (s.outcome t).result = .error error ∧ (s.perform t).plugin.IsRefused error ∧
      (s.perform t).plugin.control = s.plugin.control ∧
      (s.perform t).plugin.current = s.plugin.current ∧
      (s.perform t).bus = { s.bus with now := t.now } := by
  obtain ⟨call, catalogue, memory, now⟩ := t
  obtain rfl : call = .process := ht
  obtain ⟨hverdict, hdecided⟩ := Plugin.check_of_new hg
  have hcycle := s.plugin.process_of_error (Turn.host ⟨.process, catalogue, memory, now⟩)
    { s.bus with now } hc
  have hplugin : (s.perform ⟨.process, catalogue, memory, now⟩).plugin = s.plugin.check.2 :=
    congrArg Outcome.state hcycle
  have hcontrol := s.plugin.control_check
  refine ⟨congrArg Outcome.result hcycle, ⟨?_, strict, ?_⟩, ?_, ?_, congrArg Outcome.bus hcycle⟩
  · rw [hplugin, hcontrol]
    exact hp
  · rw [hplugin, hdecided, ← hverdict, hc]
  · rw [hplugin, hcontrol]
  · rw [hplugin]
    exact s.plugin.current_check

/-- In each stretch of admissions between two armings every admission gets the verdict of the
first one, which is an error exactly if the gate is strict and the next answer of the probe is a
failure or tells of a real-time thread; a strict gate asks the probe once, if there is an admission,
and another one never does. Hence, whatever came before a successful preparation, a refusal and a
release included, the check of the new span is made anew at its first cycle; and if it fails, that
cycle and all later ones, with a signal or without one, end with the same error until a release,
whatever is asked of the controlling side, and leave the controlling side with the slot, the
current registry, the log and the open streams as they are, for all variables alike. -/
theorem check_is_made_once_for_each_span :
    (∀ (strict : Bool) (probe : Probe) (before : List Guard.Request) (n : Nat),
      (before = [] ∨ ∃ earlier, before = earlier ++ [.rearm]) →
      let g := (Guard.start strict probe).after before
      let first := Gate.verdictNow strict g.probe
      g.verdicts n = List.replicate n first ∧
        (g.after (List.replicate n .check)).probe.calls =
          g.probe.calls + (if strict = true ∧ n ≠ 0 then 1 else 0) ∧
        ((∃ error, first = .error error) ↔
          strict = true ∧ ((∃ error, g.probe.answer g.probe.calls = .error error) ∨
            ∃ policy, g.probe.answer g.probe.calls = .ok policy ∧ policy.isRealTime = true))) ∧
    (∀ (s : Session) (t₀ : Turn) (shape : Shape) (quiet : List Turn),
      t₀.call = .prepare shape → (s.outcome t₀).result = .ok () →
      (∀ u ∈ quiet, u.call ≠ .process ∧ u.call ≠ .release) →
      let waiting := (s.perform t₀).after quiet
      waiting.plugin.check.1 = Gate.verdictNow s.plugin.control.settings.rtStrict
          (waiting.plugin.probe.getD waiting.plugin.thread) ∧
        ∀ (error : BridgeError) (t : Turn), waiting.plugin.check.1 = .error error →
          t.call = .process →
          let refused := waiting.perform t
          (waiting.outcome t).result = .error error ∧
            refused.plugin.control = waiting.plugin.control ∧
            refused.plugin.current = waiting.plugin.current ∧
            refused.bus = { waiting.bus with now := t.now } ∧
            ∀ later : List Turn, (∀ u ∈ later, u.call ≠ .release) →
              let p := (refused.after later).plugin
              ∀ (h : Host) (bus : Bus),
                p.process h bus = ⟨.error error, p, bus⟩ ∧
                ∀ (α : Type) (signal : α), p.processSignal h signal bus =
                  ⟨.error error, p, bus⟩) := by
  constructor
  · intro strict probe before n hbefore g first
    obtain ⟨hverdicts, hcalls⟩ := Guard.admits_of_new (Guard.gate_of_stretch hbefore) n
    exact ⟨hverdicts, hcalls, Gate.verdictNow_eq_error_iff strict g.probe⟩
  · intro s t₀ shape quiet ht₀ hok hquiet waiting
    obtain ⟨hshape₀, hgate₀, hprobe₀⟩ := gate_of_prepare ht₀ hok
    obtain ⟨hshape, hgate, hprobe⟩ := gate_after_quiet hshape₀ hgate₀ hprobe₀ hquiet
    have hasked : waiting.plugin.gateProbe = waiting.plugin.probe.getD waiting.plugin.thread := by
      rw [Plugin.gateProbe, hprobe]
      cases waiting.plugin.probe <;> rfl
    constructor
    · rw [(Plugin.check_of_new hgate).1, hasked]
    · intro error t hc ht refused
      obtain ⟨hresult, hrefused, hcontrol, hcurrent, hbus⟩ := refused_first hshape hgate hc ht
      refine ⟨hresult, hcontrol, hcurrent, hbus, ?_⟩
      intro later hlater p h bus
      have hcycle := (isRefused_after hrefused hlater).process h bus
      exact ⟨hcycle, fun α signal => Plugin.processSignal_of_error hcycle signal⟩

/-- A strict bridge is refused on a real-time thread, also after a change of a parameter has built
a new registry, and accepted on an ordinary thread after it was released and prepared again. -/
theorem check_of_moved_thread :
    let space := Space.empty.insert "level" (.int32 [7])
    let probe := Probe.ofAnswers [.ok .fifo, .ok (.other 0)]
    let turn := fun call => Turn.mk call (.ofSpace space) space.memory .epoch
    let s := start ⟨["level"], "desk", true, true, 0⟩ (some probe) .ordinary 4
    let prepare := turn (.prepare ⟨.ofNat 1000, 10⟩)
    let waiting := (s.perform prepare).after [turn (.setSkip 1)]
    let refused := waiting.perform (turn .process)
    let later := [turn (.setSkip 2), turn (.setActivate false)]
    let again := (refused.after later).perform (turn .release)
    let error := BridgeError.realTimeSafety "SCHED_FIFO"
    (s.outcome prepare).result = .ok () ∧ waiting.plugin.check.1 = .error error ∧
      (refused.after later).plugin.control.hasPending = true ∧
      ((refused.after later).outcome (turn .process)).result = .error error ∧
      (again.outcome prepare).result = .ok () ∧
      (again.perform prepare).plugin.check.1 = .ok () ∧
      (Guard.start true probe).verdicts 3 = List.replicate 3 (.error error) := by
  intro space probe turn s prepare waiting refused later again error
  have hok : (s.outcome prepare).result = .ok () := by
    unfold s prepare turn space
    decide +kernel
  have hfails : waiting.plugin.check.1 = .error error := by
    unfold waiting s prepare turn space probe error
    decide +kernel
  have hpending : (refused.after later).plugin.control.hasPending = true := by
    unfold refused waiting later s prepare turn space probe
    decide +kernel
  have hagain : (again.outcome prepare).result = .ok () := by
    unfold again refused waiting later s prepare turn space probe
    decide +kernel
  obtain ⟨hgates, hspans⟩ := check_is_made_once_for_each_span
  have hquiet : ∀ u ∈ [turn (.setSkip 1)], u.call ≠ .process ∧ u.call ≠ .release := by
    simp [turn]
  have hlater : ∀ u ∈ later, u.call ≠ .release := by simp [later, turn]
  obtain ⟨_, hrefused⟩ := hspans s prepare _ [turn (.setSkip 1)] rfl hok hquiet
  obtain ⟨_, _, _, _, hall⟩ := hrefused error (turn .process) hfails rfl
  have hnone : ∀ u ∈ ([] : List Turn), u.call ≠ .process ∧ u.call ≠ .release := by simp
  obtain ⟨hfresh, _⟩ := hspans again prepare _ [] rfl hagain hnone
  refine ⟨hok, hfails, hpending, ?_, hagain, ?_, ?_⟩
  · have hcycle := (hall later hlater (turn .process).host
      { (refused.after later).bus with now := .epoch }).1
    exact congrArg Outcome.result hcycle
  · rw [after, List.foldl_nil] at hfresh
    rw [hfresh]
    unfold again refused waiting later s prepare turn space probe
    decide +kernel
  · exact (hgates true probe [] 3 (.inl rfl)).1

end Session

end VariableBridge
