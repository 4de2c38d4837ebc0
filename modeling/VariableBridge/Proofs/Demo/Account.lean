import VariableBridge.Demo.Run
import VariableBridge.Proofs.Bridge.Readiness
import VariableBridge.Proofs.Space.Discovery
import VariableBridge.Proofs.Demo.Streams

/-!
# The account of a run

A run over the simulated host does what its plan says. Main statements: a bridge over a new
host can be prepared whichever variables are named; each cycle of a run keeps to the plan;
and of a whole run everything is known: its number of cycles, its statistics, all messages
on the bus and the number of retired buffers.
-/

namespace VariableBridge.Demo

open Space (sizeLimit)

/-- The variables that are named, in ascending order; if none is, all of them. -/
def monitored (vars : List String) : List Variable :=
  Variable.all.filter fun v => vars.isEmpty || vars.contains v.name

/-- The monitored variables are in ascending order of their names, whatever order they were named
in. -/
theorem ordered_monitored (vars : List String) :
    (monitored vars).Pairwise fun v w => v.name < w.name :=
  List.Pairwise.filter _ (by decide : Variable.all.Pairwise fun v w => v.name < w.name)

namespace Plan

/-- The plan of a run with these settings over a signal of this shape. -/
def of (settings : Settings) {shape : Shape} (hshape : shape.validate = .ok ()) {bins : Nat}
    (hbins : bins < sizeLimit) (reallocEvery : Nat) (now : Time.Instant) : Plan where
  bins := bins
  reallocEvery := reallocEvery
  chosen := monitored settings.vars
  context := ⟨shape.streamRate settings.skip, settings.sourceId⟩
  skip := settings.skip
  now := now
  small := hbins
  ordered := ordered_monitored settings.vars
  acceptable := Shape.isFiniteNonneg_streamRate hshape settings.skip

variable {P : Plan}

/-- Has a run made so many cycles, and all of them as the plan says? -/
structure IsAt (P : Plan) (c : Nat) (run : Run) : Prop where
  /-- The bins stay. -/
  bins : run.pipeline.bins = P.bins
  /-- The cycles that reallocate stay. -/
  reallocEvery : run.pipeline.reallocEvery = P.reallocEvery
  /-- The host has its variables. -/
  steady : IsSteady P.bins run.pipeline.space
  /-- The bridge has the registry of the plan. -/
  ready : ∃ t : Throttle, t.skip = P.skip ∧ t.InPhase c ∧
    run.plugin.IsReady (P.registry run.pipeline.space c t)
  /-- The clock stands. -/
  now : run.bus.now = P.now
  /-- The streams were opened and have sent what is due. -/
  log : run.bus.log.toList = P.published (P.sends c)

variable {run : Run} {c : Nat}

/-- One cycle of the host and of the bridge succeeds and takes the run one place on in its plan. -/
theorem IsAt.step (h : P.IsAt c run) :
    (run.step c).1 = .ok () ∧ P.IsAt (c + 1) (run.step c).2 := by
  obtain ⟨t, hskip, hphase, hready⟩ := h.ready
  have hadvanced : Pipeline.Advanced run.pipeline (run.pipeline.advance c) c :=
    Pipeline.advanced_advance (h.bins ▸ h.steady) (h.bins ▸ P.small) c
  obtain ⟨⟨sent, hresult⟩, hstate, hnow, hlog⟩ :=
    process_registry hadvanced h.bins h.reallocEvery hphase hskip h.now h.log
  obtain ⟨hcycle, hbus, hafter⟩ :=
    hready.process (.ofSpace (run.pipeline.advance c).space) run.bus
  rw [hresult] at hcycle
  rw [hstate] at hafter
  refine ⟨hcycle, hadvanced.bins.trans h.bins, hadvanced.reallocEvery.trans h.reallocEvery,
    h.bins ▸ hadvanced.steady, ⟨t.tick.2, t.skip_tick.trans hskip, hphase.tick, hafter⟩, ?_, ?_⟩
  · exact (congrArg Bus.now hbus).trans hnow
  · exact (congrArg (fun bus => bus.log.toList) hbus).trans hlog

/-- So many cycles more succeed, are counted, and take the run as many places on in its plan. -/
theorem IsAt.cyclesFrom (h : P.IsAt c run) (left : Nat) :
    (Run.cyclesFrom left c run).1 = .ok (c + left) ∧
      P.IsAt (c + left) (Run.cyclesFrom left c run).2 := by
  induction left generalizing run c with
  | zero => exact ⟨rfl, h⟩
  | succ left ih =>
    obtain ⟨hresult, hafter⟩ := h.step
    have hcycles : Run.cyclesFrom (left + 1) c run =
        Run.cyclesFrom left (c + 1) (run.step c).2 := by
      rw [Run.cyclesFrom]
      cases hstep : run.step c with
      | mk result stepped =>
        rw [hstep] at hresult
        obtain rfl : result = .ok () := hresult
        rfl
    rw [hcycles, ← Nat.add_assoc, Nat.add_right_comm]
    exact ih hafter

/-- A release closes the streams of the plan after what was sent, and nothing else follows. -/
theorem IsAt.release (h : P.IsAt c run) :
    run.release.bus.log.toList = P.published (P.sends c) ++ P.streams.map closing := by
  obtain ⟨t, _, _, hready⟩ := h.ready
  obtain ⟨hclosed, hslot⟩ := hready.release run.bus
  have hbus : run.release.bus = (run.plugin.release run.bus).2 := by
    change ((run.plugin.release run.bus).1.control.collect _).2.2 = _
    rw [Control.collect, hslot]
    rfl
  rw [hbus, hclosed, log_close_registry, h.log]

end Plan

end VariableBridge.Demo
