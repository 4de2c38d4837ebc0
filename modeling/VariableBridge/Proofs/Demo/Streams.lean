import VariableBridge.Proofs.Bridge.LiveData
import VariableBridge.Proofs.Bridge.Rejection
import VariableBridge.Proofs.Bridge.Schedule
import VariableBridge.Proofs.Demo.Variables

/-!
# The streams of the simulated host

A plan says which variables of the simulated host a bridge sends, and from it follow the
streams, the samples and the registry after any number of cycles. Main statements: a
registry that is built opens the streams of its plan; a cycle of the host and of the
registry sends the samples of the plan, if any are due, and follows the spectrum.
-/

namespace VariableBridge.Demo

open Number (Double)
open Space (Descriptor reportedCount sizeLimit)

namespace Variable

/-- How a variable is sent. -/
def layout : Variable → Layout
  | .frame => .int32
  | .gain => .float64
  | .level => .float32
  | .spectrum => .complex

/-- The values of a variable after a cycle of the host. -/
def valuesAt (bins cycle : Nat) : Variable → SampleValues
  | .frame => .int32 [frameNumber cycle]
  | .gain => .float64 [Double.ofNat 1]
  | .level => .float32 (levels cycle)
  | .spectrum => .float32 ((Demo.spectrum bins cycle).flatMap fun z => [z.re, z.im])

/-- What a variable looks like in a space. -/
def descriptorIn (bins : Nat) (s : Space) (v : Variable) : Descriptor :=
  ⟨v.kind.tag, reportedCount (v.size bins), v.addressIn s⟩

/-- No variable of the host has an empty name, so that each of them can be listed and monitored. -/
theorem name_ne_empty (v : Variable) : v.name ≠ "" := by
  cases v <;> decide

/-- Every variable of the host has a type that can be sent, and is sent in the layout of its
type. -/
theorem ofTag_kind (v : Variable) : Layout.ofTag v.kind.tag = some v.layout := by
  cases v <;> rfl

/-- What is sent of a variable after a cycle is its content after this cycle, as the values of a
sample. -/
theorem sampleValues_contentAt (bins cycle : Nat) (v : Variable) :
    (v.contentAt bins cycle).sampleValues = some (v.valuesAt bins cycle) := by
  cases v <;> rfl

end Variable

/-- All variables of the host can be found, with the descriptors that the plan knows. -/
theorem IsSteady.resolve {bins : Nat} {s : Space} (h : IsSteady bins s) (v : Variable) :
    (Catalogue.ofSpace s).resolve v.name = .ok (v.descriptorIn bins s) :=
  Catalogue.resolve_ofSpace (Space.lookup_eq_ok_iff.mpr ⟨h.housed.valid, _, h.entry v, rfl⟩)

/-- What a bridge over the simulated host has to send. -/
structure Plan where
  /-- Bins of the spectrum. -/
  bins : Nat
  /-- Cycles between two new buffers of the spectrum. -/
  reallocEvery : Nat
  /-- The variables to send. -/
  chosen : List Variable
  /-- What the streams have in common. -/
  context : StreamContext
  /-- Cycles that are skipped after each one that sends. -/
  skip : UInt32
  /-- The time that samples are stamped with. -/
  now : Time.Instant
  /-- The bins can be counted. -/
  small : bins < sizeLimit
  /-- The names ascend. -/
  ordered : chosen.Pairwise fun v w => v.name < w.name
  /-- A bus accepts the rate. -/
  acceptable : context.rate.isFiniteNonneg = true

namespace Plan

variable (P : Plan)

/-- Metadata of the stream of a variable. -/
def info (v : Variable) : StreamInfo :=
  streamInfo v.name v.layout (reportedCount (v.size P.bins)) P.context

/-- The variables with the numbers of their streams. -/
def streams : List (Variable × Nat) := P.chosen.zipIdx

/-- The adapter of a stream over a space, when it has sent so many samples. -/
def adapter (s : Space) (sent : Nat) (stream : Variable × Nat) : String × Adapter :=
  (stream.1.name, ⟨⟨⟨stream.2⟩, P.info stream.1, sent⟩, stream.1.addressIn s,
    reportedCount (stream.1.size P.bins), stream.1.layout⟩)

/-- The message that opens a stream. -/
def opening (stream : Variable × Nat) : BusMessage := .opened ⟨stream.2⟩ (P.info stream.1)

/-- The sample with a number of a stream: it shows the cycle that as many rounds have reached. -/
def sample (number : Nat) (stream : Variable × Nat) : BusMessage :=
  .sample ⟨⟨stream.2⟩, stream.1.name, number, P.now,
    stream.1.valuesAt P.bins (number * (P.skip.toNat + 1))⟩

/-- The message that closes a stream. -/
def closing (stream : Variable × Nat) : BusMessage := .closed ⟨stream.2⟩ stream.1.name

/-- How many of so many cycles send: every round of cycles that has begun. -/
def sends (cycles : Nat) : Nat := (cycles + P.skip.toNat) / (P.skip.toNat + 1)

/-- How often the spectrum is followed in so many cycles, of which the first keeps it. -/
def moves (cycles : Nat) : Nat :=
  if .spectrum ∈ P.chosen ∧ 0 < P.bins ∧ 0 < P.reallocEvery then
    (cycles - 1) / P.reallocEvery
  else 0

/-- Everything that the streams publish until so many of their samples are sent. -/
def published (sends : Nat) : List BusMessage :=
  P.streams.map P.opening ++ (List.range sends).flatMap fun number =>
    P.streams.map (P.sample number)

/-- The registry over a space after so many cycles. -/
def registry (s : Space) (cycles : Nat) (t : Throttle) : Registry :=
  ⟨P.streams.map (P.adapter s (P.sends cycles)), P.context, t,
    ⟨cycles, P.moves cycles, 0, P.sends cycles⟩⟩

/-- One more cycle sends if it begins a round, that is, if the number of cycles before it is
divisible by the length of a round. -/
theorem sends_succ (c : Nat) :
    P.sends (c + 1) = P.sends c + if P.skip.toNat + 1 ∣ c then 1 else 0 :=
  ceilDiv_succ c P.skip.toNat

/-- A cycle that sends has as many whole rounds before it as samples were sent. -/
theorem sends_mul {c : Nat} (h : P.skip.toNat + 1 ∣ c) : P.sends c * (P.skip.toNat + 1) = c := by
  obtain ⟨rounds, rfl⟩ := h
  unfold sends
  rw [Nat.mul_add_div (Nat.succ_pos _), Nat.div_eq_of_lt (Nat.lt_succ_self _), Nat.add_zero,
    Nat.mul_comm]

/-- One more cycle follows the spectrum if it is monitored, has bins, and got a new buffer in this
cycle. -/
theorem moves_succ {p : Pipeline} (hp : p.reallocEvery = P.reallocEvery) (c : Nat) :
    P.moves (c + 1) = P.moves c +
      if .spectrum ∈ P.chosen ∧ p.reallocates c = true ∧ 0 < P.bins then 1 else 0 := by
  unfold moves
  by_cases h : .spectrum ∈ P.chosen ∧ 0 < P.bins ∧ 0 < P.reallocEvery
  · obtain ⟨hmem, hbins, hevery⟩ := h
    have hmoves : p.reallocates c = true ↔ 0 < c ∧ P.reallocEvery ∣ c := by
      simp [Pipeline.reallocates, hp, hevery, Nat.dvd_iff_mod_eq_zero]
    simp only [hmoves, hmem, hbins, hevery, true_and, and_true, if_true, Nat.add_sub_cancel]
    cases c with
    | zero => simp
    | succ c =>
      rw [Nat.succ_div]
      simp
  · rw [if_neg h, if_neg h, if_neg]
    rintro ⟨hmem, hmoves, hbins⟩
    refine h ⟨hmem, hbins, ?_⟩
    simp only [Pipeline.reallocates, Bool.and_eq_true, decide_eq_true_eq] at hmoves
    omega

/-- One more round of samples comes to the end of what the streams have published. -/
theorem published_succ (m : Nat) :
    P.published (m + 1) = P.published m ++ P.streams.map (P.sample m) := by
  simp [published, List.range_succ]

variable {P} {s s' : Space}

/-- The adapter of a stream fits its variable wherever that lies. -/
theorem fits_adapter (sent : Nat) (stream : Variable × Nat) :
    (P.adapter s sent stream).2.fits (stream.1.descriptorIn P.bins s') = true := by
  have htag : stream.1.layout.tag = stream.1.kind.tag :=
    Layout.ofTag_eq_some_iff.mp stream.1.ofTag_kind
  refine Adapter.fits_iff.mpr ⟨htag, ?_⟩
  change Layout.channels _ _ = Descriptor.channels _
  rw [Layout.channels, htag]
  rfl

/-- A visit follows the variable if it has moved and keeps the adapter otherwise. It never opens a
stream. -/
theorem reconcileOne_eq (h : IsSteady P.bins s') (sent : Nat) (stream : Variable × Nat)
    (bus : Bus) :
    reconcileOne (.ofSpace s') P.context stream.1.name (P.adapter s sent stream).2 bus =
      .ok ⟨if stream.1.addressIn s' ≠ stream.1.addressIn s then .repoint else .keep,
        (P.adapter s' sent stream).2, bus⟩ := by
  have hfits : (P.adapter s sent stream).2.fits (stream.1.descriptorIn P.bins s') = true :=
    fits_adapter sent stream
  have hresolve : (Host.ofSpace s').catalogue.resolve stream.1.name =
      .ok (stream.1.descriptorIn P.bins s') := h.resolve stream.1
  have hplan : planFor (P.adapter s sent stream).2 (stream.1.descriptorIn P.bins s') =
      if stream.1.addressIn s' ≠ stream.1.addressIn s then .repoint else .keep := by
    simp only [planFor, hfits, Bool.not_true, Bool.false_eq_true, if_false, ite_not]
    exact if_congr eq_comm rfl rfl
  simp only [reconcileOne, hresolve, hplan]
  by_cases hsame : stream.1.addressIn s' = stream.1.addressIn s
  · simp only [hsame, ne_eq, not_true_eq_false, if_false, adapter]
  · simp only [hsame, ne_eq, not_false_eq_true, if_true]
    rfl

/-- A pass only follows the variables that have moved, counts them, and leaves the bus alone. -/
theorem reconcileEach_eq (h : IsSteady P.bins s') (sent : Nat) (streams : List (Variable × Nat))
    (bus : Bus) :
    reconcileEach (.ofSpace s') P.context (streams.map (P.adapter s sent)) bus =
      ⟨streams.map (P.adapter s' sent),
        streams.countP fun stream => stream.1.addressIn s' ≠ stream.1.addressIn s, 0, none,
        bus⟩ := by
  induction streams with
  | nil => rfl
  | cons stream rest ih =>
    change reconcileEach (.ofSpace s') P.context
      ((stream.1.name, (P.adapter s sent stream).2) :: rest.map (P.adapter s sent)) bus = _
    rw [reconcileEach]
    simp only [reconcileOne_eq h, ih, List.map_cons, List.countP_cons]
    by_cases hsame : stream.1.addressIn s' = stream.1.addressIn s
    · simp [hsame, adapter]
    · simp [hsame, adapter]

/-- At most one variable moves in a cycle of the host: the spectrum, if it is one of the plan. -/
theorem countP_moved {p p' : Pipeline} {c : Nat} (h : Pipeline.Advanced p p' c)
    (hbins : p.bins = P.bins) :
    (P.streams.countP fun stream =>
        stream.1.addressIn p'.space ≠ stream.1.addressIn p.space) =
      if .spectrum ∈ P.chosen ∧ p.reallocates c = true ∧ 0 < P.bins then 1 else 0 := by
  have hunique : P.chosen.Nodup := by
    refine P.ordered.imp ?_
    rintro v w hlt rfl
    exact String.lt_irrefl v.name hlt
  have hmoved (v : Variable) : v.addressIn p'.space ≠ v.addressIn p.space ↔
      v = .spectrum ∧ p.reallocates c = true ∧ 0 < P.bins := by
    rw [← hbins, Ne, h.address, not_not]
  simp only [hmoved]
  by_cases hmoves : p.reallocates c = true ∧ 0 < P.bins
  · have hcount : (P.streams.countP fun stream => decide (stream.1 = .spectrum)) =
        P.chosen.count .spectrum := by
      calc P.streams.countP (fun stream => decide (stream.1 = .spectrum))
          = (P.streams.map Prod.fst).countP fun v => decide (v = .spectrum) := by
            rw [List.countP_map]
            rfl
        _ = P.chosen.count .spectrum := by
            rw [streams, List.zipIdx_map_fst]
            rfl
    simp only [hmoves, and_true, hcount, hunique.count]
  · simp [hmoves]

/-- The adapter of a stream reads the values of the cycle, if the variable has its content. -/
theorem values_adapter (hs : IsSteady P.bins s) (sent : Nat) (stream : Variable × Nat) {c : Nat}
    (hcontent : s.get? stream.1.name = some (stream.1.contentAt P.bins c)) :
    (P.adapter s sent stream).2.values s.memory = stream.1.valuesAt P.bins c := by
  have hfits : (P.adapter s sent stream).2.fits (stream.1.descriptorIn P.bins s) = true :=
    fits_adapter sent stream
  have hbound : (P.adapter s sent stream).2.IsBound stream.1.name P.context :=
    ⟨rfl, objection_streamInfo_eq_none_iff.mpr ⟨stream.1.name_ne_empty, P.acceptable⟩⟩
  have hshows : (P.adapter s sent stream).2.Shows (stream.1.descriptorIn P.bins s) :=
    ⟨(Adapter.fits_iff.mp hfits).1, (Adapter.fits_iff.mp hfits).2, rfl⟩
  obtain ⟨content, hget, hvalues, _⟩ := hshows.values_eq hbound hs.housed (hs.resolve stream.1)
  obtain rfl : content = _ := Option.some.inj (hget.symm.trans hcontent)
  rw [Variable.sampleValues_contentAt] at hvalues
  exact (Option.some.inj hvalues).symm

/-- A pass after a cycle of the host succeeds, and it follows the spectrum if that has moved. -/
theorem reconcile_registry {p p' : Pipeline} {c : Nat} (h : Pipeline.Advanced p p' c)
    (hbins : p.bins = P.bins) (hevery : p.reallocEvery = P.reallocEvery) (t : Throttle)
    (bus : Bus) :
    let r := P.registry p.space c t
    let pass := reconcileEach (.ofSpace p'.space) r.context r.adapters bus
    pass.failure = none ∧ pass.adapters = P.streams.map (P.adapter p'.space (P.sends c)) ∧
      pass.bus = bus ∧ (r.reconcile (.ofSpace p'.space) bus).state =
        ⟨P.streams.map (P.adapter p'.space (P.sends c)), P.context, t,
          ⟨c + 1, P.moves (c + 1), 0, P.sends c⟩⟩ := by
  intro r pass
  have hsteady : IsSteady P.bins p'.space := hbins ▸ h.steady
  have hpass : pass = ⟨P.streams.map (P.adapter p'.space (P.sends c)),
      if .spectrum ∈ P.chosen ∧ p.reallocates c = true ∧ 0 < P.bins then 1 else 0, 0, none,
      bus⟩ := by
    rw [← countP_moved h hbins]
    exact reconcileEach_eq hsteady (P.sends c) P.streams bus
  refine ⟨congrArg Pass.failure hpass, congrArg Pass.adapters hpass, congrArg Pass.bus hpass, ?_⟩
  change (⟨pass.adapters, P.context, t,
    ⟨c + 1, P.moves c + pass.repoints, 0 + pass.rebuilds, P.sends c⟩⟩ : Registry) = _
  rw [hpass, P.moves_succ hevery]
  rfl

/-- What is sent after a cycle that is due are the next samples of the plan. -/
theorem log_sendEach {c : Nat} (hs : IsSteady P.bins s)
    (hcontent : ∀ v : Variable, s.get? v.name = some (v.contentAt P.bins c))
    (hdue : P.skip.toNat + 1 ∣ c) {bus : Bus} (hnow : bus.now = P.now) :
    (sendEach s.memory (P.streams.map (P.adapter s (P.sends c))) bus).2.log.toList =
      bus.log.toList ++ P.streams.map (P.sample (P.sends c)) := by
  rw [sendEach_log, List.map_map, List.map_map]
  refine congrArg (bus.log.toList ++ ·) (List.map_congr_left fun stream _ => ?_)
  change BusMessage.sample ⟨_, _, _, bus.now, Adapter.values _ s.memory⟩ = _
  rw [values_adapter hs (P.sends c) stream (hcontent stream.1), hnow, sample, P.sends_mul hdue]
  rfl

/-- A cycle of the host and of the registry sends the next samples if they are due, and follows
the spectrum if it has moved. -/
theorem process_registry {p p' : Pipeline} {c : Nat} {t : Throttle} {bus : Bus}
    (h : Pipeline.Advanced p p' c) (hbins : p.bins = P.bins)
    (hevery : p.reallocEvery = P.reallocEvery) (ht : t.InPhase c) (hskip : t.skip = P.skip)
    (hnow : bus.now = P.now) (hlog : bus.log.toList = P.published (P.sends c)) :
    let cycle := (P.registry p.space c t).process (.ofSpace p'.space) bus
    (∃ sent, cycle.result = .ok sent) ∧
      cycle.state = P.registry p'.space (c + 1) t.tick.2 ∧ cycle.bus.now = P.now ∧
      cycle.bus.log.toList = P.published (P.sends (c + 1)) := by
  let r := P.registry p.space c t
  have hdue : t.tick.1 = true ↔ P.skip.toNat + 1 ∣ c := hskip ▸ ht.tick_fst_iff
  obtain ⟨hfailure, hadapters, hkept, hreconciled⟩ := reconcile_registry h hbins hevery t bus
  rcases r.process_cases (.ofSpace p'.space) bus with
    ⟨_, hfails, _⟩ | ⟨_, hrests, hresult, hstate, hbus⟩ | ⟨_, hsends, hresult, hstate, hbus⟩
  · cases hfailure.symm.trans hfails
  · have hdvd : ¬P.skip.toNat + 1 ∣ c := by
      rw [← hdue, Bool.not_eq_true]
      exact hrests
    have hsame : P.sends (c + 1) = P.sends c := by
      rw [P.sends_succ, if_neg hdvd, Nat.add_zero]
    have hbus : (r.process (.ofSpace p'.space) bus).bus = bus := hbus.trans hkept
    rw [hreconciled] at hstate
    refine ⟨⟨_, hresult⟩, ?_, (congrArg Bus.now hbus).trans hnow, ?_⟩
    · rw [hstate, registry, hsame]
      rfl
    · rw [hbus, hsame]
      exact hlog
  · have hdvd := hdue.mp hsends
    have hnext : P.sends (c + 1) = P.sends c + 1 := by
      rw [P.sends_succ, if_pos hdvd]
    rw [hadapters] at hstate
    rw [hadapters, hkept] at hbus
    rw [hreconciled] at hstate
    refine ⟨⟨_, hresult⟩, ?_, ?_, ?_⟩
    · rw [hstate, registry, hnext, List.map_map]
      rfl
    · rw [hbus, sendEach_now]
      exact hnow
    · rw [hbus, hnext, P.published_succ, ← hlog]
      exact log_sendEach (hbins ▸ h.steady) (hbins ▸ h.content) hdvd hnow

/-- Closing the registry closes the streams of the plan in their order, however many cycles there
were. -/
theorem log_close_registry (s : Space) (c : Nat) (t : Throttle) (bus : Bus) :
    ((P.registry s c t).close bus).log.toList = bus.log.toList ++ P.streams.map closing := by
  rw [Registry.close, Bus.log_closeAll, Registry.outlets, List.map_map]
  change _ ++ (P.streams.map (P.adapter s (P.sends c))).map _ = _
  rw [List.map_map]
  rfl

end Plan

end VariableBridge.Demo
