import VariableBridge.Proofs.Bridge.Rejection
import VariableBridge.Proofs.Bridge.SafetyCheck
import VariableBridge.Proofs.Bridge.Schedule
import VariableBridge.Proofs.Number.Rounding

/-!
# Bridges that are left to run

A new bridge that is prepared over variables that can all be sent, and is then left
alone on a thread that is not real-time, only runs its registry. Main statements: every
valid shape gives streams a rate that a bus accepts; preparing such a bridge installs
the registry of its names; each cycle is a cycle of that registry; and a release closes
its streams.
-/

namespace VariableBridge

open Space (Descriptor)

/-- A valid shape has a rate that is finite and positive, and cycles with samples. -/
theorem Shape.of_validate {shape : Shape} (h : shape.validate = .ok ()) :
    shape.sampleRate.isFinitePositive = true ∧ 1 ≤ shape.fragmentSize.toNat := by
  unfold validate at h
  cases hrate : shape.sampleRate.isFinitePositive with
  | false => simp [hrate] at h
  | true =>
    refine ⟨rfl, ?_⟩
    by_cases hsize : shape.fragmentSize = 0
    · simp [hrate, hsize] at h
    · by_contra hzero
      exact hsize (UInt32.toNat.inj (Nat.eq_zero_of_not_pos hzero))

/-- A valid shape gives streams a rate that is finite and not negative, however many cycles
are skipped. -/
theorem Shape.isFiniteNonneg_streamRate {shape : Shape} (h : shape.validate = .ok ())
    (skip : UInt32) : (shape.streamRate skip).isFiniteNonneg = true := by
  obtain ⟨hrate, hsize⟩ := of_validate h
  obtain ⟨m, e, hdatum⟩ : ∃ m e, shape.sampleRate.datum = .finite false m e := by
    unfold Number.Double.isFinitePositive at hrate
    split at hrate
    next negative m e hdatum =>
      cases negative with
      | false => exact ⟨m, e, hdatum⟩
      | true => cases hrate
    next => cases hrate
  have hfragment := shape.fragmentSize.toNat_lt
  have hskip := skip.toNat_lt
  obtain ⟨m₁, e₁, hcycle⟩ := Number.Double.isNumber_div_ofNat
    (Number.Double.isNumber_of_datum hdatum) hsize (by omega)
  obtain ⟨m₂, e₂, hstream⟩ := Number.Double.isNumber_div_ofNat hcycle
    (n := skip.toNat + 1) (by omega) (by omega)
  exact hstream.isFiniteNonneg

/-- Names of variables that can be sent are all found, in whatever order and however often they are
given. -/
theorem exists_resolveAll {h : Host} {names : List String}
    (hnames : ∀ x ∈ names, ∃ d layout, h.catalogue.resolve x = .ok d ∧
      Layout.ofTag d.tag = some layout) : ∃ found, resolveAll h names = .ok found := by
  induction names using List.reverseRecOn with
  | nil => exact ⟨∅, rfl⟩
  | append_singleton names name ih =>
    obtain ⟨before, hbefore⟩ := ih fun x hx => hnames x (List.mem_append_left _ hx)
    obtain ⟨d, layout, hd, hl⟩ :=
      hnames name (List.mem_append_right _ (List.mem_singleton_self name))
    refine ⟨before.insert name d, ?_⟩
    have hlayout : layoutFor name d = .ok layout := layoutFor_eq_ok_iff.mpr hl
    rw [resolveAll, List.foldlM_append]
    change (resolveAll h names).bind _ = _
    rw [hbefore]
    simp only [Except.bind, List.foldlM_cons, List.foldlM_nil, hd, hlayout]
    rfl

/-- A list of found variables is the one that has exactly the given names, in ascending order. -/
theorem toList_of_resolveAll {h : Host} {names : List String}
    {found : Std.TreeMap String Descriptor} (hf : resolveAll h names = .ok found)
    {ds : List (String × Descriptor)} (hordered : ds.Pairwise fun p q => p.1 < q.1)
    (hmem : ∀ x d, (x, d) ∈ ds ↔ x ∈ names ∧ h.catalogue.resolve x = .ok d) :
    found.toList = ds := by
  have hirrefl {l : List (String × Descriptor)} (hl : l.Pairwise fun p q => p.1 < q.1) :
      l.Nodup := by
    refine hl.imp ?_
    rintro p q hlt rfl
    exact String.lt_irrefl p.1 hlt
  have hfound := pairwise_toList found
  have hperm : found.toList.Perm ds := by
    rw [List.perm_ext_iff_of_nodup (hirrefl hfound) (hirrefl hordered)]
    rintro ⟨x, d⟩
    rw [Std.TreeMap.mem_toList_iff_getElem?_eq_some, getElem?_of_resolveAll hf, hmem]
  refine hperm.eq_of_pairwise ?_ hfound hordered
  intro p q _ _ hpq hqp
  exact absurd (String.lt_trans hpq hqp) (String.lt_irrefl p.1)

namespace Plugin

/-- Does the safety check let the next cycle pass, and then all later ones? -/
def IsAdmitted (p : Plugin) : Prop :=
  ∃ strict, p.gate = .decided strict (.ok ()) ∨
    p.gate = .new strict ∧ Gate.verdictNow strict p.gateProbe = .ok ()

/-- A bridge that is admitted passes the check of every cycle and stays admitted, since the verdict
is remembered. -/
theorem IsAdmitted.check {p : Plugin} (h : p.IsAdmitted) :
    p.check.1 = .ok () ∧ p.check.2.IsAdmitted := by
  obtain ⟨strict, hgate | ⟨hgate, hverdict⟩⟩ := h
  · rw [check_of_decided hgate]
    exact ⟨rfl, strict, .inl hgate⟩
  · obtain ⟨hfirst, hafter⟩ := check_of_new hgate
    rw [hverdict] at hfirst hafter
    exact ⟨hfirst, strict, .inl hafter⟩

/-- Has the bridge nothing to do but to run this registry? -/
structure IsReady (p : Plugin) (r : Registry) : Prop where
  /-- The registry is in use. -/
  current : p.current = some r
  /-- No other waits. -/
  slot : p.control.slot = .empty
  /-- Samples are sent. -/
  active : p.control.active = true
  /-- The thread is not refused. -/
  admitted : p.IsAdmitted

variable {p : Plugin} {r : Registry}

/-- Nothing is taken into use while nothing waits in the slot, so the registry in use stays. -/
theorem adopt_of_empty (h : p.control.slot = .empty) : p.adopt = p := by
  obtain ⟨⟨settings, shape, active, slot⟩, current, gate, probe, thread, probing⟩ := p
  obtain rfl : slot = .empty := h
  rfl

/-- A cycle of a ready bridge is a cycle of its registry: it answers, sends and goes on like that
one. -/
theorem IsReady.process (hp : p.IsReady r) (h : Host) (bus : Bus) :
    (p.process h bus).result = (r.process h bus).result.map (fun _ => ()) ∧
      (p.process h bus).bus = (r.process h bus).bus ∧
      (p.process h bus).state.IsReady (r.process h bus).state := by
  obtain ⟨hpasses, hadmitted⟩ := hp.admitted.check
  have hadopts : p.adopts = false := by
    unfold adopts Slot.poll
    rw [hpasses, hp.slot]
    rfl
  have hinUse : p.inUse = some r := by
    unfold inUse
    rw [hadopts]
    exact hp.current
  have hslot : p.check.2.control.slot = .empty := by
    rw [control_check]
    exact hp.slot
  rw [p.process_of_active h bus hpasses hp.active hinUse, adopt_of_empty hslot]
  refine ⟨rfl, rfl, rfl, hslot, ?_, hadmitted⟩
  rw [control_check]
  exact hp.active

/-- A release of a ready bridge closes the streams of its registry. -/
theorem IsReady.release (hp : p.IsReady r) (bus : Bus) :
    (p.release bus).2 = r.close bus ∧ (p.release bus).1.control.slot = .empty := by
  obtain ⟨⟨settings, shape, active, slot⟩, current, gate, probe, thread, probing⟩ := p
  obtain rfl : slot = .empty := hp.slot
  obtain rfl : current = some r := hp.current
  exact ⟨rfl, rfl⟩

end Plugin

end VariableBridge
