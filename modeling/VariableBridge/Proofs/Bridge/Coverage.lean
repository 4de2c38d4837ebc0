import Mathlib.Data.List.Perm.Subperm
import VariableBridge.Proofs.Bridge.Ownership

/-!
# Variables always have a stream

Streams that replace others are opened before the others are closed. Main
statements: from a preparation to the release each variable has an open stream at
every prefix of the log; and between calls it has two at most, because a pending
registry and a retired one never wait together.
-/

namespace VariableBridge

/-- A registry has at most one stream with a name, because its names ascend and each stream bears
one of them. -/
theorem Registry.IsSound.count_le_one {r : Registry} (hr : r.IsSound) (x : String) :
    (r.outlets.map fun o => o.info.name).count x ≤ 1 := by
  have hnames : (r.outlets.map fun o => o.info.name) = r.names := by
    rw [outlets, names, List.map_map]
    apply List.map_congr_left
    intro entry he
    exact (hr.bound entry he).name_eq
  have hnodup : r.names.Nodup := by
    refine hr.ordered.imp ?_
    rintro y z hlt rfl
    exact String.lt_irrefl y hlt
  rw [hnames]
  exact List.nodup_iff_count_le_one.mp hnodup x

/-- So many registries have at most so many streams with a name. -/
theorem count_outletsOf_le {rs : List Registry} (hs : ∀ r ∈ rs, r.IsSound) (x : String) :
    ((outletsOf rs).map fun o => o.info.name).count x ≤ rs.length := by
  induction rs with
  | nil => exact Nat.le_refl _
  | cons r rs ih =>
    have hfirst := (hs r List.mem_cons_self).count_le_one x
    have hrest := ih fun q hq => hs q (List.mem_cons_of_mem _ hq)
    change ((r.outlets ++ outletsOf rs).map fun o => o.info.name).count x ≤ _
    rw [List.map_append, List.count_append, List.length_cons]
    omega

/-- A running bridge holds two registries at most: one in use and, in the slot, the next or the last
one. -/
theorem Plugin.IsRunning.length_registries_le {p : Plugin} {span : Span} (hp : p.IsRunning span) :
    p.registries.length ≤ 2 := by
  have hcell (o : Option Registry) : o.toList.length ≤ 1 := by
    cases o <;> simp
  have hcurrent := hcell p.current
  have hpending := hcell p.control.slot.pending
  have hretired := hcell p.control.slot.retired
  rw [registries, Slot.values, List.length_append, List.length_append]
  rcases hp.free with he | he
  · rw [he] at hpending ⊢
    simp only [Option.toList_none, List.length_nil]
    omega
  · rw [he] at hretired ⊢
    simp only [Option.toList_none, List.length_nil]
    omega

/-- Streams that are open in the log under one name are not more than the outlets with it. -/
theorem Bus.Holds.length_le_count {b : Bus} {os : List Outlet} (hb : b.Holds os) {x : String}
    {ids : List StreamId} (hn : ids.Nodup)
    (ho : ∀ i ∈ ids, ∃ info, OpenIn b.log.toList i info ∧ info.name = x) :
    ids.length ≤ (os.map fun o => o.info.name).count x := by
  have hsub : ids ⊆ (os.filter fun o => o.info.name == x).map Outlet.id := by
    intro i hi
    obtain ⟨info, hopen, hname⟩ := ho i hi
    obtain ⟨o, hos, rfl, rfl⟩ := hb.openIn_iff.mp hopen
    exact List.mem_map_of_mem (List.mem_filter.mpr ⟨hos, by simpa using hname⟩)
  have hle := (List.subperm_of_subset hn hsub).length_le
  rw [List.length_map, ← List.countP_eq_length_filter] at hle
  rw [List.count, List.countP_map]
  exact hle

namespace Session

/-- Between calls no name has more than two open streams: one of the registry in use and one of the
slot. -/
theorem Agrees.length_open_le_two {s : Session} (ha : s.Agrees)
    (hb : s.bus.Holds s.plugin.held) {x : String} {ids : List StreamId} (hn : ids.Nodup)
    (ho : ∀ i ∈ ids, ∃ info, OpenIn s.bus.log.toList i info ∧ info.name = x) : ids.length ≤ 2 := by
  have hcount := count_outletsOf_le (fun r hr => Plugin.Agrees.isSound_of_mem ha hr) x
  have hregistries : s.plugin.registries.length ≤ 2 := by
    cases hspan : s.span with
    | some span => exact (Plugin.Agrees.running ha span hspan).length_registries_le
    | none =>
      have hidle := Plugin.Agrees.idle ha hspan
      rw [Plugin.registries, hidle.current, hidle.slot]
      exact Nat.zero_le _
  exact Nat.le_trans (hb.length_le_count hn ho) (Nat.le_trans hcount hregistries)

/-- From the end of a successful preparation on, as long as no release is called and whatever
the variable space does: the log only grows, at each of its prefixes from then on each variable
of the settings has an open stream, and between the calls no name has more than two. -/
theorem make_before_break (settings : Settings) (probe : Option Probe) (thread : Probe)
    (capacity : Nat) (before : List Turn) {t : Turn} {shape : Shape} (ht : t.call = .prepare shape)
    (hok : (((start settings probe thread capacity).after before).outcome t).result = .ok ())
    {during : List Turn} (hd : ∀ u ∈ during, u.call ≠ .release) :
    let prepared := ((start settings probe thread capacity).after before).perform t
    let s := prepared.after during
    prepared.bus.log.toList <+: s.bus.log.toList ∧
      (∀ n, prepared.bus.log.size ≤ n → n ≤ s.bus.log.size →
        ∀ x ∈ s.plugin.control.settings.vars,
          ∃ i info, OpenIn (s.bus.log.toList.take n) i info ∧ info.name = x) ∧
      (∀ (x : String) (ids : List StreamId), ids.Nodup →
        (∀ i ∈ ids, ∃ info, OpenIn s.bus.log.toList i info ∧ info.name = x) → ids.length ≤ 2) := by
  intro prepared s
  have hstart := agrees_start settings probe thread capacity
  have ha : prepared.Agrees := (hstart.after before).perform t
  have hb : prepared.bus.Holds prepared.plugin.held := by
    have hbefore := holds_after settings probe thread capacity (before ++ [t])
    rwa [after_append] at hbefore
  obtain ⟨span, hspan⟩ := exists_span_perform ht hok
  obtain ⟨hrun, hspan'⟩ := ha.after_handling hspan hd
  have hs : s.Agrees := ha.after during
  have hcarries : Carries prepared.plugin.held span.vars := by
    have hkept := Plugin.Agrees.carries ha
    rwa [hspan] at hkept
  refine ⟨hrun.log_prefix, ?_, ?_⟩
  · intro n hl hu x hx
    rw [(Plugin.Agrees.running hs span hspan').vars] at hx
    exact hrun.openIn_take hb hcarries hl hu hx
  · intro x ids hn ho
    exact hs.length_open_le_two (hrun.holds hb) hn ho

/-- A level that becomes a complex number has a stream between the opening of its new stream
and the closing of its old one, while a renamed source waits to be collected. -/
theorem make_before_break_of_retyped_level :
    let before := Space.empty.insert "level" (.int32 [7])
    let later := before.insert "level" (.complex [⟨⟨1⟩, ⟨2⟩⟩])
    let prepare : Turn := ⟨.prepare ⟨.ofNat 1000, 10⟩, .ofSpace before, before.memory, .epoch⟩
    let rename : Turn := ⟨.setSourceId "stage", .ofSpace before, before.memory, .epoch⟩
    let process : Turn := ⟨.process, .ofSpace later, later.memory, .epoch⟩
    let bridge := (start ⟨["level"], "desk", false, true, 0⟩ none .ordinary 4).after []
    let s := (bridge.perform prepare).after [rename, process]
    (bridge.outcome prepare).result = .ok () ∧
      (∀ u ∈ [rename, process], u.call ≠ .release) ∧
      ∃ i info, OpenIn (s.bus.log.toList.take 3) i info ∧ info.name = "level" := by
  intro before later prepare rename process bridge s
  have hok : (bridge.outcome prepare).result = .ok () := by
    unfold bridge prepare before
    decide +kernel
  have hd : ∀ u ∈ [rename, process], u.call ≠ .release := by
    simp [rename, process]
  obtain ⟨_, hopen, _⟩ := make_before_break ⟨["level"], "desk", false, true, 0⟩ none .ordinary 4 []
    rfl hok hd
  refine ⟨hok, hd, hopen 3 ?_ ?_ "level" ?_⟩
  · unfold prepare before
    decide +kernel
  · unfold prepare rename process later before
    decide +kernel
  · unfold prepare rename process later before
    decide +kernel

end Session

end VariableBridge
