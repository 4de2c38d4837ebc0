import VariableBridge.Proofs.Bridge.Building

/-!
# Reconciling registries

A pass visits the adapters in the order of their names. Main statements: after a
pass without failure every adapter shows the live variable; a stream is replaced
exactly if its type or its number of channels no longer fits, and the new one is
opened right before the old one is closed; names, context and skip interval stay;
a failing pass is a pass without failure over the names in front.
-/

namespace VariableBridge

open Space (Descriptor Memory)

/-- Does the variable no longer fit the stream of the adapter? -/
def Host.misfits (h : Host) (name : String) (a : Adapter) : Bool :=
  match h.catalogue.resolve name with
  | .ok live => !a.fits live
  | .error _ => false

/-- The messages of a stream that is replaced by another one. -/
def replacement (old new : Outlet) : List BusMessage :=
  [.opened new.id new.info, .closed old.id old.info.name]

/-- The messages of all streams that no longer fit, in the order of the names. -/
def replacements (h : Host) (before after : List (String × Adapter)) : List BusMessage :=
  ((before.zip after).filter fun q => h.misfits q.1.1 q.1.2).flatMap fun q =>
    replacement q.1.2.outlet q.2.2.outlet

namespace Adapter

variable {h : Host} {name : String} {context : StreamContext} {a : Adapter} {bus : Bus}
  {visit : Visit}

/-- An adapter fits a variable if type and number of channels agree. The number of elements is not
compared. -/
theorem fits_iff {d : Descriptor} : a.fits d = true ↔ a.tag = d.tag ∧ a.channels = d.channels := by
  simp [fits]

/-- Everything that a visit may do: keep an adapter, move it to another address, or replace it with
its stream. -/
theorem of_reconcileOne (hv : reconcileOne h context name a bus = .ok visit) :
    ∃ live, h.catalogue.resolve name = .ok live ∧
      ((a.fits live = true ∧ a.address = live.address ∧ visit = ⟨.keep, a, bus⟩) ∨
        (a.fits live = true ∧ a.address ≠ live.address ∧
          visit = ⟨.repoint, a.setAddress live.address, bus⟩) ∨
        (a.fits live = false ∧ ∃ built bus', create h name live context bus = .ok (built, bus') ∧
          visit = ⟨.rebuild, built, bus'.close a.outlet⟩)) := by
  unfold reconcileOne at hv
  cases hr : h.catalogue.resolve name with
  | error error => cases error <;> simp [hr] at hv
  | ok live =>
    refine ⟨live, rfl, ?_⟩
    simp only [hr, planFor] at hv
    cases hf : a.fits live with
    | false =>
      right
      right
      cases hc : create h name live context bus with
      | error error => simp [hf, hc] at hv
      | ok made =>
        simp only [hf, hc, Bool.not_false, if_true, Except.ok.injEq] at hv
        exact ⟨rfl, made.1, made.2, rfl, hv.symm⟩
    | true =>
      by_cases ha : a.address = live.address
      · left
        simp only [hf, ha, Bool.not_true, Bool.false_eq_true, if_false, if_true,
          Except.ok.injEq] at hv
        exact ⟨rfl, ha, hv.symm⟩
      · right
        left
        simp only [hf, ha, Bool.not_true, Bool.false_eq_true, if_false, Except.ok.injEq] at hv
        exact ⟨rfl, ha, hv.symm⟩

/-- After a visit the adapter shows the live variable in type, channels and address, whatever was
done. -/
theorem shows_of_reconcileOne (hv : reconcileOne h context name a bus = .ok visit) :
    ∃ live, h.catalogue.resolve name = .ok live ∧ visit.adapter.Shows live := by
  obtain ⟨live, hr, hcases⟩ := of_reconcileOne hv
  refine ⟨live, hr, ?_⟩
  rcases hcases with ⟨hf, ha, rfl⟩ | ⟨hf, _, rfl⟩ | ⟨_, built, bus', hc, rfl⟩
  · exact ⟨(fits_iff.mp hf).1, (fits_iff.mp hf).2, ha⟩
  · exact ⟨(fits_iff.mp hf).1, (fits_iff.mp hf).2, rfl⟩
  · exact shows_of_create hc

/-- A visit leaves an adapter that is bound to the same name, whether it was kept, moved to another
address or made anew. -/
theorem isBound_of_reconcileOne (hv : reconcileOne h context name a bus = .ok visit)
    (hb : a.IsBound name context) : visit.adapter.IsBound name context := by
  obtain ⟨live, _, hcases⟩ := of_reconcileOne hv
  rcases hcases with ⟨_, _, rfl⟩ | ⟨_, _, rfl⟩ | ⟨_, built, bus', hc, rfl⟩
  · exact hb
  · exact ⟨hb.info, hb.openable⟩
  · obtain ⟨_, _, _, hbound, _, _⟩ := of_create hc
    exact hbound

/-- A visit keeps the name of the stream carried: the new stream is opened first. -/
theorem reconcileOne_handling (kept : List String)
    (hv : reconcileOne h context name a bus = .ok visit) (hb : a.IsBound name context) :
    Handling kept [a.outlet] bus [visit.adapter.outlet] visit.bus := by
  obtain ⟨live, _, hcases⟩ := of_reconcileOne hv
  rcases hcases with ⟨_, _, rfl⟩ | ⟨_, _, rfl⟩ | ⟨_, built, bus', hc, rfl⟩
  · exact .idle
  · exact .idle
  · obtain ⟨_, _, _, hbound, ho, hbus⟩ := of_create hc
    have hopen : Handling kept [a.outlet] bus [a.outlet, built.outlet] bus' := by
      rw [hbus]
      refine (Handling.idle.step (.opened [a.outlet] bus built.outlet.info)).perm ?_
      rw [← ho]
      exact List.Perm.swap _ _ _
    refine hopen.step (.closed a.outlet [built.outlet] bus' ?_)
    intro _
    exact ⟨built.outlet, List.mem_singleton_self _, hbound.name_eq.trans hb.name_eq.symm⟩

/-- A visit publishes nothing, or the two messages of a replaced stream. -/
theorem reconcileOne_log (hv : reconcileOne h context name a bus = .ok visit) :
    visit.bus.log.toList = bus.log.toList ++
      if h.misfits name a then replacement a.outlet visit.adapter.outlet else [] := by
  obtain ⟨live, hr, hcases⟩ := of_reconcileOne hv
  have hm : h.misfits name a = !a.fits live := by simp only [Host.misfits, hr]
  rcases hcases with ⟨hf, _, rfl⟩ | ⟨hf, _, rfl⟩ | ⟨hf, built, bus', hc, rfl⟩
  · simp [hm, hf]
  · simp [hm, hf]
  · obtain ⟨_, _, _, _, ho, hbus⟩ := of_create hc
    rw [hm, hf]
    simp only [Bool.not_false, if_true, Bus.log_close, Array.toList_push, replacement]
    rw [hbus, Bus.announce, Bus.log_publish, Array.toList_push, List.append_assoc]
    rw [ho]
    rfl

/-- A variable that can be sent never ends a pass, because its name and the rate were accepted when
it was built. -/
theorem exists_reconcileOne (bus : Bus) {live : Descriptor} {layout : Layout}
    (hr : h.catalogue.resolve name = .ok live) (hl : Layout.ofTag live.tag = some layout)
    (href : ∀ info, h.refusal info = none) (hb : a.IsBound name context) :
    ∃ visit, reconcileOne h context name a bus = .ok visit := by
  unfold reconcileOne
  simp only [hr]
  cases planFor a live with
  | keep => exact ⟨_, rfl⟩
  | repoint => exact ⟨_, rfl⟩
  | rebuild =>
    have ho : Bus.objection (streamInfo name layout live.count context) = none :=
      (objection_streamInfo name layout a.layout live.count a.count context).trans
        (hb.info ▸ hb.openable)
    obtain ⟨built, bus', hc⟩ := exists_create bus hl href ho
    simp only [hc]
    exact ⟨_, rfl⟩

/-- A variable of a type that cannot be sent fits no stream and gets none. -/
theorem reconcileOne_of_unsendable {live : Descriptor} (hr : h.catalogue.resolve name = .ok live)
    (hl : Layout.ofTag live.tag = none) :
    reconcileOne h context name a bus = .error (.unknownType name live.tag) := by
  have hf : a.fits live = false := by
    rw [Bool.eq_false_iff]
    intro hfits
    have ht : a.layout.tag = live.tag := (fits_iff.mp hfits).1
    rw [← ht, Layout.ofTag_tag] at hl
    cases hl
  unfold reconcileOne
  simp only [hr, planFor, hf, Bool.not_false, if_true, create, layoutFor, hl]

/-- The adapter after a sample. -/
def sent (a : Adapter) : Adapter :=
  { a with outlet := { a.outlet with sequence := a.outlet.sequence + 1 } }

/-- The next sample of the adapter. -/
def frame (a : Adapter) (m : Memory) (now : Time.Instant) : SampleFrame :=
  ⟨a.outlet.id, a.outlet.info.name, a.outlet.sequence, now, a.values m⟩

end Adapter

section Pass

variable (h : Host) (context : StreamContext)

/-- A pass over one more adapter, if its visit succeeds, is that visit and then a pass over the
others. -/
theorem reconcileEach_cons {name : String} {a : Adapter} (rest : List (String × Adapter))
    {bus : Bus} {visit : Visit} (hv : reconcileOne h context name a bus = .ok visit) :
    (reconcileEach h context ((name, a) :: rest) bus).adapters =
        (name, visit.adapter) :: (reconcileEach h context rest visit.bus).adapters ∧
      (reconcileEach h context ((name, a) :: rest) bus).failure =
        (reconcileEach h context rest visit.bus).failure ∧
      (reconcileEach h context ((name, a) :: rest) bus).bus =
        (reconcileEach h context rest visit.bus).bus := by
  rw [reconcileEach]
  simp only [hv, and_self]

/-- A pass ends at the first visit that fails and leaves this adapter and all behind it as they
were. -/
theorem reconcileEach_stop {name : String} {a : Adapter} {rest : List (String × Adapter)}
    {bus : Bus} {error : BridgeError} (hv : reconcileOne h context name a bus = .error error) :
    reconcileEach h context ((name, a) :: rest) bus =
      ⟨(name, a) :: rest, 0, 0, some error, bus⟩ := by
  rw [reconcileEach]
  simp only [hv]

/-- Reconciling visits the adapters in their order and keeps the name of each, also behind the one
that fails. -/
theorem reconcileEach_names (l : List (String × Adapter)) (bus : Bus) :
    (reconcileEach h context l bus).adapters.map Prod.fst = l.map Prod.fst := by
  induction l generalizing bus with
  | nil => rfl
  | cons entry rest ih =>
    obtain ⟨name, a⟩ := entry
    cases hv : reconcileOne h context name a bus with
    | error error => rw [reconcileEach_stop h context hv]
    | ok visit =>
      rw [(reconcileEach_cons h context rest hv).1, List.map_cons, List.map_cons, ih]

/-- Adapters that are bound to their names are bound to them after reconciling, with the same rate
and source. -/
theorem reconcileEach_bound {l : List (String × Adapter)} (bus : Bus)
    (hb : ∀ entry ∈ l, entry.2.IsBound entry.1 context) :
    ∀ entry ∈ (reconcileEach h context l bus).adapters, entry.2.IsBound entry.1 context := by
  induction l generalizing bus with
  | nil => exact hb
  | cons entry rest ih =>
    obtain ⟨name, a⟩ := entry
    cases hv : reconcileOne h context name a bus with
    | error error =>
      rw [reconcileEach_stop h context hv]
      exact hb
    | ok visit =>
      rw [(reconcileEach_cons h context rest hv).1]
      intro entry he
      rcases List.mem_cons.mp he with rfl | he
      · exact Adapter.isBound_of_reconcileOne hv (hb _ List.mem_cons_self)
      · exact ih visit.bus (fun e hm => hb e (List.mem_cons_of_mem _ hm)) entry he

/-- After a pass without failure every adapter shows the live variable. -/
theorem reconcileEach_shows {l : List (String × Adapter)} {bus : Bus}
    (hf : (reconcileEach h context l bus).failure = none) :
    ∀ entry ∈ (reconcileEach h context l bus).adapters,
      ∃ live, h.catalogue.resolve entry.1 = .ok live ∧ entry.2.Shows live := by
  induction l generalizing bus with
  | nil => simp [reconcileEach]
  | cons entry rest ih =>
    obtain ⟨name, a⟩ := entry
    cases hv : reconcileOne h context name a bus with
    | error error => simp [reconcileEach_stop h context hv] at hf
    | ok visit =>
      obtain ⟨hadapters, hfailure, _⟩ := reconcileEach_cons h context rest hv
      rw [hfailure] at hf
      rw [hadapters]
      intro entry he
      rcases List.mem_cons.mp he with rfl | he
      · exact Adapter.shows_of_reconcileOne hv
      · exact ih hf entry he

/-- A pass holds one outlet for each adapter, and no name is ever without a stream. -/
theorem reconcileEach_handling (kept : List String) {l : List (String × Adapter)} (bus : Bus)
    (hb : ∀ entry ∈ l, entry.2.IsBound entry.1 context) :
    Handling kept (l.map fun entry => entry.2.outlet) bus
      ((reconcileEach h context l bus).adapters.map fun entry => entry.2.outlet)
      (reconcileEach h context l bus).bus := by
  induction l generalizing bus with
  | nil => exact .idle
  | cons entry rest ih =>
    obtain ⟨name, a⟩ := entry
    cases hv : reconcileOne h context name a bus with
    | error error =>
      rw [reconcileEach_stop h context hv]
      exact .idle
    | ok visit =>
      obtain ⟨hadapters, _, hbus⟩ := reconcileEach_cons h context rest hv
      rw [hadapters, hbus]
      have hfirst := (Adapter.reconcileOne_handling kept hv (hb _ List.mem_cons_self)).frame
        (rest.map fun entry => entry.2.outlet)
      have hrest := (ih visit.bus fun e hm => hb e (List.mem_cons_of_mem _ hm)).frame
        [visit.adapter.outlet]
      exact hfirst.trans (hrest.of_perm List.perm_append_comm List.perm_append_comm)

/-- A pass without failure publishes the messages of the replaced streams. -/
theorem reconcileEach_log {l : List (String × Adapter)} {bus : Bus}
    (hf : (reconcileEach h context l bus).failure = none) :
    (reconcileEach h context l bus).bus.log.toList = bus.log.toList ++
      replacements h l (reconcileEach h context l bus).adapters := by
  induction l generalizing bus with
  | nil => simp [reconcileEach, replacements]
  | cons entry rest ih =>
    obtain ⟨name, a⟩ := entry
    cases hv : reconcileOne h context name a bus with
    | error error => simp [reconcileEach_stop h context hv] at hf
    | ok visit =>
      obtain ⟨hadapters, hfailure, hbus⟩ := reconcileEach_cons h context rest hv
      rw [hfailure] at hf
      rw [hadapters, hbus, ih hf, Adapter.reconcileOne_log hv, List.append_assoc]
      congr 1
      unfold replacements
      rw [List.zip_cons_cons, List.filter_cons]
      cases h.misfits name a <;> simp

/-- A failing pass is a pass without failure over the adapters in front of the one that it
stops at. -/
theorem reconcileEach_failing {l : List (String × Adapter)} {bus : Bus} {error : BridgeError}
    (hf : (reconcileEach h context l bus).failure = some error) :
    ∃ front stopped rest, l = front ++ stopped :: rest ∧
      (reconcileEach h context front bus).failure = none ∧
      reconcileOne h context stopped.1 stopped.2 (reconcileEach h context front bus).bus =
        .error error ∧
      (reconcileEach h context l bus).adapters =
        (reconcileEach h context front bus).adapters ++ stopped :: rest ∧
      (reconcileEach h context l bus).bus = (reconcileEach h context front bus).bus := by
  induction l generalizing bus with
  | nil => simp [reconcileEach] at hf
  | cons entry rest ih =>
    obtain ⟨name, a⟩ := entry
    cases hv : reconcileOne h context name a bus with
    | error stopped =>
      rw [reconcileEach_stop h context hv] at hf ⊢
      obtain rfl : stopped = error := Option.some.inj hf
      exact ⟨[], (name, a), rest, rfl, rfl, hv, rfl, rfl⟩
    | ok visit =>
      obtain ⟨hadapters, hfailure, hbus⟩ := reconcileEach_cons h context rest hv
      rw [hfailure] at hf
      obtain ⟨front, stopped, back, rfl, hnone, hstop, ha, hb⟩ := ih hf
      obtain ⟨hadapters', hfailure', hbus'⟩ := reconcileEach_cons h context front hv
      refine ⟨(name, a) :: front, stopped, back, rfl, hfailure'.trans hnone, hbus' ▸ hstop, ?_, ?_⟩
      · rw [hadapters, hadapters', ha, List.cons_append]
      · rw [hbus, hbus', hb]

/-- A pass over variables that can be found and sent does not fail, whatever they have become. -/
theorem reconcileEach_succeeds {l : List (String × Adapter)} (bus : Bus)
    (hb : ∀ entry ∈ l, entry.2.IsBound entry.1 context)
    (href : ∀ info, h.refusal info = none)
    (hr : ∀ entry ∈ l, ∃ live layout, h.catalogue.resolve entry.1 = .ok live ∧
      Layout.ofTag live.tag = some layout) :
    (reconcileEach h context l bus).failure = none := by
  induction l generalizing bus with
  | nil => rfl
  | cons entry rest ih =>
    obtain ⟨name, a⟩ := entry
    obtain ⟨live, layout, hlive, hl⟩ := hr _ List.mem_cons_self
    obtain ⟨visit, hv⟩ := Adapter.exists_reconcileOne bus hlive hl href
      (hb _ List.mem_cons_self)
    rw [(reconcileEach_cons h context rest hv).2.1]
    exact ih visit.bus (fun e hm => hb e (List.mem_cons_of_mem _ hm))
      (fun e hm => hr e (List.mem_cons_of_mem _ hm))

end Pass

section Sending

variable (m : Memory)

/-- Sending counts one sample for each adapter, whatever the memory holds and whether or not the
stream is open. -/
theorem sendEach_fst (l : List (String × Adapter)) (bus : Bus) :
    (sendEach m l bus).1 = l.map fun entry => (entry.1, entry.2.sent) := by
  induction l generalizing bus with
  | nil => rfl
  | cons entry rest ih =>
    obtain ⟨name, a⟩ := entry
    simp only [sendEach, List.map_cons, ih]
    rfl

/-- Sending publishes one sample of each adapter, in the order of the names. -/
theorem sendEach_log (l : List (String × Adapter)) (bus : Bus) :
    (sendEach m l bus).2.log.toList =
      bus.log.toList ++ (l.map fun entry => entry.2.frame m bus.now).map .sample := by
  induction l generalizing bus with
  | nil => simp [sendEach]
  | cons entry rest ih =>
    obtain ⟨name, a⟩ := entry
    simp only [sendEach, List.map_cons, ih, Adapter.send, Bus.log_push, Array.toList_push,
      List.append_assoc, List.singleton_append]
    rfl

/-- Sending takes no time. All samples of a cycle bear the time that the bus shows at its
beginning. -/
theorem sendEach_now (l : List (String × Adapter)) (bus : Bus) :
    (sendEach m l bus).2.now = bus.now := by
  induction l generalizing bus with
  | nil => rfl
  | cons entry rest ih => exact ih _

/-- Sending neither opens nor closes a stream, so it keeps any names and hands the same streams
on. -/
theorem sendEach_handling (kept : List String) (l : List (String × Adapter)) (bus : Bus) :
    Handling kept (l.map fun entry => entry.2.outlet) bus
      ((sendEach m l bus).1.map fun entry => entry.2.outlet) (sendEach m l bus).2 := by
  induction l generalizing bus with
  | nil => exact .idle
  | cons entry rest ih =>
    obtain ⟨name, a⟩ := entry
    have hfirst : Handling kept (a.outlet :: rest.map fun entry => entry.2.outlet) bus
        ((bus.push a.outlet (a.values m)).1 :: rest.map fun entry => entry.2.outlet)
        (bus.push a.outlet (a.values m)).2 := Handling.idle.step (.sent _ _ _ _)
    have hrest := (ih (bus.push a.outlet (a.values m)).2).frame
      [(bus.push a.outlet (a.values m)).1]
    exact hfirst.trans (hrest.of_perm (List.perm_append_singleton _ _).symm
      (List.perm_append_singleton _ _))

end Sending

end VariableBridge
