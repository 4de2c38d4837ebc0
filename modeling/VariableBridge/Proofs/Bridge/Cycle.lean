import VariableBridge.Proofs.Bridge.Reconciling

/-!
# Cycles of a registry

A cycle is a pass over the adapters and then, if the throttle says so, one sample
of each. Main statements: names, context and skip interval of a registry never
change; a cycle handles only the outlets of its registry; the messages of a cycle
are those of the replaced streams and then no sample or one of each adapter.
-/

namespace VariableBridge

open Space (Memory)

/-- Replacing streams sends no sample: what is put on the bus are announcements and the ends of
streams. -/
@[simp] theorem framesIn_replacements (h : Host) (before after : List (String × Adapter)) :
    framesIn (replacements h before after) = [] := by
  apply List.filterMap_eq_nil_iff.mpr
  intro m hm
  obtain ⟨q, _, hq⟩ := List.mem_flatMap.mp hm
  rcases List.mem_cons.mp hq with rfl | hq
  · rfl
  · rw [List.mem_singleton.mp hq]
    rfl

/-- A sample does not change which stream an adapter has, so a cycle that sends replaces what its
pass has replaced. -/
theorem replacements_map_sent (h : Host) (before after : List (String × Adapter)) :
    replacements h before (after.map fun entry => (entry.1, entry.2.sent)) =
      replacements h before after := by
  unfold replacements
  rw [List.zip_map_right, List.filter_map, List.flatMap_map]
  rfl

namespace Registry

variable (r : Registry) (h : Host) (bus : Bus)

/-- A cycle ends with its pass if that fails: it has the same error, and neither ticks nor sends. -/
theorem process_of_reconcile_error {error : BridgeError}
    (hr : (r.reconcile h bus).result = .error error) :
    r.process h bus = ⟨.error error, (r.reconcile h bus).state, (r.reconcile h bus).bus⟩ := by
  simp only [process, hr]

/-- A cycle whose pass succeeds ticks, and sends one sample of each variable exactly if the tick
says so. -/
theorem process_of_reconcile_ok (hr : (r.reconcile h bus).result = .ok ()) :
    let ready := (r.reconcile h bus).state
    let ticked := { ready with throttle := ready.throttle.tick.2 }
    r.process h bus =
      if ready.throttle.tick.1 then
        ⟨.ok true, (ticked.sendAll h.memory (r.reconcile h bus).bus).1,
          (ticked.sendAll h.memory (r.reconcile h bus).bus).2⟩
      else ⟨.ok false, ticked, (r.reconcile h bus).bus⟩ := by
  simp only [process, hr]

/-- Everything that a cycle may do: fail with its pass, skip after it, or send after it. -/
theorem process_cases :
    let pass := reconcileEach h r.context r.adapters bus
    let cycle := r.process h bus
    (∃ error, pass.failure = some error ∧ cycle.result = .error error ∧
        cycle.state = (r.reconcile h bus).state ∧ cycle.bus = pass.bus) ∨
      (pass.failure = none ∧ r.throttle.tick.1 = false ∧ cycle.result = .ok false ∧
        cycle.state = { (r.reconcile h bus).state with throttle := r.throttle.tick.2 } ∧
        cycle.bus = pass.bus) ∨
      (pass.failure = none ∧ r.throttle.tick.1 = true ∧ cycle.result = .ok true ∧
        cycle.state = { (r.reconcile h bus).state with
          adapters := pass.adapters.map fun entry => (entry.1, entry.2.sent)
          throttle := r.throttle.tick.2
          stats := { (r.reconcile h bus).state.stats with sends := r.stats.sends + 1 } } ∧
        cycle.bus = (sendEach h.memory pass.adapters pass.bus).2) := by
  intro pass cycle
  cases hf : pass.failure with
  | some error =>
    left
    have hr : (r.reconcile h bus).result = .error error := by
      simp only [reconcile, pass] at hf ⊢
      rw [hf]
    have hcycle : cycle = _ := r.process_of_reconcile_error h bus hr
    rw [hcycle]
    exact ⟨error, rfl, rfl, rfl, rfl⟩
  | none =>
    right
    have hr : (r.reconcile h bus).result = .ok () := by
      simp only [reconcile, pass] at hf ⊢
      rw [hf]
    have hthrottle : (r.reconcile h bus).state.throttle = r.throttle := rfl
    have hcycle : cycle = _ := r.process_of_reconcile_ok h bus hr
    rw [hcycle, hthrottle]
    cases ht : r.throttle.tick.1 with
    | false => exact .inl ⟨rfl, rfl, rfl, rfl, rfl⟩
    | true =>
      right
      refine ⟨rfl, rfl, rfl, ?_, rfl⟩
      simp only [if_true, sendAll, sendEach_fst]
      rfl

/-- A cycle keeps the rate and the source that all streams of the registry have in common. -/
theorem context_process : (r.process h bus).state.context = r.context := by
  rcases r.process_cases h bus with ⟨_, _, _, hs, _⟩ | ⟨_, _, _, hs, _⟩ | ⟨_, _, _, hs, _⟩ <;>
    rw [hs] <;> rfl

/-- A cycle counts towards the skip and never changes it. Only building another registry does. -/
theorem skip_process : (r.process h bus).state.skip = r.skip := by
  rcases r.process_cases h bus with ⟨_, _, _, hs, _⟩ | ⟨_, _, _, hs, _⟩ | ⟨_, _, _, hs, _⟩ <;>
    rw [hs]
  · rfl
  · exact Throttle.skip_tick r.throttle
  · exact Throttle.skip_tick r.throttle

/-- Reconciling may make other adapters, but each of them stays under the name it was made for. -/
theorem names_reconcile : (r.reconcile h bus).state.names = r.names :=
  reconcileEach_names h r.context r.adapters bus

/-- Sending takes the next sequence number of each stream and leaves the names as they are. -/
theorem names_sendAll (m : Memory) : (r.sendAll m bus).1.names = r.names := by
  simp only [sendAll, names, sendEach_fst, List.map_map]
  rfl

/-- No cycle adds or loses a name: variables that change get other streams, and those that vanish
make the cycle fail. -/
theorem names_process : (r.process h bus).state.names = r.names := by
  have hp := reconcileEach_names h r.context r.adapters bus
  rcases r.process_cases h bus with ⟨_, _, _, hs, _⟩ | ⟨_, _, _, hs, _⟩ | ⟨_, _, _, hs, _⟩
  · rw [hs]
    exact hp
  · rw [hs]
    exact hp
  · rw [hs]
    change List.map _ (List.map _ _) = _
    rw [List.map_map]
    exact hp

variable {r}

/-- Reconciling keeps a registry sound, also if it stops at a variable that cannot be sent. -/
theorem isSound_reconcile (hr : r.IsSound) : (r.reconcile h bus).state.IsSound := by
  refine ⟨?_, reconcileEach_bound h r.context bus hr.bound⟩
  rw [names_reconcile]
  exact hr.ordered

/-- Sending changes nothing but the numbers of the next samples. -/
theorem isSound_sendAll (hr : r.IsSound) (m : Memory) : (r.sendAll m bus).1.IsSound := by
  refine ⟨by rw [names_sendAll]; exact hr.ordered, ?_⟩
  simp only [sendAll, sendEach_fst]
  intro entry he
  obtain ⟨before, hbefore, rfl⟩ := List.mem_map.mp he
  exact ⟨(hr.bound before hbefore).info, (hr.bound before hbefore).openable⟩

/-- A cycle keeps a registry sound, whether it fails, skips or sends. So every registry in use is
sound. -/
theorem isSound_process (hr : r.IsSound) : (r.process h bus).state.IsSound := by
  have hp := reconcileEach_bound h r.context bus hr.bound
  refine ⟨by rw [names_process]; exact hr.ordered, ?_⟩
  rw [context_process]
  rcases r.process_cases h bus with ⟨_, _, _, hs, _⟩ | ⟨_, _, _, hs, _⟩ | ⟨_, _, _, hs, _⟩
  · rw [hs]
    exact hp
  · rw [hs]
    exact hp
  · rw [hs]
    intro entry he
    obtain ⟨before, hb, rfl⟩ := List.mem_map.mp he
    exact ⟨(hp before hb).info, (hp before hb).openable⟩

/-- A cycle handles the outlets of its registry and keeps every name carried. -/
theorem process_handling (kept : List String) (hr : r.IsSound) :
    Handling kept r.outlets bus (r.process h bus).state.outlets (r.process h bus).bus := by
  have hp := reconcileEach_handling h r.context kept bus hr.bound
  rcases r.process_cases h bus with ⟨_, _, _, hs, hb⟩ | ⟨_, _, _, hs, hb⟩ | ⟨_, _, _, hs, hb⟩
  · rw [hs, hb]
    exact hp
  · rw [hs, hb]
    exact hp
  · have hsend := sendEach_handling h.memory kept
      (reconcileEach h r.context r.adapters bus).adapters
      (reconcileEach h r.context r.adapters bus).bus
    rw [sendEach_fst] at hsend
    rw [hs, hb]
    exact hp.trans hsend

/-- A cycle that sends replaces the streams that no longer fit and then sends one sample of
each adapter. -/
theorem process_sends (hs : (r.process h bus).result = .ok true) :
    ∃ (ready : List (String × Adapter)) (now : Time.Instant), (r.process h bus).state.adapters =
        ready.map (fun entry => (entry.1, entry.2.sent)) ∧
      (r.process h bus).bus.log.toList = bus.log.toList ++
        replacements h r.adapters (r.process h bus).state.adapters ++
        (ready.map fun entry => entry.2.frame h.memory now).map .sample := by
  rcases r.process_cases h bus with ⟨_, _, hr, _⟩ | ⟨_, _, hr, _⟩ | ⟨hf, _, _, hstate, hbus⟩
  · simp [hr] at hs
  · simp [hr] at hs
  · refine ⟨(reconcileEach h r.context r.adapters bus).adapters,
      (reconcileEach h r.context r.adapters bus).bus.now, by rw [hstate], ?_⟩
    rw [hstate, hbus, sendEach_log, reconcileEach_log h r.context hf, replacements_map_sent]

/-- A cycle that skips replaces the streams that no longer fit, like one that sends, and puts no
more on the bus. -/
theorem process_skips (hs : (r.process h bus).result = .ok false) :
    (r.process h bus).bus.log.toList =
      bus.log.toList ++ replacements h r.adapters (r.process h bus).state.adapters := by
  rcases r.process_cases h bus with ⟨_, _, hr, _⟩ | ⟨hf, _, _, hstate, hbus⟩ | ⟨_, _, hr, _⟩
  · simp [hr] at hs
  · rw [hstate, hbus]
    exact reconcileEach_log h r.context hf
  · simp [hr] at hs

/-- A cycle that fails replaces streams in front of the name that it stops at. -/
theorem process_fails {error : BridgeError} (hs : (r.process h bus).result = .error error) :
    ∃ front stopped rest after bus', r.adapters = front ++ stopped :: rest ∧
      reconcileOne h r.context stopped.1 stopped.2 bus' = .error error ∧
      (r.process h bus).state.adapters = after ++ stopped :: rest ∧
      front.map Prod.fst = after.map Prod.fst ∧
      (r.process h bus).bus.log.toList = bus.log.toList ++ replacements h front after := by
  rcases r.process_cases h bus with ⟨_, hf, hr, hstate, hbus⟩ | ⟨_, _, hr, _⟩ | ⟨_, _, hr, _⟩
  · obtain rfl := Except.error.inj (hr.symm.trans hs)
    obtain ⟨front, stopped, rest, hsplit, hnone, hstop, ha, hb⟩ :=
      reconcileEach_failing h r.context hf
    refine ⟨front, stopped, rest, _, _, hsplit, hstop, ?_,
      (reconcileEach_names h r.context front bus).symm, ?_⟩
    · rw [hstate]
      exact ha
    · rw [hbus, hb]
      exact reconcileEach_log h r.context hnone
  · simp [hr] at hs
  · simp [hr] at hs

/-- The samples of a cycle are none, or one of each adapter in the order of the names. -/
theorem process_samples (hr : r.IsSound) :
    ∃ published, (r.process h bus).bus.log.toList = bus.log.toList ++ published ∧
      (framesIn published = [] ∨
        (framesIn published).map (fun frame => (frame.name, frame.id)) =
          (r.process h bus).state.adapters.map fun entry => (entry.1, entry.2.outlet.id)) := by
  cases hs : (r.process h bus).result with
  | error error =>
    obtain ⟨front, stopped, rest, after, _, _, _, _, _, hlog⟩ := process_fails h bus hs
    exact ⟨_, hlog, .inl (framesIn_replacements h front after)⟩
  | ok sends =>
    cases sends with
    | false => exact ⟨_, process_skips h bus hs, .inl (framesIn_replacements h _ _)⟩
    | true =>
      obtain ⟨ready, now, hready, hlog⟩ := process_sends h bus hs
      rw [List.append_assoc] at hlog
      refine ⟨_, hlog, .inr ?_⟩
      have hbound := (isSound_process h bus hr).bound
      rw [framesIn_append, framesIn_replacements, List.nil_append, framesIn_map_sample, hready,
        List.map_map, List.map_map]
      apply List.map_congr_left
      intro entry he
      have hname := (hbound (entry.1, entry.2.sent)
        (by rw [hready]; exact List.mem_map_of_mem he)).name_eq
      exact congrArg (fun name => (name, entry.2.outlet.id)) hname

/-- After a cycle without failure every adapter shows the live variable. -/
theorem process_shows {sends : Bool} (hs : (r.process h bus).result = .ok sends) :
    ∀ entry ∈ (r.process h bus).state.adapters,
      ∃ live, h.catalogue.resolve entry.1 = .ok live ∧ entry.2.Shows live := by
  rcases r.process_cases h bus with ⟨_, _, hr, _⟩ | ⟨hf, _, _, hstate, _⟩ | ⟨hf, _, _, hstate, _⟩
  · simp [hr] at hs
  · rw [hstate]
    exact reconcileEach_shows h r.context hf
  · rw [hstate]
    intro entry he
    obtain ⟨before, hb, rfl⟩ := List.mem_map.mp he
    obtain ⟨live, hlive, hshows⟩ := reconcileEach_shows h r.context hf before hb
    exact ⟨live, hlive, hshows.tag, hshows.channels, hshows.address⟩

/-- A cycle over variables that can be found and sent does not fail, provided the outlets refuse
none of their streams. -/
theorem process_succeeds (hr : r.IsSound) (href : ∀ info, h.refusal info = none)
    (hlive : ∀ x ∈ r.names, ∃ live layout, h.catalogue.resolve x = .ok live ∧
      Layout.ofTag live.tag = some layout) :
    ∃ sends, (r.process h bus).result = .ok sends := by
  have hf := reconcileEach_succeeds h r.context bus hr.bound href fun entry he =>
    hlive entry.1 (List.mem_map_of_mem he)
  rcases r.process_cases h bus with ⟨_, hfails, _⟩ | ⟨_, _, hok, _⟩ | ⟨_, _, hok, _⟩
  · rw [hf] at hfails
    cases hfails
  · exact ⟨_, hok⟩
  · exact ⟨_, hok⟩

end Registry

end VariableBridge
