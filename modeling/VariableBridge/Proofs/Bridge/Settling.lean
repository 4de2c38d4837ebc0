import VariableBridge.Proofs.Bridge.Twins

/-!
# Settling at once

A pass compares what the adapters have cached with what the variables show, and each of the two
counts the channels of a stream in its own way. Main statements: an adapter that was visited shows
its variable, so a second visit keeps it; a visit that fails fails again; hence a second pass over
the same world finds nothing to do in front of the place where the first one stopped, and stops
there with the same error.
-/

namespace VariableBridge

open Space (Descriptor)

variable {h : Host} {name : String} {context : StreamContext} {a : Adapter}

namespace Adapter

/-- An adapter that shows its variable is kept, and the visit leaves the bus alone. -/
theorem Shows.reconcileOne_eq {live : Descriptor} (hs : a.Shows live)
    (hr : h.catalogue.resolve name = .ok live) (bus : Bus) :
    reconcileOne h context name a bus = .ok ⟨.keep, a, bus⟩ := by
  have hfits : a.fits live = true := fits_iff.mpr ⟨hs.tag, hs.channels⟩
  have hplan : planFor a live = .keep := by
    unfold planFor
    rw [hfits, if_neg (by decide), if_pos hs.address]
  unfold reconcileOne
  simp only [hr, hplan]

/-- A second visit finds nothing to do, whatever happened on the bus between the two. -/
theorem reconcileOne_again {bus : Bus} {visit : Visit}
    (hv : reconcileOne h context name a bus = .ok visit) (bus' : Bus) :
    reconcileOne h context name visit.adapter bus' = .ok ⟨.keep, visit.adapter, bus'⟩ := by
  obtain ⟨live, hr, hshows⟩ := shows_of_reconcileOne hv
  exact hshows.reconcileOne_eq hr bus'

/-- Whether a visit fails, and why, does not hang on the bus: it fails by the look-up, the type or a
refusal. -/
theorem reconcileOne_error_of_error {bus : Bus} {error : BridgeError}
    (hv : reconcileOne h context name a bus = .error error) (bus' : Bus) :
    reconcileOne h context name a bus' = .error error := by
  unfold reconcileOne at hv ⊢
  cases hr : h.catalogue.resolve name with
  | error missing =>
    simp only [hr] at hv ⊢
    cases missing <;> exact hv
  | ok live =>
    simp only [hr] at hv ⊢
    cases hp : planFor a live with
    | keep => simp [hp] at hv
    | repoint => simp [hp] at hv
    | rebuild =>
      rcases create_cases h name live context with ⟨refused, he⟩ | ⟨layout, hm⟩
      · simp only [hp, he] at hv ⊢
        exact hv
      · simp [hp, hm] at hv

end Adapter

/-- A second pass over the same world keeps every adapter and ends where the first one did. -/
theorem reconcileEach_again (h : Host) (context : StreamContext) (l : List (String × Adapter))
    (bus bus' : Bus) :
    reconcileEach h context (reconcileEach h context l bus).adapters bus' =
      ⟨(reconcileEach h context l bus).adapters, 0, 0, (reconcileEach h context l bus).failure,
        bus'⟩ := by
  induction l generalizing bus with
  | nil => rfl
  | cons entry rest ih =>
    obtain ⟨name, a⟩ := entry
    cases hv : reconcileOne h context name a bus with
    | error error =>
      rw [reconcileEach_stop h context hv]
      exact reconcileEach_stop h context (Adapter.reconcileOne_error_of_error hv bus')
    | ok visit =>
      obtain ⟨hadapters, hfailure, _⟩ := reconcileEach_cons h context rest hv
      rw [hadapters, hfailure, reconcileEach]
      simp only [Adapter.reconcileOne_again hv bus', ih visit.bus]
      rfl

namespace Registry

/-- Whatever the registry has gone through, whatever the variables, their memory and the refusals of
the world are, and whatever others have done on the bus in between: a second reconciliation answers
like the first one, with the same error if there was one, leaves the bus as it finds it, so that
nothing is published, and changes nothing in the registry but the number of passes. -/
theorem reconciliation_settles_at_once (r : Registry) (h : Host) (bus later : Bus) :
    let first := r.reconcile h bus
    first.state.reconcile h later =
      ⟨first.result,
        { first.state with
          stats := { first.state.stats with cycles := first.state.stats.cycles + 1 } },
        later⟩ := by
  intro first
  have hpass := reconcileEach_again h r.context r.adapters bus later
  have hcontext : first.state.context = r.context := rfl
  have hadapters : first.state.adapters = (reconcileEach h r.context r.adapters bus).adapters := rfl
  rw [reconcile, hcontext, hadapters, hpass]
  rfl

end Registry

end VariableBridge
