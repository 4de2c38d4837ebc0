import VariableBridge.Proofs.Bridge.Cycle
import VariableBridge.Proofs.Stream.Renaming

/-!
# Twin registries

Two registries are twins if the second one has, for each name that is compared, an
adapter like that of the first one, over a stream that stands for that of the first.
The first may have adapters for more names. Main statements: twins are built by the
same names, a cycle takes twins to twins, answers the same on both sides, and both
publish the same messages of the names that are compared. A cycle that fails may be
told apart by a name that is not compared, so either all names are compared or the
first registry must not fail.
-/

namespace VariableBridge

open Space (Descriptor Memory)

/-- What holds unless all names are compared holds if one is not. -/
theorem of_not_compared {α : Type} {compared : String → Bool} {name : String} {x : α}
    {rest : List (String × α)} (hc : compared name = false) {P : Prop}
    (h : P ∨ ∀ entry ∈ (name, x) :: rest, compared entry.1 = true) : P := by
  refine h.resolve_right ?_
  intro hall
  rw [hall _ List.mem_cons_self] at hc
  cases hc

/-- Adapters that do the same over streams that stand for each other. -/
structure Adapter.Twin (ρ : Renaming) (a a' : Adapter) : Prop where
  /-- The sending ends. -/
  outlet : a.outlet.Twin ρ a'.outlet
  /-- Both read at the same place. -/
  address : a'.address = a.address
  /-- Both read as many elements. -/
  count : a'.count = a.count
  /-- Both make the same values of them. -/
  layout : a'.layout = a.layout

/-- The second list has twins of those adapters of the first whose names are compared. -/
inductive TwinAdapters (compared : String → Bool) (ρ : Renaming) :
    List (String × Adapter) → List (String × Adapter) → Prop where
  /-- No adapters. -/
  | nil : TwinAdapters compared ρ [] []
  /-- Twins with a name that is compared. -/
  | both {name : String} {a a' : Adapter} {rest rest' : List (String × Adapter)}
    (hc : compared name = true) (ha : a.Twin ρ a') (h : TwinAdapters compared ρ rest rest') :
    TwinAdapters compared ρ ((name, a) :: rest) ((name, a') :: rest')
  /-- An adapter with another name. -/
  | alone {name : String} (a : Adapter) {rest rest' : List (String × Adapter)}
    (hc : compared name = false) (h : TwinAdapters compared ρ rest rest') :
    TwinAdapters compared ρ ((name, a) :: rest) rest'

/-- Registries with twin adapters that have counted the same. -/
structure Registry.Twin (compared : String → Bool) (ρ : Renaming) (r r' : Registry) : Prop where
  /-- The adapters of the first are bound to their names. -/
  sound : r.IsSound
  /-- The adapters. -/
  adapters : TwinAdapters compared ρ r.adapters r'.adapters
  /-- The streams have the same in common. -/
  context : r'.context = r.context
  /-- The same cycles send. -/
  throttle : r'.throttle = r.throttle
  /-- There were as many passes. -/
  cycles : r'.stats.cycles = r.stats.cycles
  /-- As many cycles have sent. -/
  sends : r'.stats.sends = r.stats.sends
  /-- If all names are compared, the other counts are the same too. -/
  counts : (∀ x ∈ r.names, compared x = true) → r'.stats = r.stats

variable {compared : String → Bool} {ρ ρ₁ : Renaming} {b b' : Bus} {h : Host}
  {name : String} {d : Descriptor} {context : StreamContext}

namespace Adapter

variable {a a' : Adapter}

/-- Whether a stream is compared hangs on the name that its adapter is bound to. -/
theorem IsBound.compared_eq (hb : a.IsBound name context) (compared : String → Bool) :
    compared a.outlet.info.name = compared name :=
  congrArg compared hb.name_eq

/-- Adapters that do the same under a renaming do so under every renaming that extends it. -/
theorem Twin.mono (ht : a.Twin ρ a') (hs : ρ.pairs ⊆ ρ₁.pairs) : a.Twin ρ₁ a' :=
  ⟨ht.outlet.mono hs, ht.address, ht.count, ht.layout⟩

/-- Twins ask for the same when a variable has changed, since they compare the same type, channels
and address. -/
theorem Twin.planFor_eq (ht : a.Twin ρ a') (live : Descriptor) :
    planFor a' live = planFor a live := by
  have hfits : a'.fits live = a.fits live := by
    unfold fits tag channels
    rw [ht.layout, ht.outlet.info]
  unfold planFor
  rw [hfits, ht.address]

/-- Adapters that do the same read the same values, since they read at one place, as much and in one
layout. -/
theorem Twin.values_eq (ht : a.Twin ρ a') (m : Memory) : a'.values m = a.values m := by
  unfold values
  rw [ht.address, ht.count, ht.layout]

/-- Whether a stream is opened does not hang on the bus, and on each bus it is announced with the
same metadata. -/
theorem create_cases (h : Host) (name : String) (d : Descriptor) (context : StreamContext) :
    (∃ error, ∀ bus, create h name d context bus = .error error) ∨
      ∃ layout, ∀ bus, create h name d context bus =
        .ok (⟨(bus.announce (streamInfo name layout d.count context)).1, d.address, d.count,
          layout⟩, (bus.announce (streamInfo name layout d.count context)).2) := by
  cases hl : layoutFor name d with
  | error error => exact .inl ⟨error, fun bus => by simp only [create, hl]⟩
  | ok layout =>
    cases hr : h.refusal (streamInfo name layout d.count context) with
    | some error => exact .inl ⟨error, fun bus => by simp only [create, hl, Host.openStream, hr]⟩
    | none =>
      cases ho : Bus.objection (streamInfo name layout d.count context) with
      | some error =>
        refine .inl ⟨error, fun bus => ?_⟩
        simp only [create, hl, Host.openStream, hr, Bus.createOutlet, ho]
      | none =>
        refine .inr ⟨layout, fun bus => ?_⟩
        simp only [create, hl, Host.openStream, hr, Bus.createOutlet, ho]

/-- Adapters that are made on two buses are twins under a renaming that knows both new streams, or
both fail. -/
theorem create_twin (h : Host) (d : Descriptor) (context : StreamContext) (hk : ρ.Known b b')
    (hc : compared name = true) :
    (∃ error, create h name d context b = .error error ∧
        create h name d context b' = .error error) ∨
      ∃ a b₁ a' b₁' ρ₁, create h name d context b = .ok (a, b₁) ∧
        create h name d context b' = .ok (a', b₁') ∧ Lockstep compared ρ b b' ρ₁ b₁ b₁' ∧
        a.Twin ρ₁ a' := by
  rcases create_cases h name d context with ⟨error, he⟩ | ⟨layout, hm⟩
  · exact .inl ⟨error, he b, he b'⟩
  · right
    obtain ⟨hopen, houtlet⟩ :=
      Lockstep.announce hk (streamInfo name layout d.count context) hc
    exact ⟨_, _, _, _, _, hm b, hm b', hopen, houtlet, rfl, rfl, rfl⟩

/-- A visit does the same with twins: it fails alike, or takes the same action and leaves twins. -/
theorem Twin.reconcileOne (ht : a.Twin ρ a') (hk : ρ.Known b b') (hc : compared name = true)
    (hb : a.IsBound name context) :
    (∃ error, reconcileOne h context name a b = .error error ∧
        reconcileOne h context name a' b' = .error error) ∨
      ∃ visit visit' ρ₁, reconcileOne h context name a b = .ok visit ∧
        reconcileOne h context name a' b' = .ok visit' ∧ visit'.action = visit.action ∧
        Lockstep compared ρ b b' ρ₁ visit.bus visit'.bus ∧
        visit.adapter.Twin ρ₁ visit'.adapter := by
  unfold VariableBridge.reconcileOne
  cases h.catalogue.resolve name with
  | error error => cases error <;> exact .inl ⟨_, rfl, rfl⟩
  | ok live =>
    simp only [ht.planFor_eq live]
    cases planFor a live with
    | keep => exact .inr ⟨_, _, ρ, rfl, rfl, rfl, .idle hk, ht⟩
    | repoint =>
      have hmoved : (a.setAddress live.address).Twin ρ (a'.setAddress live.address) :=
        ⟨ht.outlet, rfl, ht.count, ht.layout⟩
      exact .inr ⟨_, _, ρ, rfl, rfl, rfl, .idle hk, hmoved⟩
    | rebuild =>
      rcases create_twin h live context hk hc with
        ⟨error, he, he'⟩ | ⟨built, b₁, built', b₁', ρ₁, hbuilt, hbuilt', hopen, hnew⟩
      · simp only [he, he']
        exact .inl ⟨error, rfl, rfl⟩
      · simp only [hbuilt, hbuilt']
        have hclose := Lockstep.close hopen.known (ht.outlet.mono hopen.grows)
          ((hb.compared_eq compared).trans hc)
        exact .inr ⟨_, _, ρ₁, rfl, rfl, rfl, hopen.trans hclose, hnew⟩

/-- A visit with a name that is not compared cannot be seen by one who looks only at the others. -/
theorem reconcileOne_alone {visit : Visit} (hv : reconcileOne h context name a b = .ok visit)
    (hk : ρ.Known b b') (hc : compared name = false) (hb : a.IsBound name context) :
    Lockstep compared ρ b b' ρ visit.bus b' := by
  obtain ⟨live, _, hcases⟩ := of_reconcileOne hv
  rcases hcases with ⟨_, _, rfl⟩ | ⟨_, _, rfl⟩ | ⟨_, built, b₁, hm, rfl⟩
  · exact .idle hk
  · exact .idle hk
  · obtain ⟨_, _, _, hbound, _, hbus⟩ := of_create hm
    have hopen : Lockstep compared ρ b b' ρ b₁ b' := by
      rw [hbus]
      exact Lockstep.announce_alone hk ((hbound.compared_eq compared).trans hc)
    exact hopen.trans (Lockstep.close_alone hopen.known ((hb.compared_eq compared).trans hc))

end Adapter

namespace TwinAdapters

variable {l l' : List (String × Adapter)}

/-- Lists of adapters that match under a renaming match under every renaming that extends it. -/
theorem mono (ht : TwinAdapters compared ρ l l') (hs : ρ.pairs ⊆ ρ₁.pairs) :
    TwinAdapters compared ρ₁ l l' := by
  induction ht with
  | nil => exact .nil
  | both hc ha _ ih => exact .both hc (ha.mono hs) ih
  | alone a hc _ ih => exact .alone a hc ih

/-- A pass does the same with twins if it succeeds or if all names are compared: a failure ends the
rest of a pass. -/
theorem reconcileEach (ht : TwinAdapters compared ρ l l') (hk : ρ.Known b b')
    (hb : ∀ entry ∈ l, entry.2.IsBound entry.1 context)
    (hf : (reconcileEach h context l b).failure = none ∨ ∀ entry ∈ l, compared entry.1 = true) :
    let pass := VariableBridge.reconcileEach h context l b
    let pass' := VariableBridge.reconcileEach h context l' b'
    ∃ ρ₁, Lockstep compared ρ b b' ρ₁ pass.bus pass'.bus ∧
      TwinAdapters compared ρ₁ pass.adapters pass'.adapters ∧ pass'.failure = pass.failure ∧
      ((∀ entry ∈ l, compared entry.1 = true) →
        pass'.repoints = pass.repoints ∧ pass'.rebuilds = pass.rebuilds) := by
  -- the renaming grows with each visit, so the induction is on the list, not on the relation
  induction l generalizing l' ρ b b' with
  | nil =>
    cases ht
    exact ⟨ρ, .idle hk, .nil, rfl, fun _ => ⟨rfl, rfl⟩⟩
  | cons entry rest ih =>
    have hrest : ∀ entry ∈ rest, entry.2.IsBound entry.1 context :=
      fun e he => hb e (List.mem_cons_of_mem _ he)
    cases ht with
    | @both name a a' _ rest' hc ha ht =>
      rcases ha.reconcileOne (h := h) hk hc (hb _ List.mem_cons_self) with ⟨error, he, he'⟩ |
        ⟨visit, visit', ρ₁, hv, hv', haction, hstep, hnew⟩
      · rw [reconcileEach_stop h context he, reconcileEach_stop h context he']
        exact ⟨ρ, .idle hk, .both hc ha ht, rfl, fun _ => ⟨rfl, rfl⟩⟩
      · simp only [VariableBridge.reconcileEach, hv, hv'] at hf ⊢
        have hfrest := hf.imp_right fun hall e he => hall e (List.mem_cons_of_mem _ he)
        obtain ⟨ρ₂, hpass, htwin, hfailure, hcounts⟩ :=
          ih (ht.mono hstep.grows) hstep.known hrest hfrest
        refine ⟨ρ₂, hstep.trans hpass, .both hc (hnew.mono hpass.grows) htwin, hfailure, ?_⟩
        intro hall
        obtain ⟨hrepoints, hrebuilds⟩ := hcounts fun e he => hall e (List.mem_cons_of_mem _ he)
        rw [haction, hrepoints, hrebuilds]
        exact ⟨rfl, rfl⟩
    | @alone name a _ _ hc ht =>
      -- the second pass has no such visit, and the first must not fail there
      have hnone := of_not_compared hc hf
      cases hv : reconcileOne h context name a b with
      | error error => simp [reconcileEach_stop h context hv] at hnone
      | ok visit =>
        have hstep := Adapter.reconcileOne_alone hv hk hc (hb _ List.mem_cons_self)
        obtain ⟨hadapters, hfailure, hbus⟩ := reconcileEach_cons h context rest hv
        rw [hfailure] at hnone
        obtain ⟨ρ₁, hpass, htwin, hsame, _⟩ := ih ht hstep.known hrest (.inl hnone)
        simp only [hadapters, hfailure, hbus]
        exact ⟨ρ₁, hstep.trans hpass, .alone visit.adapter hc htwin, hsame,
          fun hall => of_not_compared hc (.inr hall)⟩

/-- Twins send the same samples of the names that are compared, in the same order. -/
theorem sendEach (ht : TwinAdapters compared ρ l l') (hk : ρ.Known b b')
    (hb : ∀ entry ∈ l, entry.2.IsBound entry.1 context) (m : Memory) :
    Lockstep compared ρ b b' ρ (sendEach m l b).2 (sendEach m l' b').2 ∧
      TwinAdapters compared ρ (l.map fun entry => (entry.1, entry.2.sent))
        (l'.map fun entry => (entry.1, entry.2.sent)) := by
  induction ht generalizing b b' with
  | nil => exact ⟨.idle hk, .nil⟩
  | @both name a a' rest rest' hc ha _ ih =>
    have hname := ((hb _ List.mem_cons_self).compared_eq compared).trans hc
    obtain ⟨hpush, houtlet⟩ := Lockstep.push hk ha.outlet hname (a.values m)
    have hsent : a.sent.Twin ρ a'.sent := ⟨houtlet, ha.address, ha.count, ha.layout⟩
    obtain ⟨hothers, htwin⟩ := ih hpush.known fun e he => hb e (List.mem_cons_of_mem _ he)
    refine ⟨?_, .both hc hsent htwin⟩
    simp only [VariableBridge.sendEach, Adapter.send, ha.values_eq]
    exact hpush.trans hothers
  | @alone name a rest rest' hc _ ih =>
    have hname := ((hb _ List.mem_cons_self).compared_eq compared).trans hc
    have hpush : Lockstep compared ρ b b' ρ (b.push a.outlet (a.values m)).2 b' :=
      Lockstep.push_alone hk hname (a.values m)
    obtain ⟨hothers, htwin⟩ := ih hpush.known fun e he => hb e (List.mem_cons_of_mem _ he)
    exact ⟨hpush.trans hothers, .alone _ hc htwin⟩

/-- The streams of adapters that match are closed in lockstep, and what is closed besides is not
compared. -/
theorem closeAll (ht : TwinAdapters compared ρ l l') (hk : ρ.Known b b')
    (hb : ∀ entry ∈ l, entry.2.IsBound entry.1 context) :
    Lockstep compared ρ b b' ρ (b.closeAll (l.map fun entry => entry.2.outlet))
      (b'.closeAll (l'.map fun entry => entry.2.outlet)) := by
  induction ht generalizing b b' with
  | nil => exact .idle hk
  | @both name a a' rest rest' hc ha _ ih =>
    have hname := ((hb _ List.mem_cons_self).compared_eq compared).trans hc
    have hclose := Lockstep.close hk ha.outlet hname
    exact hclose.trans (ih hclose.known fun e he => hb e (List.mem_cons_of_mem _ he))
  | @alone name a rest rest' hc _ ih =>
    have hname := ((hb _ List.mem_cons_self).compared_eq compared).trans hc
    have hclose : Lockstep compared ρ b b' ρ (b.close a.outlet) b' :=
      Lockstep.close_alone hk hname
    exact hclose.trans (ih hclose.known fun e he => hb e (List.mem_cons_of_mem _ he))

end TwinAdapters

/-- The streams of the compared names are opened in lockstep with all streams. -/
theorem openEach_twin (h : Host) (context : StreamContext) {ds : List (String × Descriptor)}
    (hk : ρ.Known b b')
    (hf : (openEach h context ds b).failure = none ∨ ∀ entry ∈ ds, compared entry.1 = true) :
    let opening := openEach h context ds b
    let opening' := openEach h context (ds.filter fun entry => compared entry.1) b'
    ∃ ρ₁, Lockstep compared ρ b b' ρ₁ opening.bus opening'.bus ∧
      TwinAdapters compared ρ₁ opening.adapters opening'.adapters ∧
      opening'.failure = opening.failure := by
  induction ds generalizing ρ b b' with
  | nil => exact ⟨ρ, .idle hk, .nil, rfl⟩
  | cons entry rest ih =>
    obtain ⟨name, d⟩ := entry
    cases hc : compared name with
    | true =>
      simp only [List.filter_cons, hc, if_true, openEach] at hf ⊢
      rcases Adapter.create_twin h d context hk hc with
        ⟨error, he, he'⟩ | ⟨a, b₁, a', b₁', ρ₁, hmade, hmade', hopen, hnew⟩
      · simp only [he, he']
        exact ⟨ρ, .idle hk, .nil, trivial⟩
      · simp only [hmade, hmade'] at hf ⊢
        have hfrest := hf.imp_right fun hall e he => hall e (List.mem_cons_of_mem _ he)
        obtain ⟨ρ₂, hothers, htwin, hfailure⟩ := ih hopen.known hfrest
        exact ⟨ρ₂, hopen.trans hothers, .both hc (hnew.mono hothers.grows) htwin, hfailure⟩
    | false =>
      have hnone := of_not_compared hc hf
      simp only [List.filter_cons, hc, Bool.false_eq_true, if_false]
      cases hm : Adapter.create h name d context b with
      | error error => simp [openEach, hm] at hnone
      | ok made =>
        simp only [openEach, hm] at hnone ⊢
        obtain ⟨_, _, _, hbound, _, hbus⟩ := Adapter.of_create hm
        have hopen : Lockstep compared ρ b b' ρ made.2 b' := by
          rw [hbus]
          exact Lockstep.announce_alone hk ((hbound.compared_eq compared).trans hc)
        obtain ⟨ρ₁, hothers, htwin, hfailure⟩ := ih hopen.known (.inl hnone)
        exact ⟨ρ₁, hopen.trans hothers, .alone made.1 hc htwin, hfailure⟩

namespace Registry

variable {r r' : Registry}

/-- Registries that do the same under a renaming do so under every renaming that extends it. -/
theorem Twin.mono (ht : r.Twin compared ρ r') (hs : ρ.pairs ⊆ ρ₁.pairs) :
    r.Twin compared ρ₁ r' :=
  ⟨ht.sound, ht.adapters.mono hs, ht.context, ht.throttle, ht.cycles, ht.sends, ht.counts⟩

/-- Builds for the same variables, or for those with compared names, give twins. -/
theorem build_twin (compared : String → Bool) {names names' : List String}
    {found found' : Std.TreeMap String Descriptor} (hf : resolveAll h names = .ok found)
    (hf' : resolveAll h names' = .ok found')
    (hs : found'.toList = found.toList.filter fun entry => compared entry.1)
    (hk : ρ.Known b b') {skip : UInt32}
    (ho : (openEach h context found.toList b).failure = none ∨
      ∀ entry ∈ found.toList, compared entry.1 = true) :
    let made := build h names context skip b
    let made' := build h names' context skip b'
    (∃ error, made.1 = .error error ∧ made'.1 = .error error) ∨
      ∃ r r' ρ₁, made.1 = .ok r ∧ made'.1 = .ok r' ∧ Lockstep compared ρ b b' ρ₁ made.2 made'.2 ∧
        r.Twin compared ρ₁ r' := by
  intro made made'
  obtain ⟨ρ₁, hopen, htwin, hfailure⟩ := openEach_twin h context hk ho
  rw [← hs] at hopen htwin hfailure
  cases hnone : (openEach h context found.toList b).failure with
  | some error =>
    left
    refine ⟨error, ?_, ?_⟩
    · simp only [made, build, hf, hnone]
    · simp only [made', build, hf', hfailure.trans hnone]
  | none =>
    right
    have hmade : made.1 = .ok ⟨(openEach h context found.toList b).adapters, context, .new skip,
        ⟨0, 0, 0, 0⟩⟩ := by
      simp only [made, build, hf, hnone]
    refine ⟨_, ⟨(openEach h context found'.toList b').adapters, context, .new skip,
      ⟨0, 0, 0, 0⟩⟩, ρ₁, hmade, ?_, ?_, ?_⟩
    · simp only [made', build, hf', hfailure.trans hnone]
    · simp only [made, made', build, hf, hf', hnone, hfailure.trans hnone]
      exact hopen
    · exact ⟨isSound_of_build hmade, htwin, rfl, rfl, rfl, rfl, fun _ => rfl⟩

/-- Reconciling takes twins to twins, answers the same and publishes the same. -/
theorem Twin.reconcile (ht : r.Twin compared ρ r') (hk : ρ.Known b b')
    (hf : (r.reconcile h b).result = .ok () ∨ ∀ x ∈ r.names, compared x = true) :
    ∃ ρ₁, Lockstep compared ρ b b' ρ₁ (r.reconcile h b).bus (r'.reconcile h b').bus ∧
      (r.reconcile h b).state.Twin compared ρ₁ (r'.reconcile h b').state ∧
      (r'.reconcile h b').result = (r.reconcile h b).result := by
  have hsound := isSound_reconcile h b ht.sound
  have hnames := r.names_reconcile h b
  have hall : (∀ x ∈ r.names, compared x = true) →
      ∀ entry ∈ r.adapters, compared entry.1 = true :=
    fun hn entry he => hn entry.1 (List.mem_map_of_mem he)
  have hnone : (reconcileEach h r.context r.adapters b).failure = none ∨
      ∀ entry ∈ r.adapters, compared entry.1 = true := by
    refine hf.imp ?_ hall
    intro hok
    cases hfailure : (reconcileEach h r.context r.adapters b).failure with
    | none => rfl
    | some error => simp [Registry.reconcile, hfailure] at hok
  obtain ⟨ρ₁, hpass, htwin, hfailure, hcounts⟩ :=
    ht.adapters.reconcileEach (h := h) hk ht.sound.bound hnone
  have hcycles : r'.stats.cycles + 1 = r.stats.cycles + 1 := congrArg (· + 1) ht.cycles
  simp only [Registry.reconcile, ht.context] at hsound hnames ⊢
  refine ⟨ρ₁, hpass, ⟨hsound, htwin, rfl, ht.throttle, hcycles, ht.sends, ?_⟩, by rw [hfailure]⟩
  intro hn
  rw [hnames] at hn
  obtain ⟨hrepoints, hrebuilds⟩ := hcounts (hall hn)
  simp only [hrepoints, hrebuilds, ht.counts hn]

/-- Registries stay twins when both send, and what they send is the same for the names that are
compared. -/
theorem Twin.sendAll (ht : r.Twin compared ρ r') (hk : ρ.Known b b') (m : Memory) :
    Lockstep compared ρ b b' ρ (r.sendAll m b).2 (r'.sendAll m b').2 ∧
      (r.sendAll m b).1.Twin compared ρ (r'.sendAll m b').1 := by
  obtain ⟨hstep, hsent⟩ := ht.adapters.sendEach hk ht.sound.bound m
  have hnames := r.names_sendAll b m
  have hsends : r'.stats.sends + 1 = r.stats.sends + 1 := congrArg (· + 1) ht.sends
  have hsound := isSound_sendAll b ht.sound m
  simp only [Registry.sendAll, sendEach_fst] at hsound hnames ⊢
  refine ⟨hstep, hsound, hsent, ht.context, ht.throttle, ht.cycles, hsends, ?_⟩
  intro hn
  rw [hnames] at hn
  rw [ht.counts hn]

/-- A cycle takes twins to twins, answers the same and publishes the same. -/
theorem Twin.process (ht : r.Twin compared ρ r') (hk : ρ.Known b b')
    (hf : (∃ sends, (r.process h b).result = .ok sends) ∨ ∀ x ∈ r.names, compared x = true) :
    ∃ ρ₁, Lockstep compared ρ b b' ρ₁ (r.process h b).bus (r'.process h b').bus ∧
      (r.process h b).state.Twin compared ρ₁ (r'.process h b').state ∧
      (r'.process h b').result = (r.process h b).result := by
  have hreconciled : (r.reconcile h b).result = .ok () ∨ ∀ x ∈ r.names, compared x = true := by
    refine hf.imp_left ?_
    rintro ⟨sends, hok⟩
    cases hr : (r.reconcile h b).result with
    | ok done => rfl
    | error error =>
      rw [r.process_of_reconcile_error h b hr] at hok
      cases hok
  obtain ⟨ρ₁, hstep, htwin, hresult⟩ := ht.reconcile hk hreconciled
  cases hr : (r.reconcile h b).result with
  | error error =>
    rw [r.process_of_reconcile_error h b hr, r'.process_of_reconcile_error h b' (hresult.trans hr)]
    exact ⟨ρ₁, hstep, htwin, rfl⟩
  | ok done =>
    rw [r.process_of_reconcile_ok h b hr, r'.process_of_reconcile_ok h b' (hresult.trans hr),
      htwin.throttle]
    let tick := (r.reconcile h b).state.throttle.tick
    have hticked : { (r.reconcile h b).state with throttle := tick.2 : Registry }.Twin compared ρ₁
        { (r'.reconcile h b').state with throttle := tick.2 } :=
      ⟨⟨htwin.sound.ordered, htwin.sound.bound⟩, htwin.adapters, htwin.context, rfl,
        htwin.cycles, htwin.sends, htwin.counts⟩
    cases hsends : (r.reconcile h b).state.throttle.tick.1 with
    | false => exact ⟨ρ₁, hstep, hticked, rfl⟩
    | true =>
      obtain ⟨hsend, hsent⟩ := hticked.sendAll hstep.known h.memory
      exact ⟨ρ₁, hstep.trans hsend, hsent, rfl⟩

/-- Registries that are twins are closed in lockstep: the ends of their streams stand for each
other. -/
theorem Twin.close (ht : r.Twin compared ρ r') (hk : ρ.Known b b') :
    Lockstep compared ρ b b' ρ (r.close b) (r'.close b') :=
  ht.adapters.closeAll hk ht.sound.bound

end Registry

/-- Closing the streams of registries that match, one after the other, keeps the two buses in
step. -/
theorem closeRegistries_twin {rs rs' : List Registry}
    (ht : List.Forall₂ (Registry.Twin compared ρ) rs rs') (hk : ρ.Known b b') :
    Lockstep compared ρ b b' ρ (closeRegistries rs b) (closeRegistries rs' b') := by
  induction ht generalizing b b' with
  | nil => exact .idle hk
  | cons hr _ ih =>
    have hclose := hr.close hk
    exact hclose.trans (ih hclose.known)

end VariableBridge
