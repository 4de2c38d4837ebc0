import VariableBridge.Proofs.Bridge.Construction
import VariableBridge.Proofs.Stream.Connection

/-!
# Identities of streams

A pass comes to the adapters in the order of their names, until it finds a variable that cannot be
sent. Main statements: a pass replaces the stream of an adapter exactly if it meets a variable of
another type or with another number of channels, and it counts the streams that it replaces and the
adapters whose variable only moved; over any history on a bus that is shared with others, the
counts of a registry are the numbers of such meetings, and a stream whose variable keeps its shape
keeps its identity and numbers its samples from zero.
-/

namespace VariableBridge

open Space (Descriptor Memory)

/-- A pass has come to an adapter and has found a variable that can be sent. -/
structure Meeting where
  /-- The name. -/
  name : String
  /-- The adapter as the pass finds it. -/
  adapter : Adapter
  /-- The variable that the name stands for. -/
  live : Descriptor
  deriving DecidableEq, Repr

namespace Meeting

variable {m : Meeting}

/-- Has the variable another type, or another number of channels, than the stream that is open? -/
def Misfits (m : Meeting) : Prop :=
  m.live.tag ≠ m.adapter.tag ∨ m.live.channels ≠ m.adapter.channels

/-- Does only the address differ? -/
def Moved (m : Meeting) : Prop :=
  m.live.tag = m.adapter.tag ∧ m.live.channels = m.adapter.channels ∧
    m.live.address ≠ m.adapter.address

instance (m : Meeting) : Decidable m.Misfits := inferInstanceAs (Decidable (_ ∨ _))

instance (m : Meeting) : Decidable m.Moved := inferInstanceAs (Decidable (_ ∧ _))

/-- A variable does not misfit exactly if the adapter fits it, so that the pass and the meetings
agree on which streams go on. -/
theorem not_misfits_iff : ¬m.Misfits ↔ m.adapter.fits m.live = true := by
  rw [Adapter.fits_iff, Misfits, not_or, not_not, not_not]
  exact and_congr eq_comm eq_comm

/-- A variable has only moved if it does not misfit and lies elsewhere: these are the meetings that
a pass counts as repointed. -/
theorem moved_iff : m.Moved ↔ ¬m.Misfits ∧ m.live.address ≠ m.adapter.address := by
  rw [Misfits, not_or, not_not, not_not, Moved, and_assoc]

end Meeting

namespace Host

variable {h : Host} {name : String} {a : Adapter} {rest : List (String × Adapter)}

/-- The meetings of a pass over adapters: it ends at the first name whose variable is not found or
cannot be sent. -/
def meetings (h : Host) : List (String × Adapter) → List Meeting
  | [] => []
  | (name, a) :: rest =>
    match h.catalogue.resolve name with
    | .error _ => []
    | .ok live =>
      match Layout.ofTag live.tag with
      | none => []
      | some _ => ⟨name, a, live⟩ :: h.meetings rest

/-- The meetings end at a name whose variable is not found, since the pass ends there with the error
of the look-up. -/
theorem meetings_of_error {error : BridgeError} (hr : h.catalogue.resolve name = .error error) :
    h.meetings ((name, a) :: rest) = [] := by
  rw [meetings, hr]

/-- The meetings end at a variable that cannot be sent, since the pass ends there when it asks for
the layout of the type. -/
theorem meetings_of_unsendable {live : Descriptor} (hr : h.catalogue.resolve name = .ok live)
    (hl : Layout.ofTag live.tag = none) : h.meetings ((name, a) :: rest) = [] := by
  rw [meetings, hr]
  simp only [hl]

/-- A variable that is found and can be sent is met, and the meetings go on with the adapters behind
it. -/
theorem meetings_cons {live : Descriptor} {layout : Layout}
    (hr : h.catalogue.resolve name = .ok live) (hl : Layout.ofTag live.tag = some layout) :
    h.meetings ((name, a) :: rest) = ⟨name, a, live⟩ :: h.meetings rest := by
  rw [meetings, hr]
  simp only [hl]

/-- A pass meets a variable that can be sent exactly if all those in front can be sent, too. -/
theorem mem_meetings_iff {l : List (String × Adapter)} {m : Meeting} :
    m ∈ h.meetings l ↔ ∃ front rest layout, l = front ++ (m.name, m.adapter) :: rest ∧
      (∀ entry ∈ front, h.CanSend entry.1) ∧ h.catalogue.resolve m.name = .ok m.live ∧
      Layout.ofTag m.live.tag = some layout := by
  constructor
  · intro hm
    induction l with
    | nil => cases hm
    | cons entry rest ih =>
      obtain ⟨name, a⟩ := entry
      cases hr : h.catalogue.resolve name with
      | error error =>
        rw [meetings_of_error hr] at hm
        cases hm
      | ok live =>
        cases hl : Layout.ofTag live.tag with
        | none =>
          rw [meetings_of_unsendable hr hl] at hm
          cases hm
        | some layout =>
          rw [meetings_cons hr hl] at hm
          rcases List.mem_cons.mp hm with rfl | hm
          · exact ⟨[], rest, layout, rfl, fun _ he => (List.not_mem_nil he).elim, hr, hl⟩
          · obtain ⟨front, back, layout', rfl, hfront, hfound⟩ := ih hm
            refine ⟨(name, a) :: front, back, layout', rfl, ?_, hfound⟩
            exact List.forall_mem_cons.mpr ⟨⟨live, layout, hr, hl⟩, hfront⟩
  · rintro ⟨front, rest, layout, rfl, hfront, hr, hl⟩
    induction front with
    | nil =>
      rw [List.nil_append, meetings_cons hr hl]
      exact List.mem_cons_self
    | cons entry front ih =>
      obtain ⟨⟨live, layout', hr', hl'⟩, hfront⟩ := List.forall_mem_cons.mp hfront
      rw [List.cons_append, meetings_cons hr' hl']
      exact List.mem_cons_of_mem _ (ih hfront)

/-- A pass meets variables of its own adapters only: the name of each meeting is that of one of
them. -/
theorem name_mem_of_meetings {l : List (String × Adapter)} {m : Meeting}
    (hm : m ∈ h.meetings l) : m.name ∈ l.map Prod.fst := by
  obtain ⟨front, rest, _, rfl, _⟩ := mem_meetings_iff.mp hm
  simp

/-- What a pass does at a name: it ends, or it meets a variable and goes on. -/
theorem meetings_cases (href : ∀ info, h.refusal info = none) {context : StreamContext}
    (hb : a.IsBound name context) (rest : List (String × Adapter)) (bus : Bus) :
    (∃ error, h.meetings ((name, a) :: rest) = [] ∧
        reconcileOne h context name a bus = .error error) ∨
      ∃ live visit, h.meetings ((name, a) :: rest) = ⟨name, a, live⟩ :: h.meetings rest ∧
        h.catalogue.resolve name = .ok live ∧
        reconcileOne h context name a bus = .ok visit := by
  cases hr : h.catalogue.resolve name with
  | error error =>
    have hstop : ∃ error, reconcileOne h context name a bus = .error error := by
      unfold reconcileOne
      simp only [hr]
      cases error <;> exact ⟨_, rfl⟩
    obtain ⟨error, hstop⟩ := hstop
    exact .inl ⟨error, meetings_of_error hr, hstop⟩
  | ok live =>
    cases hl : Layout.ofTag live.tag with
    | none =>
      exact .inl ⟨_, meetings_of_unsendable hr hl, Adapter.reconcileOne_of_unsendable hr hl⟩
    | some layout =>
      obtain ⟨visit, hv⟩ := Adapter.exists_reconcileOne bus hr hl href hb
      exact .inr ⟨live, visit, meetings_cons hr hl, rfl, hv⟩

end Host

/-- The second adapter sends on the stream of the first one, and so many samples later. -/
structure Adapter.Continues (sent : ℕ) (a a' : Adapter) : Prop where
  /-- The stream is the same. -/
  outlet : a'.outlet = { a.outlet with sequence := a.outlet.sequence + sent }
  /-- The elements become values in the same way. -/
  layout : a'.layout = a.layout

namespace Adapter.Continues

variable {sent sent' : ℕ} {a a' a'' : Adapter}

/-- An adapter that was left alone goes on with its stream, and has sent nothing on it. -/
theorem refl (a : Adapter) : a.Continues 0 a := ⟨rfl, rfl⟩

/-- Going on twice is going on: the samples that were sent on the one stream are added up. -/
theorem trans (h : a.Continues sent a') (h' : a'.Continues sent' a'') :
    a.Continues (sent + sent') a'' := by
  refine ⟨?_, h'.layout.trans h.layout⟩
  rw [h'.outlet, h.outlet, Nat.add_assoc]

/-- An adapter that goes on has the identity of its stream as before, so that nothing was opened or
closed for it. -/
theorem id_eq (h : a.Continues sent a') : a'.outlet.id = a.outlet.id := by rw [h.outlet]

/-- An adapter that goes on sends the same type as before, since elements become values in the same
way. -/
theorem tag_eq (h : a.Continues sent a') : a'.tag = a.tag := congrArg Layout.tag h.layout

/-- An adapter that goes on has as many channels as before, since the metadata of its stream
stay. -/
theorem channels_eq (h : a.Continues sent a') : a'.channels = a.channels := by
  rw [channels, h.outlet]
  rfl

end Adapter.Continues

/-- What becomes of an adapter with these meetings, when identities from some number on are new and
each stream that goes on sends so many samples. -/
structure Becomes (met : List Meeting) (fresh sent : ℕ) (before after : String × Adapter) :
    Prop where
  /-- The name stays. -/
  name : after.1 = before.1
  /-- The adapter shows the variable that was met. -/
  shows : ∀ live, ⟨before.1, before.2, live⟩ ∈ met → after.2.Shows live
  /-- If no variable was met that misfits, the stream goes on. -/
  kept : (∀ live, ⟨before.1, before.2, live⟩ ∈ met → ¬Meeting.Misfits ⟨before.1, before.2, live⟩) →
    before.2.Continues sent after.2
  /-- If one was met, there is a stream with a new identity. -/
  replaced : ∀ live, ⟨before.1, before.2, live⟩ ∈ met →
    Meeting.Misfits ⟨before.1, before.2, live⟩ → fresh ≤ after.2.outlet.id.number

namespace Becomes

variable {met met' : List Meeting} {fresh fresh' sent : ℕ} {before after : String × Adapter}

/-- Without a meeting nothing becomes of an adapter: it keeps its stream, its address and its
place. -/
theorem of_not_met (entry : String × Adapter) (hn : ∀ live, ⟨entry.1, entry.2, live⟩ ∉ met) :
    Becomes met fresh 0 entry entry :=
  ⟨rfl, fun live hm => (hn live hm).elim, fun _ => .refl _, fun live hm => (hn live hm).elim⟩

/-- Only the meetings with the adapter matter, so meetings of other names can be added or left
out. -/
theorem mono (hb : Becomes met fresh sent before after)
    (hmet : ∀ live, ⟨before.1, before.2, live⟩ ∈ met' ↔ ⟨before.1, before.2, live⟩ ∈ met)
    (hfresh : fresh' ≤ fresh) : Becomes met' fresh' sent before after := by
  refine ⟨hb.name, fun live hm => hb.shows live ((hmet live).mp hm), ?_, ?_⟩
  · intro hfits
    exact hb.kept fun live hm => hfits live ((hmet live).mpr hm)
  · intro live hm hmisfits
    exact Nat.le_trans hfresh (hb.replaced live ((hmet live).mp hm) hmisfits)

/-- The adapter sends one more sample: only the number of its next one changes. -/
theorem send (hb : Becomes met fresh sent before after) :
    Becomes met fresh (sent + 1) before (after.1, after.2.sent) where
  name := hb.name
  shows live hm :=
    ⟨(hb.shows live hm).tag, (hb.shows live hm).channels, (hb.shows live hm).address⟩
  kept hfits := (hb.kept hfits).trans ⟨rfl, rfl⟩
  replaced := hb.replaced

/-- If the stream before was opened before, another one takes its place exactly if a variable was
met that misfits. -/
theorem id_ne_iff (hb : Becomes met fresh sent before after)
    (hlt : before.2.outlet.id.number < fresh) :
    after.2.outlet.id ≠ before.2.outlet.id ↔
      ∃ live, ⟨before.1, before.2, live⟩ ∈ met ∧
        Meeting.Misfits ⟨before.1, before.2, live⟩ := by
  constructor
  · intro hne
    by_contra hnone
    exact hne (hb.kept fun live hm hmisfits => hnone ⟨live, hm, hmisfits⟩).id_eq
  · rintro ⟨live, hm, hmisfits⟩ heq
    have hnew := hb.replaced live hm hmisfits
    rw [heq] at hnew
    exact Nat.not_lt_of_le hnew hlt

end Becomes

section Pass

variable {h : Host} {name : String} {context : StreamContext} {a : Adapter} {bus : Bus}
  {visit : Visit} {live : Descriptor}

namespace Adapter

/-- No visit gives an identity back, so streams that are opened later get identities that no stream
had. -/
theorem nextId_le_of_reconcileOne (hv : reconcileOne h context name a bus = .ok visit) :
    bus.nextId ≤ visit.bus.nextId := by
  obtain ⟨_, _, hcases⟩ := of_reconcileOne hv
  rcases hcases with ⟨_, _, rfl⟩ | ⟨_, _, rfl⟩ | ⟨_, _, _, hc, rfl⟩
  · exact Nat.le_refl _
  · exact Nat.le_refl _
  · obtain ⟨_, _, _, _, _, rfl⟩ := of_create hc
    exact Nat.le_succ _

/-- A visit is counted by what is met: as a move if only the address differs, as a rebuild if the
variable does not fit. -/
theorem action_of_reconcileOne (hv : reconcileOne h context name a bus = .ok visit)
    (hr : h.catalogue.resolve name = .ok live) :
    (visit.action = .repoint ↔ Meeting.Moved ⟨name, a, live⟩) ∧
      (visit.action = .rebuild ↔ Meeting.Misfits ⟨name, a, live⟩) := by
  obtain ⟨live', hr', hcases⟩ := of_reconcileOne hv
  obtain rfl := Except.ok.inj (hr'.symm.trans hr)
  rw [Meeting.moved_iff, Meeting.not_misfits_iff, ← not_iff_not (b := Meeting.Misfits _),
    Meeting.not_misfits_iff]
  rcases hcases with ⟨hf, ha, rfl⟩ | ⟨hf, ha, rfl⟩ | ⟨hf, _, _, _, rfl⟩
  · simp [hf, ha]
  · simp [hf, Ne.symm ha]
  · simp [hf]

/-- What becomes of an adapter that is visited, whatever the visits to adapters of other names have
met. -/
theorem becomes_of_reconcileOne (hv : reconcileOne h context name a bus = .ok visit)
    (hr : h.catalogue.resolve name = .ok live) {others : List Meeting}
    (ho : ∀ m ∈ others, m.name ≠ name) :
    Becomes (⟨name, a, live⟩ :: others) bus.nextId 0 (name, a) (name, visit.adapter) := by
  have hshows : visit.adapter.Shows live := by
    obtain ⟨live', hr', hshows⟩ := shows_of_reconcileOne hv
    exact Except.ok.inj (hr'.symm.trans hr) ▸ hshows
  obtain ⟨live', hr', hcases⟩ := of_reconcileOne hv
  obtain rfl := Except.ok.inj (hr'.symm.trans hr)
  have hmet (other : Descriptor) (hm : ⟨name, a, other⟩ ∈ Meeting.mk name a live' :: others) :
      other = live' := by
    rcases List.mem_cons.mp hm with heq | hm
    · exact congrArg Meeting.live heq
    · exact (ho _ hm rfl).elim
  refine ⟨rfl, fun other hm => hmet other hm ▸ hshows, ?_, ?_⟩
  · intro hfits
    have hfit := Meeting.not_misfits_iff.mp (hfits live' List.mem_cons_self)
    rcases hcases with ⟨_, _, rfl⟩ | ⟨_, _, rfl⟩ | ⟨hmisfits, _⟩
    · exact .refl a
    · exact ⟨rfl, rfl⟩
    · rw [hmisfits] at hfit
      cases hfit
  · intro other hm hmisfits
    obtain rfl := hmet other hm
    have hunfit : ¬a.fits other = true := fun hf => Meeting.not_misfits_iff.mpr hf hmisfits
    rcases hcases with ⟨hf, _⟩ | ⟨hf, _⟩ | ⟨_, built, _, hc, rfl⟩
    · exact (hunfit hf).elim
    · exact (hunfit hf).elim
    · obtain ⟨_, _, _, _, houtlet, _⟩ := of_create hc
      change bus.nextId ≤ built.outlet.id.number
      rw [houtlet]
      exact Nat.le_refl _

end Adapter

/-- What becomes of the adapters in a pass, and what the pass counts. -/
theorem reconcileEach_becomes (href : ∀ info, h.refusal info = none)
    {l : List (String × Adapter)} (hb : ∀ entry ∈ l, entry.2.IsBound entry.1 context)
    (ho : (l.map Prod.fst).Pairwise (· < ·)) (bus : Bus) :
    let pass := reconcileEach h context l bus
    List.Forall₂ (Becomes (h.meetings l) bus.nextId 0) l pass.adapters ∧
      pass.repoints = (h.meetings l).countP (fun m => m.Moved) ∧
      pass.rebuilds = (h.meetings l).countP (fun m => m.Misfits) := by
  induction l generalizing bus with
  | nil => exact ⟨.nil, rfl, rfl⟩
  | cons entry rest ih =>
    obtain ⟨name, a⟩ := entry
    obtain ⟨hfirst, hrest⟩ := List.pairwise_cons.mp ho
    rcases h.meetings_cases href (hb _ List.mem_cons_self) rest bus with
      ⟨error, hmet, hv⟩ | ⟨live, visit, hmet, hr, hv⟩
    · rw [reconcileEach_stop h context hv, hmet]
      exact ⟨List.forall₂_same.mpr fun e _ => .of_not_met e fun _ => List.not_mem_nil, rfl, rfl⟩
    · obtain ⟨hbecomes, hrepoints, hrebuilds⟩ :=
        ih (fun e he => hb e (List.mem_cons_of_mem _ he)) hrest visit.bus
      have hother : ∀ m ∈ h.meetings rest, m.name ≠ name := by
        rintro m hm rfl
        exact String.lt_irrefl _ (hfirst _ (Host.name_mem_of_meetings hm))
      obtain ⟨hmoved, hmisfits⟩ := Adapter.action_of_reconcileOne hv hr
      rw [hmet]
      refine ⟨?_, ?_, ?_⟩
      · rw [(reconcileEach_cons h context rest hv).1]
        refine .cons (Adapter.becomes_of_reconcileOne hv hr hother) ?_
        -- for the names behind, the first meeting is one of another name
        have hnames : ∀ e ∈ rest, e.1 ≠ name := by
          rintro e he rfl
          exact String.lt_irrefl _ (hfirst _ (List.mem_map.mpr ⟨e, he, rfl⟩))
        refine ((List.forall₂_and_left _ _).mpr ⟨hnames, hbecomes⟩).imp ?_
        rintro before after ⟨hne, hbecome⟩
        refine hbecome.mono ?_ (Adapter.nextId_le_of_reconcileOne hv)
        intro other
        rw [List.mem_cons, or_iff_right fun heq => hne (congrArg Meeting.name heq)]
      · simp only [reconcileEach, hv, hrepoints, List.countP_cons, hmoved, decide_eq_true_eq]
      · simp only [reconcileEach, hv, hrebuilds, List.countP_cons, hmisfits, decide_eq_true_eq]

end Pass

namespace Registry

/-- A call takes a registry on: these are its meetings, identities from some number on were new
then, and so many samples are sent on each stream that goes on. -/
structure Proceeds (met : List Meeting) (fresh sent : ℕ) (r r' : Registry) : Prop where
  /-- What becomes of the adapters. -/
  adapters : List.Forall₂ (Becomes met fresh sent) r.adapters r'.adapters
  /-- The samples are counted. -/
  sends : r'.stats.sends = r.stats.sends + sent
  /-- The variables that only moved are counted. -/
  repoints : r'.stats.repoints = r.stats.repoints + met.countP fun m => m.Moved
  /-- The variables that misfit are counted. -/
  rebuilds : r'.stats.rebuilds = r.stats.rebuilds + met.countP fun m => m.Misfits

variable {r : Registry} {h : Host}

/-- Nothing is met when nothing is called, and the registry stays what it is. -/
theorem Proceeds.refl (r : Registry) (fresh : ℕ) : r.Proceeds [] fresh 0 r where
  adapters := List.forall₂_same.mpr fun entry _ => .of_not_met entry fun _ => List.not_mem_nil
  sends := rfl
  repoints := rfl
  rebuilds := rfl

/-- A reconciliation takes the registry on from its meetings and sends nothing, whether it fails or
not. -/
theorem reconcile_proceeds (href : ∀ info, h.refusal info = none) (hr : r.IsSound) (bus : Bus) :
    r.Proceeds (h.meetings r.adapters) bus.nextId 0 (r.reconcile h bus).state := by
  obtain ⟨hadapters, hrepoints, hrebuilds⟩ := reconcileEach_becomes href hr.bound hr.ordered bus
  exact ⟨hadapters, rfl, congrArg _ hrepoints, congrArg _ hrebuilds⟩

/-- A cycle takes the registry on from the meetings of its reconciliation, and may send one sample
of each adapter then. -/
theorem process_proceeds (href : ∀ info, h.refusal info = none) (hr : r.IsSound) (bus : Bus) :
    ∃ sent, r.Proceeds (h.meetings r.adapters) bus.nextId sent (r.process h bus).state := by
  have hpass := reconcile_proceeds href hr bus
  rcases r.process_cases h bus with ⟨_, _, _, hs, _⟩ | ⟨_, _, _, hs, _⟩ | ⟨_, _, _, hs, _⟩
  · rw [hs]
    exact ⟨0, hpass⟩
  · rw [hs]
    exact ⟨0, hpass.adapters, hpass.sends, hpass.repoints, hpass.rebuilds⟩
  · rw [hs]
    refine ⟨1, ?_, rfl, hpass.repoints, hpass.rebuilds⟩
    exact List.forall₂_map_right_iff.mpr (hpass.adapters.imp fun _ _ hb => hb.send)

end Registry

/-- What a registry finds at one call. -/
structure Scene where
  /-- The variables. -/
  catalogue : Catalogue
  /-- Their memory. -/
  memory : Memory
  /-- The time that samples are stamped with. -/
  now : Time.Instant

/-- The bus alone decides which streams are opened. -/
def Scene.host (s : Scene) : Host := .unrestricted s.catalogue s.memory

namespace Registry

/-- A registry on a bus that others send on as well. -/
structure SharedRun where
  /-- The registry. -/
  registry : Registry
  /-- The bus and the outlets of the others. -/
  others : Senders

namespace SharedRun

/-- What can happen on the bus. -/
inductive Event where
  /-- The registry reconciles. -/
  | reconcile (s : Scene)
  /-- The registry runs a cycle. -/
  | process (s : Scene)
  /-- The others do something. -/
  | elsewhere (a : Senders.Action)

/-- Build a registry on a bus of others. -/
def start (s : Scene) (names : List String) (context : StreamContext) (skip : UInt32)
    (others : Senders) : Except BridgeError SharedRun :=
  let bus := { others.bus with now := s.now }
  (build s.host names context skip bus).1.map fun r =>
    ⟨r, { others with bus := (build s.host names context skip bus).2 }⟩

/-- One thing happens. -/
def perform (u : SharedRun) : Event → SharedRun
  | .reconcile s =>
    let call := u.registry.reconcile s.host { u.others.bus with now := s.now }
    ⟨call.state, { u.others with bus := call.bus }⟩
  | .process s =>
    let call := u.registry.process s.host { u.others.bus with now := s.now }
    ⟨call.state, { u.others with bus := call.bus }⟩
  | .elsewhere a => { u with others := u.others.perform a }

/-- One thing happens after the other. -/
def after (u : SharedRun) (events : List Event) : SharedRun := events.foldl perform u

/-- The meetings of the registry when something happens. -/
def meetings (u : SharedRun) : Event → List Meeting
  | .reconcile s => s.host.meetings u.registry.adapters
  | .process s => s.host.meetings u.registry.adapters
  | .elsewhere _ => []

/-- All meetings of the registry in a history. -/
def met (u : SharedRun) : List Event → List Meeting
  | [] => []
  | e :: events => u.meetings e ++ (u.perform e).met events

variable {u : SharedRun}

/-- The registry is sound, and exactly its streams and those of the others are open. -/
structure IsOrderly (u : SharedRun) : Prop where
  /-- Every name has one adapter, which is bound to it. -/
  sound : u.registry.IsSound
  /-- The bus has the streams of the registry and of the others. -/
  holds : u.others.bus.Holds (u.registry.outlets ++ u.others.outlets)

/-- A registry that was built on a bus of others is orderly from the beginning: the streams of both
are open, nothing was counted yet, and no sample was sent. -/
theorem isOrderly_of_start {s : Scene} {names : List String} {context : StreamContext}
    {skip : UInt32} {others : Senders} (hs : start s names context skip others = .ok u)
    (ho : others.bus.Holds others.outlets) :
    u.IsOrderly ∧ u.registry.stats = ⟨0, 0, 0, 0⟩ ∧
      ∀ entry ∈ u.registry.adapters, entry.2.outlet.sequence = 0 := by
  unfold start at hs
  cases hb : (build s.host names context skip { others.bus with now := s.now }).1 with
  | error error => simp [hb, Except.map] at hs
  | ok r =>
    simp only [hb, Except.map, Except.ok.injEq] at hs
    have hnew := isNew_of_build hb
    let made := build s.host names context skip { others.bus with now := s.now }
    have hhandling : Handling [] others.outlets { others.bus with now := s.now }
        (outletsOf made.1.toOption.toList ++ others.outlets) made.2 :=
      build_handling (carries_nil others.outlets)
    rw [show made.1 = .ok r from hb] at hhandling
    have hholds := hhandling.holds (ho.at_time s.now)
    rw [← hs]
    refine ⟨⟨isSound_of_build hb, ?_⟩, hnew.stats, ?_⟩
    · simpa [outletsOf, Except.toOption] using hholds
    · intro entry he
      obtain ⟨_, _, hmade⟩ := hnew.made entry he
      exact hmade.sequence

/-- Whatever happens is a handling of the outlets of the registry and of the others. -/
theorem IsOrderly.perform_handling (hu : u.IsOrderly) (e : Event) :
    Handling [] (u.registry.outlets ++ u.others.outlets) u.others.bus
      ((u.perform e).registry.outlets ++ (u.perform e).others.outlets)
      (u.perform e).others.bus := by
  have htime (s : Scene) : Handling [] u.registry.outlets u.others.bus u.registry.outlets
      { u.others.bus with now := s.now } := .wait .idle s.now
  cases e with
  | reconcile s =>
    have hpass := reconcileEach_handling s.host u.registry.context []
      { u.others.bus with now := s.now } hu.sound.bound
    exact ((htime s).trans hpass).frame u.others.outlets
  | process s =>
    have hcycle := process_handling s.host { u.others.bus with now := s.now } [] hu.sound
    exact ((htime s).trans hcycle).frame u.others.outlets
  | elsewhere a =>
    exact ((u.others.perform_handling a).frame u.registry.outlets).of_perm
      List.perm_append_comm List.perm_append_comm

/-- Whatever happens on the bus, the registry stays sound and its streams stay apart from those of
the others. -/
theorem IsOrderly.perform (hu : u.IsOrderly) (e : Event) : (u.perform e).IsOrderly := by
  refine ⟨?_, (hu.perform_handling e).holds hu.holds⟩
  cases e with
  | reconcile s => exact isSound_reconcile _ _ hu.sound
  | process s => exact isSound_process _ _ hu.sound
  | elsewhere a => exact hu.sound

/-- An orderly registry is orderly after any history, by one event after the other. -/
theorem IsOrderly.after (hu : u.IsOrderly) (events : List Event) : (u.after events).IsOrderly := by
  induction events generalizing u with
  | nil => exact hu
  | cons e events ih => exact ih (hu.perform e)

/-- Whatever happens on the bus, the registry proceeds with its meetings: only its own calls change
it. -/
theorem IsOrderly.proceeds (hu : u.IsOrderly) (e : Event) :
    ∃ sent, u.registry.Proceeds (u.meetings e) u.others.bus.nextId sent
      (u.perform e).registry := by
  cases e with
  | reconcile s =>
    exact ⟨0, reconcile_proceeds (h := s.host) (fun _ => rfl) hu.sound
      { u.others.bus with now := s.now }⟩
  | process s =>
    exact process_proceeds (h := s.host) (fun _ => rfl) hu.sound { u.others.bus with now := s.now }
  | elsewhere a => exact ⟨0, .refl _ _⟩

/-- The registry counts its meetings: one repoint for each move and one rebuild for each misfit of
the whole history. -/
theorem IsOrderly.counts_after (hu : u.IsOrderly) (events : List Event) :
    (u.after events).registry.stats.repoints =
        u.registry.stats.repoints + (u.met events).countP (fun m => m.Moved) ∧
      (u.after events).registry.stats.rebuilds =
        u.registry.stats.rebuilds + (u.met events).countP (fun m => m.Misfits) := by
  induction events generalizing u with
  | nil => exact ⟨rfl, rfl⟩
  | cons e events ih =>
    obtain ⟨_, hcall⟩ := hu.proceeds e
    obtain ⟨hrepoints, hrebuilds⟩ := ih (hu.perform e)
    rw [met, List.countP_append, List.countP_append, ← Nat.add_assoc, ← Nat.add_assoc,
      ← hcall.repoints, ← hcall.rebuilds]
    exact ⟨hrepoints, hrebuilds⟩

/-- The stream of an adapter goes on as long as every variable that is met has its shape. -/
theorem IsOrderly.exists_continues (hu : u.IsOrderly) {x : String} {a : Adapter}
    (ha : (x, a) ∈ u.registry.adapters) {events : List Event}
    (hshape : ∀ m ∈ u.met events, m.name = x →
      m.live.tag = a.tag ∧ m.live.channels = a.channels) :
    ∃ a' sent, (x, a') ∈ (u.after events).registry.adapters ∧ a.Continues sent a' ∧
      (u.after events).registry.stats.sends = u.registry.stats.sends + sent := by
  induction events generalizing u a with
  | nil => exact ⟨a, 0, ha, .refl a, rfl⟩
  | cons e events ih =>
    obtain ⟨sent, hcall⟩ := hu.proceeds e
    obtain ⟨⟨y, a₁⟩, ha₁, hb⟩ := exists_of_forall₂_of_mem hcall.adapters.flip ha
    obtain rfl : y = x := hb.name
    have hcontinues : a.Continues sent a₁ := by
      apply hb.kept
      intro live hm hmisfits
      obtain ⟨htag, hchannels⟩ := hshape _ (List.mem_append_left _ hm) rfl
      exact hmisfits.elim (fun hne => hne htag) fun hne => hne hchannels
    have hshape' : ∀ m ∈ (u.perform e).met events, m.name = y →
        m.live.tag = a₁.tag ∧ m.live.channels = a₁.channels := by
      rw [hcontinues.tag_eq, hcontinues.channels_eq]
      exact fun m hm => hshape m (List.mem_append_right _ hm)
    obtain ⟨a₂, sent', ha₂, hcontinues', hsends⟩ := ih (hu.perform e) ha₁ hshape'
    refine ⟨a₂, sent + sent', ha₂, hcontinues.trans hcontinues', ?_⟩
    rw [← Nat.add_assoc, ← hcall.sends]
    exact hsends

section Streams

variable {e : Event} {entry entry' : String × Adapter}

/-- The streams of an orderly registry were all opened before, so that their identities are below
the next one of the bus. -/
theorem IsOrderly.id_lt (hu : u.IsOrderly) (he : entry ∈ u.registry.adapters) :
    entry.2.outlet.id.number < u.others.bus.nextId := by
  by_contra hge
  have hheld : entry.2.outlet ∈ u.registry.outlets ++ u.others.outlets :=
    List.mem_append_left _ (List.mem_map_of_mem he)
  exact hu.holds.ne_of_fresh hheld (Nat.le_of_not_lt hge) rfl

/-- No two adapters of an orderly registry have the same stream: an adapter is known by the identity
of its stream. -/
theorem IsOrderly.eq_of_id_eq (hu : u.IsOrderly) (he : entry ∈ u.registry.adapters)
    (he' : entry' ∈ u.registry.adapters) (hid : entry'.2.outlet.id = entry.2.outlet.id) :
    entry' = entry := by
  have hdistinct := hu.holds.distinct
  rw [List.map_append, outlets, List.map_map] at hdistinct
  exact List.inj_on_of_nodup_map hdistinct.of_append_left he' he hid

/-- The others do not hold a stream of the registry, since no two outlets of a bus have the same
identity. -/
theorem IsOrderly.not_mem_others (hu : u.IsOrderly) (he : entry ∈ u.registry.adapters) :
    entry.2.outlet.id ∉ u.others.outlets.map Outlet.id := by
  have hdistinct := hu.holds.distinct
  rw [List.map_append, outlets, List.map_map] at hdistinct
  exact List.disjoint_of_nodup_append hdistinct (List.mem_map.mpr ⟨entry, he, rfl⟩)

/-- The others do nothing while the registry meets variables: one call is made at a time. -/
theorem others_perform {m : Meeting} (hm : m ∈ u.meetings e) :
    (u.perform e).others.outlets = u.others.outlets := by
  cases e with
  | reconcile s => rfl
  | process s => rfl
  | elsewhere a => cases hm

/-- No adapter has a stream that was replaced: the identity is used up, and the new stream has
another one. -/
theorem IsOrderly.not_mem_of_misfits (hu : u.IsOrderly) (he : entry ∈ u.registry.adapters)
    {live : Descriptor} (hm : ⟨entry.1, entry.2, live⟩ ∈ u.meetings e)
    (hmisfits : Meeting.Misfits ⟨entry.1, entry.2, live⟩) :
    entry.2.outlet.id ∉ (u.perform e).registry.outlets.map Outlet.id := by
  obtain ⟨sent, hcall⟩ := hu.proceeds e
  intro hheld
  rw [outlets, List.map_map] at hheld
  obtain ⟨after, hafter, hid⟩ := List.mem_map.mp hheld
  obtain ⟨before, hbefore, hb⟩ := exists_of_forall₂_of_mem hcall.adapters hafter
  have hiff := hb.id_ne_iff (hu.id_lt hbefore)
  -- the adapter that would still have the stream has it from before or has got a new one
  by_cases hsame : after.2.outlet.id = before.2.outlet.id
  · obtain rfl := hu.eq_of_id_eq he hbefore (hsame.symm.trans hid)
    exact hiff.mpr ⟨live, hm, hmisfits⟩ hsame
  · obtain ⟨other, hother, hunfit⟩ := hiff.mp hsame
    have hnew := hb.replaced other hother hunfit
    have hold := hu.id_lt he
    have hnumber : after.2.outlet.id.number = entry.2.outlet.id.number :=
      congrArg StreamId.number hid
    omega

/-- A stream that was replaced has ended: its last message on the bus is its end. -/
theorem IsOrderly.isEnded (hu : u.IsOrderly) (he : entry ∈ u.registry.adapters)
    {live : Descriptor} (hm : ⟨entry.1, entry.2, live⟩ ∈ u.meetings e)
    (hmisfits : Meeting.Misfits ⟨entry.1, entry.2, live⟩) :
    IsEnded entry.2.outlet.id ((u.perform e).others.bus.messagesOf entry.2.outlet.id) := by
  have hgone : entry.2.outlet.id ∉
      ((u.perform e).registry.outlets ++ (u.perform e).others.outlets).map Outlet.id := by
    rw [others_perform hm, List.map_append, List.mem_append, not_or]
    exact ⟨hu.not_mem_of_misfits he hm hmisfits, hu.not_mem_others he⟩
  have halive := hu.holds.live entry.2.outlet (List.mem_append_left _ (List.mem_map_of_mem he))
  rcases (hu.perform e).holds.gone _ hgone with hnone | hended
  · have hstep := hu.perform_handling e
    have hgrows := hstep.log_prefix.filter fun m => m.streamId = entry.2.outlet.id
    exact (halive.ne_nil (List.prefix_nil.mp (hnone ▸ hgrows))).elim
  · exact hended

/-- What an event does to the stream of an adapter. -/
structure Reshapes (u : SharedRun) (e : Event) (before after : String × Adapter) : Prop where
  /-- The name stays. -/
  name : after.1 = before.1
  /-- Another stream takes the place exactly if the variable that was met has another type, or
  another number of channels, than the stream that was open. -/
  replaced_iff : after.2.outlet.id ≠ before.2.outlet.id ↔
    ∃ live, ⟨before.1, before.2, live⟩ ∈ u.meetings e ∧
      (live.tag ≠ before.2.tag ∨ live.channels ≠ before.2.channels)
  /-- Type, channels and address are those of the variable that was met. -/
  shows : ∀ live, ⟨before.1, before.2, live⟩ ∈ u.meetings e → after.2.Shows live
  /-- The stream is open and its samples are numbered from zero. -/
  alive : IsAlive after.2.outlet.id after.2.outlet.info after.2.outlet.sequence
    ((u.perform e).others.bus.messagesOf after.2.outlet.id)
  /-- If there is another stream, the one before has ended. -/
  ended : after.2.outlet.id ≠ before.2.outlet.id →
    IsEnded before.2.outlet.id ((u.perform e).others.bus.messagesOf before.2.outlet.id)

/-- An event does to each adapter of an orderly registry what its meetings say: the stream is
replaced exactly if the variable misfits. -/
theorem IsOrderly.reshapes (hu : u.IsOrderly) (e : Event) :
    List.Forall₂ (u.Reshapes e) u.registry.adapters (u.perform e).registry.adapters := by
  obtain ⟨sent, hcall⟩ := hu.proceeds e
  refine List.forall₂_iff_zip.mpr ⟨hcall.adapters.length_eq, ?_⟩
  intro before after hpair
  obtain ⟨hbefore, hafter⟩ := List.of_mem_zip hpair
  have hb := List.forall₂_zip hcall.adapters hpair
  have hiff := hb.id_ne_iff (hu.id_lt hbefore)
  refine ⟨hb.name, hiff, hb.shows, ?_, ?_⟩
  · exact (hu.perform e).holds.live _ (List.mem_append_left _ (List.mem_map_of_mem hafter))
  · intro hne
    obtain ⟨live, hm, hmisfits⟩ := hiff.mp hne
    exact hu.isEnded hbefore hm hmisfits

end Streams

/-- Whatever happens on the bus before and after a registry is built there, and whatever becomes of
the variables: an adapter has another stream after a call exactly if the call met, at its name, a
variable of another type or with another number of channels than the stream that was open. The
registry has counted all such meetings as rebuilds, and those at which only the address differed as
repoints. If all variables that were ever met at a name had the type and the number of channels of
the first stream, then this stream is still open, with one sample for each cycle that sent, and
these samples are numbered from zero. -/
theorem identity_changes_with_shape {s : Scene} {names : List String} {context : StreamContext}
    {skip : UInt32} {capacity : ℕ} {earlier : List Senders.Action}
    (hs : start s names context skip ((Senders.start capacity).after earlier) = .ok u)
    (events : List Event) :
    let v := u.after events
    (∀ e, List.Forall₂ (v.Reshapes e) v.registry.adapters (v.perform e).registry.adapters) ∧
      v.registry.stats.rebuilds = (u.met events).countP (fun m => m.Misfits) ∧
      v.registry.stats.repoints = (u.met events).countP (fun m => m.Moved) ∧
      ∀ x a, (x, a) ∈ u.registry.adapters →
        (∀ m ∈ u.met events, m.name = x →
          m.live.tag = a.tag ∧ m.live.channels = a.channels) →
        ∃ a', (x, a') ∈ v.registry.adapters ∧ a'.outlet.id = a.outlet.id ∧
          IsAlive a.outlet.id a.outlet.info v.registry.stats.sends
            (v.others.bus.messagesOf a.outlet.id) := by
  intro v
  obtain ⟨hu, hstats, hfirst⟩ := isOrderly_of_start hs (Senders.holds_after capacity earlier)
  have hv := hu.after events
  obtain ⟨hrepoints, hrebuilds⟩ := hu.counts_after events
  rw [hstats, Nat.zero_add] at hrepoints hrebuilds
  refine ⟨hv.reshapes, hrebuilds, hrepoints, ?_⟩
  intro x a ha hshape
  obtain ⟨a', sent, ha', hcontinues, hsends⟩ := hu.exists_continues ha hshape
  refine ⟨a', ha', hcontinues.id_eq, ?_⟩
  have halive := hv.holds.live a'.outlet (List.mem_append_left _ (List.mem_map_of_mem ha'))
  rw [hcontinues.outlet, hfirst _ ha] at halive
  rw [hstats] at hsends
  rw [hsends]
  exact halive

/-- The level moves, vanishes, is a text for a while and comes back, and keeps its stream, which
has sent in the first and in the last cycle. The gain is retyped when the level has vanished, so
that the stream is replaced in a cycle that fails. -/
theorem identity_of_returning_level :
    let context : StreamContext := ⟨.ofNat 10, "desk"⟩
    let other : StreamInfo := ⟨"other", "VAR_INT", 1, .ofNat 10, .int32, "desk"⟩
    let others := (Senders.start 4).after [.opens other]
    let scene (s : Space) : Scene := ⟨.ofSpace s, s.memory, .epoch⟩
    let before := (Space.empty.insert "level" (.int32 [7])).insert "gain" (.int32 [3])
    let moved := (before.remove "level").2.insert "level" (.int32 [8])
    let without := ((moved.remove "level").2.remove "gain").2.insert "gain" (.int32 [3, 4])
    let odd := without.insert "level" (.text "loud")
    let back := (odd.remove "level").2.insert "level" (.int32 [9])
    let events : List Event := [.process (scene moved), .process (scene without),
      .elsewhere (.sends ⟨0⟩ (.int32 [1])), .reconcile (scene odd), .process (scene back)]
    ∃ u a a', start (scene before) ["level", "gain"] context 0 others = .ok u ∧
      ("level", a) ∈ u.registry.adapters ∧
      (∀ m ∈ u.met events, m.name = "level" →
        m.live.tag = a.tag ∧ m.live.channels = a.channels) ∧
      (u.after events).registry.stats = ⟨4, 2, 1, 2⟩ ∧
      (u.met events).countP (fun m => m.Misfits) = 1 ∧
      (u.met events).countP (fun m => m.Moved) = 2 ∧
      ("level", a') ∈ (u.after events).registry.adapters ∧ a'.outlet.id = a.outlet.id ∧
      IsAlive a.outlet.id a.outlet.info 2
        ((u.after events).others.bus.messagesOf a.outlet.id) := by
  intro context other others scene before moved without odd back events
  let built := build (scene before).host ["level", "gain"] context 0
    { others.bus with now := (scene before).now }
  let u : SharedRun := ⟨built.1.toOption.getD default, { others with bus := built.2 }⟩
  let a := (u.registry.adapters.lookup "level").getD default
  have hbuilt : built.1 = .ok u.registry := by
    unfold u built before scene others other context
    decide +kernel
  have hs : start (scene before) ["level", "gain"] context 0 others = .ok u := by
    change built.1.map _ = _
    rw [hbuilt]
    rfl
  have ha : ("level", a) ∈ u.registry.adapters := by
    unfold a u built before scene others other context
    decide +kernel
  have hshape : ∀ m ∈ u.met events, m.name = "level" →
      m.live.tag = a.tag ∧ m.live.channels = a.channels := by
    unfold events back odd without moved a u built before scene others other context
    decide +kernel
  have hstats : (u.after events).registry.stats = ⟨4, 2, 1, 2⟩ := by
    unfold events back odd without moved u built before scene others other context
    decide +kernel
  obtain ⟨_, hrebuilds, hrepoints, hkept⟩ := identity_changes_with_shape hs events
  obtain ⟨a', ha', hid, halive⟩ := hkept "level" a ha hshape
  rw [hstats] at hrebuilds hrepoints halive
  exact ⟨u, a, a', hs, ha, hshape, hstats, hrebuilds.symm, hrepoints.symm, ha', hid, halive⟩

end SharedRun

end Registry

end VariableBridge
