import Mathlib.Algebra.BigOperators.Group.Finset.Piecewise
import VariableBridge.Proofs.Bridge.Rejection
import VariableBridge.Proofs.Bridge.Twins

/-!
# Registries as products

A registry for several variables does for each of them what a registry for that one
variable alone would do over the same history. Main statements: the adapters that ask
for new memory or for a new stream are counted name by name; a registry whose cycles
all succeed runs in lockstep with the registry of each of its names; hence it is the
product of the registries of its names.
-/

namespace VariableBridge

open Space (Descriptor)

/-- The world around a registry at one cycle, and the time. -/
structure Moment where
  /-- The variables and their memory. -/
  host : Host
  /-- The time that samples are stamped with. -/
  now : Time.Instant

/-- What a cycle shows to the outside. -/
structure Report where
  /-- Whether the cycle sent, or why it failed. -/
  result : Except BridgeError Bool
  /-- What was published. -/
  messages : List BusMessage

/-- The second cycle answers like the first and publishes those messages of the first that
belong to one name. -/
structure Report.Projects (x : String) (ρ : Renaming) (report report' : Report) : Prop where
  /-- The answers are the same. -/
  result : report'.result = report.result
  /-- The messages of the name are the same. -/
  messages : SameMessages ρ (report.messages.filter fun m => m.streamName == x) report'.messages

namespace Registry

/-- A registry under way with the bus that only it uses. -/
structure Run where
  /-- The registry. -/
  registry : Registry
  /-- The bus. -/
  bus : Bus
  deriving Inhabited

namespace Run

/-- Build a registry and begin its run. -/
def start (h : Host) (names : List String) (context : StreamContext) (skip : UInt32) (bus : Bus) :
    Except BridgeError Run :=
  (build h names context skip bus).1.map fun r => ⟨r, (build h names context skip bus).2⟩

/-- The cycle of a moment. -/
def cycle (u : Run) (m : Moment) : Outcome Registry Bool :=
  u.registry.process m.host { u.bus with now := m.now }

/-- The run after the cycle of a moment. -/
def next (u : Run) (m : Moment) : Run := ⟨(u.cycle m).state, (u.cycle m).bus⟩

/-- The run after the cycles of a history. -/
def after (u : Run) (moments : List Moment) : Run := moments.foldl next u

/-- What the registry has counted after the cycles of a history. -/
def statsAfter (u : Run) (moments : List Moment) : Stats := (u.after moments).registry.stats

/-- What the cycles of a history show. -/
def reports (u : Run) : List Moment → List Report
  | [] => []
  | m :: moments => ⟨(u.cycle m).result, (u.cycle m).bus.since u.bus⟩ :: (u.next m).reports moments

end Run

end Registry

/-- Does an adapter ask for this action? -/
def Host.asksFor (h : Host) (action : Action) (entry : String × Adapter) : Bool :=
  match h.catalogue.resolve entry.1 with
  | .ok live => planFor entry.2 live = action
  | .error _ => false

section Counting

variable {h : Host} {context : StreamContext}

/-- A visit does what the adapter asks for, so the count of a pass can be read from the adapters
before it. -/
theorem asksFor_eq {name : String} {a : Adapter} {bus : Bus} {visit : Visit}
    (hv : reconcileOne h context name a bus = .ok visit) (action : Action) :
    h.asksFor action (name, a) = decide (visit.action = action) := by
  unfold reconcileOne at hv
  unfold Host.asksFor
  cases hr : h.catalogue.resolve name with
  | error error => cases error <;> simp [hr] at hv
  | ok live =>
    simp only [hr] at hv ⊢
    cases hp : planFor a live with
    | keep =>
      simp only [hp, Except.ok.injEq] at hv
      rw [← hv]
    | repoint =>
      simp only [hp, Except.ok.injEq] at hv
      rw [← hv]
    | rebuild =>
      cases hc : Adapter.create h name live context bus with
      | error error => simp [hp, hc] at hv
      | ok made =>
        simp only [hp, hc, Except.ok.injEq] at hv
        rw [← hv]

/-- A pass without failure counts the adapters that ask for a move and those that ask for a
rebuild. -/
theorem reconcileEach_counts {l : List (String × Adapter)} {bus : Bus}
    (hf : (reconcileEach h context l bus).failure = none) :
    (reconcileEach h context l bus).repoints = l.countP (h.asksFor .repoint) ∧
      (reconcileEach h context l bus).rebuilds = l.countP (h.asksFor .rebuild) := by
  induction l generalizing bus with
  | nil => exact ⟨rfl, rfl⟩
  | cons entry rest ih =>
    obtain ⟨name, a⟩ := entry
    cases hv : reconcileOne h context name a bus with
    | error error => simp [reconcileEach_stop h context hv] at hf
    | ok visit =>
      rw [(reconcileEach_cons h context rest hv).2.1] at hf
      obtain ⟨hrepoints, hrebuilds⟩ := ih hf
      rw [List.countP_cons, List.countP_cons, asksFor_eq hv, asksFor_eq hv, ← hrepoints,
        ← hrebuilds]
      simp only [reconcileEach, hv, decide_eq_true_eq, and_self]

/-- A cycle without failure adds to both counts of the registry the adapters that ask, whether or
not it sends. -/
theorem Registry.counts_process {r : Registry} {bus : Bus} {sends : Bool}
    (hok : (r.process h bus).result = .ok sends) :
    (r.process h bus).state.stats.repoints =
        r.stats.repoints + r.adapters.countP (h.asksFor .repoint) ∧
      (r.process h bus).state.stats.rebuilds =
        r.stats.rebuilds + r.adapters.countP (h.asksFor .rebuild) := by
  rcases r.process_cases h bus with ⟨_, _, hr, _⟩ | ⟨hf, _, _, hs, _⟩ | ⟨hf, _, _, hs, _⟩
  · rw [hr] at hok
    cases hok
  · rw [hs, ← (reconcileEach_counts hf).1, ← (reconcileEach_counts hf).2]
    exact ⟨rfl, rfl⟩
  · rw [hs, ← (reconcileEach_counts hf).1, ← (reconcileEach_counts hf).2]
    exact ⟨rfl, rfl⟩

/-- Twins ask for the same, so the count of the second list is that of the compared names in the
first. -/
theorem TwinAdapters.countP_asksFor {compared : String → Bool} {ρ : Renaming}
    {l l' : List (String × Adapter)} (ht : TwinAdapters compared ρ l l') (action : Action) :
    l'.countP (h.asksFor action) =
      l.countP fun entry => compared entry.1 && h.asksFor action entry := by
  induction ht with
  | nil => rfl
  | @both name a a' rest rest' hc ha _ ih =>
    have hasks : h.asksFor action (name, a') = h.asksFor action (name, a) := by
      unfold Host.asksFor
      simp only [ha.planFor_eq]
    rw [List.countP_cons, List.countP_cons, ih, hasks, hc, Bool.true_and]
  | alone a hc _ ih =>
    rw [List.countP_cons, ih, hc]
    simp

/-- Counting name by name counts every entry once, if each of them has one of the names. -/
theorem sum_countP_name {names : Finset String} {l : List (String × Adapter)}
    (hl : ∀ entry ∈ l, entry.1 ∈ names) (p : String × Adapter → Bool) :
    (∑ x ∈ names, l.countP fun entry => entry.1 == x && p entry) = l.countP p := by
  induction l with
  | nil => simp
  | cons entry rest ih =>
    have hmem : entry.1 ∈ names := hl entry List.mem_cons_self
    have hone : (∑ x ∈ names, if (entry.1 == x && p entry) = true then 1 else 0) =
        if p entry = true then 1 else 0 := by
      cases p entry with
      | false => simp
      | true => simp [hmem]
    simp only [List.countP_cons, Finset.sum_add_distrib]
    rw [ih fun e he => hl e (List.mem_cons_of_mem _ he), hone]

end Counting

section Single

variable {h : Host} {names : List String} {x : String}

/-- Only one entry of an ordered list has a given name, because names ascend strictly. -/
theorem filter_name_eq {α : Type} {l : List (String × α)}
    (ho : l.Pairwise fun p q => p.1 < q.1) {d : α} (hm : (x, d) ∈ l) :
    (l.filter fun entry => entry.1 == x) = [(x, d)] := by
  induction l with
  | nil => cases hm
  | cons entry rest ih =>
    obtain ⟨hfirst, hrest⟩ := List.pairwise_cons.mp ho
    rcases List.mem_cons.mp hm with rfl | hm
    · have hnone : (rest.filter fun entry => entry.1 == x) = [] := by
        apply List.filter_eq_nil_iff.mpr
        intro other hother he
        exact absurd (hfirst other hother) (by rw [beq_iff_eq.mp he]; exact String.lt_irrefl x)
      simp [hnone]
    · have hne : ¬(entry.1 == x) = true := by
        intro he
        exact absurd (hfirst _ hm) (by rw [beq_iff_eq.mp he]; exact String.lt_irrefl x)
      rw [List.filter_cons, if_neg hne]
      exact ih hrest hm

/-- A name that was found among others is found alone, with the same descriptor. -/
theorem resolveAll_singleton {found : Std.TreeMap String Descriptor}
    (hf : resolveAll h names = .ok found) (hx : x ∈ names) :
    ∃ found', resolveAll h [x] = .ok found' ∧
      found'.toList = found.toList.filter fun entry => entry.1 == x := by
  obtain ⟨d, layout, hd, hl⟩ := exists_of_resolveAll hf hx
  have hlayout : layoutFor x d = .ok layout := layoutFor_eq_ok_iff.mpr hl
  have hone : resolveAll h [x] = .ok ((∅ : Std.TreeMap String Descriptor).insert x d) := by
    simp only [resolveAll, List.foldlM_cons, List.foldlM_nil, hd, hlayout]
    rfl
  have hmem : (x, d) ∈ found.toList := Std.TreeMap.mem_toList_iff_getElem?_eq_some.mpr
    ((getElem?_of_resolveAll hf x d).mpr ⟨hx, hd⟩)
  have hmem' := Std.TreeMap.mem_toList_iff_getElem?_eq_some.mpr
    ((getElem?_of_resolveAll hone x d).mpr ⟨List.mem_singleton_self x, hd⟩)
  refine ⟨_, hone, ?_⟩
  -- both lists are the one entry of the name
  rw [filter_name_eq (pairwise_toList found) hmem, ← filter_name_eq (pairwise_toList _) hmem']
  symm
  apply List.filter_eq_self.mpr
  intro entry he
  have hname := ((getElem?_of_resolveAll hone entry.1 entry.2).mp
    (Std.TreeMap.mem_toList_iff_getElem?_eq_some.mp he)).1
  exact beq_iff_eq.mpr (List.mem_singleton.mp hname)

end Single

namespace Registry.Run

variable {compared : String → Bool} {ρ : Renaming} {u u' : Run} {m m' : Moment}
  {moments history : List Moment}

/-- Two runs of twin registries on buses that know the renaming. -/
structure Twin (compared : String → Bool) (ρ : Renaming) (u u' : Run) : Prop where
  /-- The streams of the renaming were opened. -/
  known : ρ.Known u.bus u'.bus
  /-- The registries are twins. -/
  registry : u.registry.Twin compared ρ u'.registry

/-- What is known of a run that begins: its registry was built, and its bus is the one that the
build has left. -/
theorem of_start {h : Host} {names : List String} {context : StreamContext} {skip : UInt32}
    {bus : Bus} (hs : start h names context skip bus = .ok u) :
    (build h names context skip bus).1 = .ok u.registry ∧
      (build h names context skip bus).2 = u.bus := by
  unfold start at hs
  cases hb : (build h names context skip bus).1 with
  | error error => simp [hb, Except.map] at hs
  | ok r =>
    simp only [hb, Except.map, Except.ok.injEq] at hs
    rw [← hs]
    exact ⟨rfl, rfl⟩

/-- A union starts with all counts at zero, like each of the single registries that it is compared
with. -/
theorem stats_of_start {h : Host} {names : List String} {context : StreamContext} {skip : UInt32}
    {bus : Bus} (hs : start h names context skip bus = .ok u) :
    u.registry.stats = ⟨0, 0, 0, 0⟩ := by
  obtain ⟨found, _, _, hr, _⟩ := of_build (of_start hs).1
  rw [hr]

/-- A registry of one of the names begins as a twin: it opens the stream that the union has opened
for this name. -/
theorem exists_twin_of_start {h : Host} {names : List String} {context : StreamContext}
    {skip : UInt32} {bus : Bus} (hs : start h names context skip bus = .ok u) {x : String}
    (hx : x ∈ names) (bus' : Bus) :
    ∃ u' ρ, start h [x] context skip bus' = .ok u' ∧ u.Twin (· == x) ρ u' ∧
      SameMessages ρ ((u.bus.since bus).filter fun m => m.streamName == x) (u'.bus.since bus') := by
  obtain ⟨hb, hbus⟩ := of_start hs
  obtain ⟨found, hf, hnone, _, _⟩ := of_build hb
  obtain ⟨found', hf', hfound⟩ := resolveAll_singleton hf hx
  rcases build_twin (· == x) hf hf' hfound (Renaming.known_empty bus bus') (.inl hnone) with
    ⟨error, he, _⟩ | ⟨r, r', ρ, hr, hr', hstep, htwin⟩
  · rw [hb] at he
    cases he
  · rw [hb] at hr
    rw [hbus] at hstep
    obtain rfl := Except.ok.inj hr
    refine ⟨⟨r', (build h [x] context skip bus').2⟩, ρ, ?_, ⟨hstep.known, htwin⟩, hstep.since⟩
    rw [start, hr']
    rfl

/-- A cycle takes twins to twins: the second sends of its own names what the first sends of them. -/
theorem Twin.next (ht : u.Twin compared ρ u') (hm : m'.host = m.host)
    (hok : ∃ sends, (u.cycle m).result = .ok sends) :
    ∃ ρ₁, Lockstep compared ρ u.bus u'.bus ρ₁ (u.next m).bus (u'.next m').bus ∧
      (u.next m).Twin compared ρ₁ (u'.next m') ∧
      (u'.cycle m').result = (u.cycle m).result := by
  have hk : ρ.Known { u.bus with now := m.now } { u'.bus with now := m'.now } := ht.known
  obtain ⟨ρ₁, hstep, htwin, hresult⟩ := ht.registry.process hk (.inl hok)
  unfold Run.next Run.cycle
  rw [hm]
  exact ⟨ρ₁, hstep.at_times, ⟨hstep.known, htwin⟩, hresult⟩

/-- A run over a history in which no cycle fails is shown by the run of each name. -/
theorem Twin.run {x : String} (ht : u.Twin (· == x) ρ u')
    (hh : List.Forall₂ (fun m m' => m'.host = m.host) moments history)
    (hok : ∀ report ∈ u.reports moments, ∃ sends, report.result = .ok sends) :
    ∃ ρ₁, ρ.pairs ⊆ ρ₁.pairs ∧
      List.Forall₂ (Report.Projects x ρ₁) (u.reports moments) (u'.reports history) ∧
      (u.after moments).Twin (· == x) ρ₁ (u'.after history) := by
  induction hh generalizing u u' ρ with
  | nil => exact ⟨ρ, fun _ hp => hp, .nil, ht⟩
  | cons hm _ ih =>
    obtain ⟨ρ₁, hstep, hnext, hresult⟩ := ht.next hm (hok _ List.mem_cons_self)
    obtain ⟨ρ₂, hgrows, hreports, hafter⟩ :=
      ih hnext fun report hr => hok report (List.mem_cons_of_mem _ hr)
    exact ⟨ρ₂, fun _ hp => hgrows (hstep.grows hp),
      .cons ⟨hresult, hstep.since.mono hgrows⟩ hreports, hafter⟩

/-- If no cycle of the whole run fails, none of the run of a name does. -/
theorem succeeds_of_projects {x : String} {reports reports' : List Report}
    (hp : List.Forall₂ (Report.Projects x ρ) reports reports')
    (hok : ∀ report ∈ reports, ∃ sends, report.result = .ok sends) :
    ∀ report' ∈ reports', ∃ sends, report'.result = .ok sends := by
  induction hp with
  | nil => exact hok
  | cons hfirst _ ih =>
    intro report' hr
    rcases List.mem_cons.mp hr with rfl | hr
    · rw [hfirst.result]
      exact hok _ List.mem_cons_self
    · exact ih (fun report he => hok report (List.mem_cons_of_mem _ he)) report' hr

/-- How often adapters with compared names ask for an action during a history. -/
def asked (compared : String → Bool) (action : Action) (u : Run) : List Moment → Nat
  | [] => 0
  | m :: moments =>
    (u.registry.adapters.countP fun entry =>
      compared entry.1 && m.host.asksFor action entry) + (u.next m).asked compared action moments

/-- A run without failures counts what is asked in it, added up over all its cycles. -/
theorem counts_after (hok : ∀ report ∈ u.reports moments, ∃ sends, report.result = .ok sends) :
    (u.statsAfter moments).repoints =
        u.registry.stats.repoints + u.asked allNames .repoint moments ∧
      (u.statsAfter moments).rebuilds =
        u.registry.stats.rebuilds + u.asked allNames .rebuild moments := by
  induction moments generalizing u with
  | nil => exact ⟨rfl, rfl⟩
  | cons m moments ih =>
    obtain ⟨sends, hsends⟩ := hok _ List.mem_cons_self
    obtain ⟨hrepoints, hrebuilds⟩ : (u.next m).registry.stats.repoints = _ ∧
      (u.next m).registry.stats.rebuilds = _ := counts_process hsends
    obtain ⟨hrepoints', hrebuilds'⟩ :=
      ih fun report hr => hok report (List.mem_cons_of_mem _ hr)
    simp only [asked, Bool.true_and]
    rw [← Nat.add_assoc, ← Nat.add_assoc, ← hrepoints, ← hrebuilds]
    exact ⟨hrepoints', hrebuilds'⟩

/-- The run of one name asks for what the whole run asks for with that name. -/
theorem Twin.asked_eq (ht : u.Twin compared ρ u')
    (hh : List.Forall₂ (fun m m' => m'.host = m.host) moments history)
    (hok : ∀ report ∈ u.reports moments, ∃ sends, report.result = .ok sends) (action : Action) :
    u'.asked allNames action history = u.asked compared action moments := by
  induction hh generalizing u u' ρ with
  | nil => rfl
  | cons hm _ ih =>
    obtain ⟨ρ₁, _, hnext, _⟩ := ht.next hm (hok _ List.mem_cons_self)
    have hrest := ih hnext fun report hr => hok report (List.mem_cons_of_mem _ hr)
    simp only [asked, Bool.true_and, hrest, hm]
    rw [ht.registry.adapters.countP_asksFor]

/-- What is asked name by name is what is asked altogether, since every adapter has exactly one
name. -/
theorem sum_asked {names : Finset String} (hn : ∀ x ∈ u.registry.names, x ∈ names)
    (action : Action) (moments : List Moment) :
    (∑ x ∈ names, u.asked (· == x) action moments) = u.asked allNames action moments := by
  induction moments generalizing u with
  | nil => simp [asked]
  | cons m moments ih =>
    have hentries : ∀ entry ∈ u.registry.adapters, entry.1 ∈ names :=
      fun entry he => hn entry.1 (List.mem_map_of_mem he)
    have hnext : ∀ x ∈ (u.next m).registry.names, x ∈ names := by
      have hsame : (u.next m).registry.names = u.registry.names := names_process u.registry _ _
      rw [hsame]
      exact hn
    simp only [asked, Finset.sum_add_distrib, Bool.true_and]
    rw [ih hnext, sum_countP_name hentries]

/-- The run of one of the names, what it shows, and what it counts beside the run of all of them. -/
theorem exists_single {h : Host} {names : List String} {context : StreamContext} {skip : UInt32}
    {bus : Bus} (hs : start h names context skip bus = .ok u)
    (hok : ∀ report ∈ u.reports moments, ∃ sends, report.result = .ok sends) {x : String}
    (hx : x ∈ names) (bus' : Bus)
    (hh : List.Forall₂ (fun m m' => m'.host = m.host) moments history) :
    ∃ u', start h [x] context skip bus' = .ok u' ∧
      (∃ ρ, SameMessages ρ ((u.bus.since bus).filter fun m => m.streamName == x)
          (u'.bus.since bus') ∧
        List.Forall₂ (Report.Projects x ρ) (u.reports moments) (u'.reports history)) ∧
      (u'.statsAfter history).cycles = (u.statsAfter moments).cycles ∧
      (u'.statsAfter history).sends = (u.statsAfter moments).sends ∧
      (u'.statsAfter history).repoints = u.asked (· == x) .repoint moments ∧
      (u'.statsAfter history).rebuilds = u.asked (· == x) .rebuild moments := by
  obtain ⟨u', ρ, hs', htwin, hbuilt⟩ := exists_twin_of_start hs hx bus'
  obtain ⟨ρ₁, hgrows, hreports, hafter⟩ := htwin.run hh hok
  obtain ⟨hrepoints, hrebuilds⟩ := counts_after (succeeds_of_projects hreports hok)
  have hzero : u'.registry.stats = ⟨0, 0, 0, 0⟩ := stats_of_start hs'
  rw [hzero, Nat.zero_add, htwin.asked_eq hh hok] at hrepoints hrebuilds
  exact ⟨u', hs', ⟨ρ₁, hbuilt.mono hgrows, hreports⟩, hafter.registry.cycles,
    hafter.registry.sends, hrepoints, hrebuilds⟩

/-- A registry whose build and whose cycles all succeed is the product of the registries of its
names, built and run on buses of their own over the same history: each of them can be built; it
publishes the messages of its name, when it is built and at each cycle, up to the identities of
the streams and the time stamps; its cycles answer the same; it has as many passes and sending
cycles; and their adapters that followed moved memory or got another stream add up. -/
theorem product_of_single_registries {h : Host} {names : List String} {context : StreamContext}
    {skip : UInt32} {bus : Bus} (hs : start h names context skip bus = .ok u)
    (hok : ∀ report ∈ u.reports moments, ∃ sends, report.result = .ok sends)
    (buses : String → Bus) (histories : String → List Moment)
    (hh : ∀ x ∈ names, List.Forall₂ (fun m m' => m'.host = m.host) moments (histories x)) :
    ∃ singles : String → Run,
      (∀ x ∈ names, start h [x] context skip (buses x) = .ok (singles x) ∧
        (∃ ρ, SameMessages ρ ((u.bus.since bus).filter fun m => m.streamName == x)
            ((singles x).bus.since (buses x)) ∧
          List.Forall₂ (Report.Projects x ρ) (u.reports moments)
            ((singles x).reports (histories x))) ∧
        ((singles x).statsAfter (histories x)).cycles = (u.statsAfter moments).cycles ∧
        ((singles x).statsAfter (histories x)).sends = (u.statsAfter moments).sends) ∧
      (u.statsAfter moments).repoints =
        ∑ x ∈ names.toFinset, ((singles x).statsAfter (histories x)).repoints ∧
      (u.statsAfter moments).rebuilds =
        ∑ x ∈ names.toFinset, ((singles x).statsAfter (histories x)).rebuilds := by
  have hsingle := fun x hx => exists_single hs hok hx (buses x) (hh x hx)
  choose! singles hstart hshown hcycles hsends hrepoints hrebuilds using hsingle
  have hnames : ∀ x ∈ u.registry.names, x ∈ names.toFinset :=
    fun x hx => List.mem_toFinset.mpr ((mem_names_of_build (of_start hs).1).mp hx)
  obtain ⟨hallRepoints, hallRebuilds⟩ := counts_after hok
  rw [stats_of_start hs, Nat.zero_add] at hallRepoints hallRebuilds
  refine ⟨singles, ?_, ?_, ?_⟩
  · intro x hx
    exact ⟨hstart x hx, hshown x hx, hcycles x hx, hsends x hx⟩
  · rw [hallRepoints, ← sum_asked hnames]
    refine Finset.sum_congr rfl ?_
    intro x hx
    exact (hrepoints x (List.mem_toFinset.mp hx)).symm
  · rw [hallRebuilds, ← sum_asked hnames]
    refine Finset.sum_congr rfl ?_
    intro x hx
    exact (hrebuilds x (List.mem_toFinset.mp hx)).symm

/-- The level gets another type between two cycles, the gain stays as it is. -/
theorem product_of_level_and_gain :
    let context : StreamContext := ⟨.ofNat 10, "desk"⟩
    let before := (Space.empty.insert "level" (.int32 [7])).insert "gain" (.int32 [3])
    let after := before.insert "level" (.complex [⟨⟨1⟩, ⟨2⟩⟩])
    let moments : List Moment := [⟨.ofSpace before, .epoch⟩, ⟨.ofSpace after, .epoch⟩]
    ∃ u, start (.ofSpace before) ["level", "gain"] context 1 (.new 4) = .ok u ∧
      (u.reports moments).map Report.result = [.ok true, .ok false] ∧
      (u.statsAfter moments).rebuilds = 1 ∧ ∃ singles : String → Run,
        (∀ x ∈ ["level", "gain"],
          start (.ofSpace before) [x] context 1 (.new 8) = .ok (singles x)) ∧
        ((singles "gain").statsAfter moments).rebuilds +
          ((singles "level").statsAfter moments).rebuilds = 1 := by
  intro context before after moments
  let built := build (.ofSpace before) ["level", "gain"] context 1 (.new 4)
  let u : Run := ⟨built.1.toOption.getD default, built.2⟩
  have hbuilt : built.1 = .ok u.registry := by
    unfold u built before context
    decide +kernel
  have hs : start (.ofSpace before) ["level", "gain"] context 1 (.new 4) = .ok u := by
    unfold start
    rw [hbuilt]
    rfl
  have hresults : (u.reports moments).map Report.result = [.ok true, .ok false] := by
    unfold moments after u built before context
    decide +kernel
  have hrebuilds : (u.statsAfter moments).rebuilds = 1 := by
    unfold moments after u built before context
    decide +kernel
  have hok : ∀ report ∈ u.reports moments, ∃ sends, report.result = .ok sends := by
    intro report hr
    have hmem : report.result ∈ [.ok true, .ok false] := hresults ▸ List.mem_map_of_mem hr
    simp only [List.mem_cons, List.not_mem_nil, or_false] at hmem
    exact hmem.elim (fun h => ⟨true, h⟩) fun h => ⟨false, h⟩
  have hsame : List.Forall₂ (fun m m' : Moment => m'.host = m.host) moments moments :=
    List.forall₂_same.mpr fun _ _ => rfl
  obtain ⟨singles, hsingles, _, hsum⟩ := product_of_single_registries hs hok (fun _ => .new 8)
    (fun _ => moments) (fun _ _ => hsame)
  refine ⟨u, hs, hresults, hrebuilds, singles, fun x hx => (hsingles x hx).1, ?_⟩
  rw [hrebuilds] at hsum
  rw [hsum]
  simp [Nat.add_comm]

end Registry.Run

end VariableBridge
