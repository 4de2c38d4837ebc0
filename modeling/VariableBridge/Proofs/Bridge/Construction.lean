import VariableBridge.Proofs.Bridge.Readiness
import VariableBridge.Proofs.Bridge.Twins

/-!
# Building all or nothing

A registry is built for a list of names that may be in any order and may repeat, and for a rate
that may be anything. Main statements: the first name in the list whose variable cannot be sent
ends the build; otherwise the build fails only if a bus would refuse its first stream; a build
that fails leaves no trace, and one that succeeds opens one stream for each name; and lists of the
same names are built alike.
-/

namespace VariableBridge

open Space (Descriptor Memory)

namespace Host

/-- The world around a bridge that may open any stream. -/
def unrestricted (catalogue : Catalogue) (memory : Memory) : Host :=
  ⟨catalogue, memory, fun _ => none⟩

/-- Can the variable with this name be sent now? -/
def CanSend (h : Host) (name : String) : Prop :=
  ∃ d layout, h.catalogue.resolve name = .ok d ∧ Layout.ofTag d.tag = some layout

/-- Why the variable with this name cannot be sent now. -/
inductive Faults (h : Host) (name : String) : BridgeError → Prop where
  /-- There is no such variable. -/
  | missing (hl : h.catalogue.lookup name = .error .notFound) : Faults h name (.noSuchVariable name)
  /-- No variable can be looked up. -/
  | unusable (hl : h.catalogue.lookup name = .error .invalidHandle) : Faults h name .invalidHandle
  /-- The variable has a type that no stream can carry. -/
  | unsendable {d : Descriptor} (hl : h.catalogue.lookup name = .ok d)
    (ht : Layout.ofTag d.tag = none) : Faults h name (.unknownType name d.tag)

variable {h : Host} {name : String} {error : BridgeError}

/-- A variable that cannot be sent has a fault: it is not found, or its type has no layout. -/
theorem exists_faults (hn : ¬h.CanSend name) : ∃ error, h.Faults name error := by
  cases hl : h.catalogue.lookup name with
  | error failure =>
    cases failure with
    | notFound => exact ⟨_, .missing hl⟩
    | invalidHandle => exact ⟨_, .unusable hl⟩
  | ok d =>
    cases ht : Layout.ofTag d.tag with
    | none => exact ⟨_, .unsendable hl ht⟩
    | some layout =>
      refine (hn ⟨d, layout, ?_, ht⟩).elim
      simp only [Catalogue.resolve, hl]

/-- The first name with a fault ends the search with this fault. -/
theorem Faults.resolveAll_eq (hx : h.Faults name error) {front : List String}
    (hfront : ∀ y ∈ front, h.CanSend y) (rest : List String) :
    resolveAll h (front ++ name :: rest) = .error error := by
  obtain ⟨before, hbefore⟩ := exists_resolveAll hfront
  rw [resolveAll, List.foldlM_append]
  change (resolveAll h front).bind _ = _
  rw [hbefore]
  simp only [Except.bind, List.foldlM_cons]
  cases hx with
  | missing hl =>
    simp only [Catalogue.resolve, hl]
    rfl
  | unusable hl =>
    simp only [Catalogue.resolve, hl]
    rfl
  | unsendable hl ht =>
    simp only [Catalogue.resolve, hl, layoutFor, ht]
    rfl

/-- Among names that cannot all be sent there is a first one that cannot. The error of a build is
about this one. -/
theorem exists_first_fault {names : List String} (hn : ∃ x ∈ names, ¬h.CanSend x) :
    ∃ front x rest error, names = front ++ x :: rest ∧ (∀ y ∈ front, h.CanSend y) ∧
      h.Faults x error := by
  induction names with
  | nil =>
    obtain ⟨x, hx, _⟩ := hn
    cases hx
  | cons y names ih =>
    by_cases hy : h.CanSend y
    · have hrest : ∃ x ∈ names, ¬h.CanSend x := by
        obtain ⟨x, hx, hfault⟩ := hn
        rcases List.mem_cons.mp hx with rfl | hx
        · exact (hfault hy).elim
        · exact ⟨x, hx, hfault⟩
      obtain ⟨front, x, rest, error, rfl, hfront, hx⟩ := ih hrest
      refine ⟨y :: front, x, rest, error, rfl, ?_, hx⟩
      intro z hz
      rcases List.mem_cons.mp hz with rfl | hz
      · exact hy
      · exact hfront z hz
    · obtain ⟨error, herror⟩ := exists_faults hy
      exact ⟨[], y, names, error, rfl, fun z hz => absurd hz List.not_mem_nil, herror⟩

end Host

/-- What stands on the right of related lists is related to something on the left. -/
theorem exists_of_forall₂_of_mem {α β : Type} {R : α → β → Prop} {l : List α} {l' : List β}
    (h : List.Forall₂ R l l') {b : β} (hb : b ∈ l') : ∃ a ∈ l, R a b := by
  induction h with
  | nil => cases hb
  | cons hr _ ih =>
    rcases List.mem_cons.mp hb with rfl | hb
    · exact ⟨_, List.mem_cons_self, hr⟩
    · obtain ⟨a, ha, hrel⟩ := ih hb
      exact ⟨a, List.mem_cons_of_mem _ ha, hrel⟩

/-- The adapter was just made for a variable: it shows the variable with all its elements, its
stream has the metadata of the variable, and no sample was sent. -/
structure Adapter.IsMadeFor (name : String) (context : StreamContext) (d : Descriptor)
    (a : Adapter) : Prop where
  /-- Type, channels and address are those of the variable. -/
  shows : a.Shows d
  /-- So is the number of elements. -/
  count : a.count = d.count
  /-- The stream has the metadata of the variable. -/
  bound : a.IsBound name context
  /-- The next sample is the first. -/
  sequence : a.outlet.sequence = 0

section Opening

variable {h : Host} {name : String} {context : StreamContext} {d : Descriptor} {bus bus' : Bus}
  {a : Adapter}

/-- An adapter that was created shows its variable as it is now, with all its elements, and has sent
nothing yet. -/
theorem Adapter.isMadeFor_of_create (hc : create h name d context bus = .ok (a, bus')) :
    a.IsMadeFor name context d := by
  obtain ⟨_, _, hcount, hbound, ho, _⟩ := of_create hc
  refine ⟨shows_of_create hc, hcount, hbound, ?_⟩
  rw [ho]
  rfl

/-- A stream of a variable that can be sent is refused by the bus only. -/
theorem Adapter.outlet_of_create_error (href : ∀ info, h.refusal info = none) {layout : Layout}
    (hl : Layout.ofTag d.tag = some layout) {error : BridgeError}
    (hc : create h name d context bus = .error error) : ∃ reason, error = .outlet reason := by
  simp only [create, layoutFor_eq_ok_iff.mpr hl, Host.openStream, href, Bus.createOutlet] at hc
  cases ho : Bus.objection (streamInfo name layout d.count context) with
  | none => simp [ho] at hc
  | some objection =>
    simp only [ho, Except.error.injEq] at hc
    rw [← hc]
    unfold Bus.objection at ho
    split at ho
    · exact ⟨_, (Option.some.inj ho).symm⟩
    · split at ho
      · cases ho
      · exact ⟨_, (Option.some.inj ho).symm⟩

/-- If all variables can be sent, the only error that opening their streams can end with is a
refusal of the bus. -/
theorem openEach_error (href : ∀ info, h.refusal info = none) {ds : List (String × Descriptor)}
    (hl : ∀ entry ∈ ds, ∃ layout, Layout.ofTag entry.2.tag = some layout) {error : BridgeError}
    (hf : (openEach h context ds bus).failure = some error) : ∃ reason, error = .outlet reason := by
  induction ds generalizing bus with
  | nil => cases hf
  | cons entry rest ih =>
    obtain ⟨name, d⟩ := entry
    obtain ⟨layout, hlayout⟩ := hl _ List.mem_cons_self
    unfold openEach at hf
    cases hc : Adapter.create h name d context bus with
    | error refused =>
      simp only [hc, Option.some.injEq] at hf
      rw [← hf]
      exact Adapter.outlet_of_create_error href hlayout hc
    | ok made =>
      simp only [hc] at hf
      exact ih (fun e he => hl e (List.mem_cons_of_mem _ he)) hf

/-- The adapters are made for the variables in their order, one for each, if no stream was
refused. -/
theorem openEach_made {ds : List (String × Descriptor)}
    (hf : (openEach h context ds bus).failure = none) :
    List.Forall₂ (fun found made => made.1 = found.1 ∧ made.2.IsMadeFor found.1 context found.2)
      ds (openEach h context ds bus).adapters := by
  induction ds generalizing bus with
  | nil => exact .nil
  | cons entry rest ih =>
    obtain ⟨name, d⟩ := entry
    unfold openEach at hf ⊢
    cases hc : Adapter.create h name d context bus with
    | error error => simp [hc] at hf
    | ok made =>
      simp only [hc] at hf
      exact .cons ⟨rfl, Adapter.isMadeFor_of_create hc⟩ (ih hf)

/-- Each stream is announced and listed under the next identity. -/
theorem openEach_opens (h : Host) (context : StreamContext) (ds : List (String × Descriptor))
    (bus : Bus) :
    let opening := openEach h context ds bus
    opening.bus.log.toList = bus.log.toList ++
        opening.adapters.map (fun entry => .opened entry.2.outlet.id entry.2.outlet.info) ∧
      opening.bus.openStreams = bus.openStreams ++
        opening.adapters.map (fun entry => (entry.2.outlet.id, entry.2.outlet.info)) ∧
      opening.adapters.map (fun entry => entry.2.outlet.id) =
        (List.range' bus.nextId opening.adapters.length).map StreamId.mk := by
  induction ds generalizing bus with
  | nil => simp [openEach]
  | cons entry rest ih =>
    obtain ⟨name, d⟩ := entry
    unfold openEach
    cases hc : Adapter.create h name d context bus with
    | error error => simp
    | ok made =>
      obtain ⟨_, _, _, _, ho, hb⟩ := Adapter.of_create hc
      obtain ⟨hlog, htable, hids⟩ := ih made.2
      have hid : made.1.outlet.id = ⟨bus.nextId⟩ := by
        rw [ho]
        rfl
      simp only [List.map_cons, List.length_cons, List.range'_succ]
      refine ⟨?_, ?_, ?_⟩
      · rw [hlog, hb, hid]
        simp [Bus.announce]
      · rw [htable, hb, hid]
        simp [Bus.announce]
      · rw [hids, hb, hid]
        rfl

end Opening

namespace Registry

/-- What building a registry for these names gives. -/
structure IsNew (h : Host) (names : List String) (context : StreamContext) (skip : UInt32)
    (bus bus' : Bus) (r : Registry) : Prop where
  /-- The names ascend, so none of them repeats. -/
  ordered : r.names.Pairwise (· < ·)
  /-- They are the given names. -/
  mem_names : ∀ x, x ∈ r.names ↔ x ∈ names
  /-- Each adapter is made for the variable that has its name now. -/
  made : ∀ entry ∈ r.adapters, ∃ d, h.catalogue.resolve entry.1 = .ok d ∧
    entry.2.IsMadeFor entry.1 context d
  /-- What the streams have in common was given. -/
  context : r.context = context
  /-- The first cycle sends. -/
  throttle : r.throttle = .new skip
  /-- Nothing was done yet. -/
  stats : r.stats = ⟨0, 0, 0, 0⟩
  /-- One stream was announced for each name, in ascending order. -/
  log : bus'.log.toList = bus.log.toList ++
    r.adapters.map fun entry => .opened entry.2.outlet.id entry.2.outlet.info
  /-- These streams are open besides those before. -/
  table : bus'.openStreams = bus.openStreams ++
    r.adapters.map fun entry => (entry.2.outlet.id, entry.2.outlet.info)
  /-- Their identities are new. -/
  identities : r.adapters.map (fun entry => entry.2.outlet.id) =
    (List.range' bus.nextId r.size).map StreamId.mk

variable {h : Host} {names names' : List String} {context : StreamContext} {skip : UInt32}
  {bus bus' : Bus} {r : Registry}

/-- A build that succeeds makes a new registry in every respect: names, adapters, counts,
announcements and open streams. -/
theorem isNew_of_build (hb : (build h names context skip bus).1 = .ok r) :
    r.IsNew h names context skip bus (build h names context skip bus).2 := by
  have hsound := isSound_of_build hb
  have hnames := fun x => mem_names_of_build hb (x := x)
  obtain ⟨found, hf, hnone, hr, hbus⟩ := of_build hb
  obtain ⟨hlog, htable, hids⟩ := openEach_opens h context found.toList bus
  have hmade := openEach_made hnone
  rw [hbus]
  subst hr
  refine ⟨hsound.ordered, hnames, ?_, rfl, rfl, rfl, hlog, htable, hids⟩
  intro entry he
  obtain ⟨before, hb, hname, hentry⟩ := exists_of_forall₂_of_mem hmade he
  refine ⟨before.2, ?_, hname ▸ hentry⟩
  rw [hname]
  exact ((getElem?_of_resolveAll hf before.1 before.2).mp
    (Std.TreeMap.mem_toList_iff_getElem?_eq_some.mp hb)).2

/-- A build ends with the error of the first name at fault in the order of the list, and the bus was
not touched by it. -/
theorem build_of_faults {front : List String} {x : String} {rest : List String}
    {error : BridgeError} (hfront : ∀ y ∈ front, h.CanSend y) (hx : h.Faults x error) :
    build h (front ++ x :: rest) context skip bus = (.error error, bus) := by
  unfold build
  rw [hx.resolveAll_eq hfront rest]

/-- A build that fails although all variables can be sent was refused its first stream. -/
theorem build_of_failure (href : ∀ info, h.refusal info = none)
    {found : Std.TreeMap String Descriptor} (hf : resolveAll h names = .ok found)
    {error : BridgeError} (ho : (openEach h context found.toList bus).failure = some error) :
    ∃ reason, build h names context skip bus = (.error (.outlet reason), bus) := by
  obtain ⟨reason, rfl⟩ := openEach_error href (exists_layout_of_resolveAll hf) ho
  refine ⟨reason, ?_⟩
  unfold build
  simp only [hf, openEach_of_failure href (exists_layout_of_resolveAll hf)
    (pairwise_toList found) ho]
  rfl

/-- Streams with an empty name or a bad rate are refused, and a build over such a stream leaves the
bus as it was. -/
theorem build_refused (href : ∀ info, h.refusal info = none)
    (hnames : ∀ x ∈ names, h.CanSend x) (hne : names ≠ [])
    (hbad : "" ∈ names ∨ context.rate.isFiniteNonneg = false) :
    ∃ reason, build h names context skip bus = (.error (.outlet reason), bus) := by
  obtain ⟨found, hf⟩ := exists_resolveAll hnames
  cases ho : (openEach h context found.toList bus).failure with
  | some error => exact build_of_failure href hf ho
  | none =>
    -- a stream of one of the names would have been opened in spite of the name or the rate
    have hopen (x : String) (hx : x ∈ names) : x ≠ "" ∧ context.rate.isFiniteNonneg = true := by
      obtain ⟨d, _, hd, _⟩ := hnames x hx
      have hfound : (x, d) ∈ found.toList := Std.TreeMap.mem_toList_iff_getElem?_eq_some.mpr
        ((getElem?_of_resolveAll hf x d).mpr ⟨hx, hd⟩)
      have hname : x ∈ (openEach h context found.toList bus).adapters.map Prod.fst := by
        rw [openEach_names h context ho]
        exact List.mem_map_of_mem hfound
      obtain ⟨entry, he, rfl⟩ := List.mem_map.mp hname
      have hbound := openEach_bound h context found.toList bus entry he
      have hopenable := hbound.openable
      rwa [hbound.info, objection_streamInfo_eq_none_iff] at hopenable
    rcases hbad with hempty | hrate
    · exact ((hopen "" hempty).1 rfl).elim
    · obtain ⟨x, hx⟩ := List.exists_mem_of_ne_nil names hne
      rw [(hopen x hx).2] at hrate
      cases hrate

/-- If every variable can be sent, no name is empty and the rate is finite and not negative, a build
succeeds. Without names the rate is never looked at. -/
theorem exists_build (href : ∀ info, h.refusal info = none) (hnames : ∀ x ∈ names, h.CanSend x)
    (hgood : names ≠ [] → "" ∉ names ∧ context.rate.isFiniteNonneg = true) :
    ∃ r, (build h names context skip bus).1 = .ok r := by
  obtain ⟨found, hf⟩ := exists_resolveAll hnames
  have hopened : (openEach h context found.toList bus).failure = none := by
    cases names with
    | nil =>
      obtain rfl : found = ∅ := (Except.ok.inj hf).symm
      rfl
    | cons x names =>
      obtain ⟨hname, hrate⟩ := hgood (List.cons_ne_nil x names)
      refine openEach_succeeds href hrate (exists_layout_of_resolveAll hf) ?_
      rintro ⟨y, d⟩ hy rfl
      exact hname ((getElem?_of_resolveAll hf "" d).mp
        (Std.TreeMap.mem_toList_iff_getElem?_eq_some.mp hy)).1
  refine ⟨⟨(openEach h context found.toList bus).adapters, context, .new skip, ⟨0, 0, 0, 0⟩⟩, ?_⟩
  unfold build
  simp only [hf, hopened]

/-- If a registry is built for some names, one is built for every list of the same names, and
the two are twins. -/
theorem exists_twin_of_build (hsame : ∀ x, x ∈ names' ↔ x ∈ names)
    (hb : (build h names context skip bus).1 = .ok r) (bus' : Bus) :
    ∃ r' ρ, (build h names' context skip bus').1 = .ok r' ∧
      Lockstep allNames .empty bus bus' ρ (build h names context skip bus).2
        (build h names' context skip bus').2 ∧
      r.Twin allNames ρ r' := by
  obtain ⟨found, hf, hnone, _, _⟩ := of_build hb
  have hcan : ∀ x ∈ names', h.CanSend x := fun x hx => exists_of_resolveAll hf ((hsame x).mp hx)
  obtain ⟨found', hf'⟩ := exists_resolveAll hcan
  have hlist : found.toList = found'.toList := by
    refine toList_of_resolveAll hf (pairwise_toList found') ?_
    intro x d
    rw [Std.TreeMap.mem_toList_iff_getElem?_eq_some, getElem?_of_resolveAll hf', hsame]
  have hall : found'.toList = found.toList.filter fun entry => allNames entry.1 :=
    hlist.symm.trans (List.filter_eq_self.mpr fun _ _ => rfl).symm
  rcases build_twin allNames hf hf' hall (Renaming.known_empty bus bus') (.inl hnone) with
    ⟨error, he, _⟩ | ⟨r₁, r', ρ, hr, hr', hstep, htwin⟩
  · rw [hb] at he
    cases he
  · obtain rfl : r = r₁ := Except.ok.inj (hb.symm.trans hr)
    exact ⟨r', ρ, hr', hstep, htwin⟩

/-- Whatever the names, the rate and the space are, a build is all or nothing. If the variable of
some name cannot be sent, the first such name in the list ends the build with its fault. If all can
be sent but one of the names is empty or the rate is bad, the bus refuses a stream. In both cases
the bus is as before. Otherwise there is a new registry with one stream for each name. Lists of
the same names succeed alike on any two buses, and then both registries are the same and publish
the same messages, up to identities. -/
theorem construction_is_all_or_nothing (catalogue : Catalogue) (memory : Memory)
    (names : List String) (context : StreamContext) (skip : UInt32) (bus : Bus) :
    let h := Host.unrestricted catalogue memory
    let made := build h names context skip bus
    ((∃ x ∈ names, ¬h.CanSend x) → ∃ front x rest error, names = front ++ x :: rest ∧
      (∀ y ∈ front, h.CanSend y) ∧ h.Faults x error ∧ made = (.error error, bus)) ∧
    ((∀ x ∈ names, h.CanSend x) → names ≠ [] →
      ("" ∈ names ∨ context.rate.isFiniteNonneg = false) →
      ∃ reason, made = (.error (.outlet reason), bus)) ∧
    ((∀ x ∈ names, h.CanSend x) →
      (names ≠ [] → "" ∉ names ∧ context.rate.isFiniteNonneg = true) →
      ∃ r, made.1 = .ok r ∧ r.IsNew h names context skip bus made.2) ∧
    ∀ (names' : List String) (bus' : Bus), (∀ x, x ∈ names' ↔ x ∈ names) →
      let made' := build h names' context skip bus'
      ((∃ r, made.1 = .ok r) ↔ ∃ r', made'.1 = .ok r') ∧
      ∀ r r', made.1 = .ok r → made'.1 = .ok r' →
        ∃ ρ, SameMessages ρ (made.2.since bus) (made'.2.since bus') ∧ r.Twin allNames ρ r' := by
  intro h made
  have href : ∀ info, h.refusal info = none := fun _ => rfl
  refine ⟨?_, fun hcan hne hbad => build_refused href hcan hne hbad, ?_, ?_⟩
  · intro hfault
    obtain ⟨front, x, rest, error, hsplit, hfront, hx⟩ := Host.exists_first_fault hfault
    refine ⟨front, x, rest, error, hsplit, hfront, hx, ?_⟩
    rw [show made = build h names context skip bus from rfl, hsplit]
    exact build_of_faults hfront hx
  · intro hcan hgood
    obtain ⟨r, hr⟩ := exists_build href hcan hgood
    exact ⟨r, hr, isNew_of_build hr⟩
  · intro names' bus' hsame made'
    refine ⟨⟨?_, ?_⟩, ?_⟩
    · rintro ⟨r, hr⟩
      obtain ⟨r', _, hr', _⟩ := exists_twin_of_build hsame hr bus'
      exact ⟨r', hr'⟩
    · rintro ⟨r', hr'⟩
      obtain ⟨r, _, hr, _⟩ := exists_twin_of_build (fun x => (hsame x).symm) hr' bus
      exact ⟨r, hr⟩
    · intro r r' hr hr'
      obtain ⟨r₁, ρ, hr₁, hstep, htwin⟩ := exists_twin_of_build hsame hr bus'
      obtain rfl : r₁ = r' := Except.ok.inj (hr₁.symm.trans hr')
      exact ⟨ρ, hstep.since_of_allNames, htwin⟩

end Registry

end VariableBridge
