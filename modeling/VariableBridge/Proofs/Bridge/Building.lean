import Mathlib.Data.List.Induction
import VariableBridge.Bridge.Registry
import VariableBridge.Proofs.Stream.Handling

/-!
# Building registries

A registry is built in two passes: every name is resolved, and then one stream
is opened for each name. Main statements: the registry has every name once and
in ascending order, each of its streams carries the metadata of its variable,
and the outlets that are held after a build are those of the registry, or none
if the build failed.
-/

namespace VariableBridge

open Space (Descriptor)

/-- A variable has a layout exactly if its type has one. Its name decides only how the error
reads. -/
theorem layoutFor_eq_ok_iff {name : String} {d : Descriptor} {layout : Layout} :
    layoutFor name d = .ok layout ↔ Layout.ofTag d.tag = some layout := by
  unfold layoutFor
  cases Layout.ofTag d.tag <;> simp

namespace Adapter

/-- The stream of the adapter has the metadata that the name, the layout, the number of
elements and the context of the registry give, and a bus opens such streams. -/
structure IsBound (name : String) (context : StreamContext) (a : Adapter) : Prop where
  /-- The metadata of the stream. -/
  info : a.outlet.info = streamInfo name a.layout a.count context
  /-- Nothing speaks against streams with this name in this context. -/
  openable : Bus.objection a.outlet.info = none

/-- The stream of an adapter carries the name that the adapter is bound to, which is the name of its
variable. -/
theorem IsBound.name_eq {name : String} {context : StreamContext} {a : Adapter}
    (h : a.IsBound name context) : a.outlet.info.name = name := by
  rw [h.info]
  rfl

/-- The adapter sends what the descriptor describes, over a stream that fits it. -/
structure Shows (a : Adapter) (d : Descriptor) : Prop where
  /-- The types agree. -/
  tag : a.tag = d.tag
  /-- The stream has a channel for each value. -/
  channels : a.channels = d.channels
  /-- The adapter reads where the elements lie. -/
  address : a.address = d.address

variable {h : Host} {name : String} {d : Descriptor} {context : StreamContext} {bus bus' : Bus}
  {a : Adapter}

/-- What a new adapter is made of: the layout of the type, address and count of the variable, and a
stream just announced. -/
theorem of_create (hc : create h name d context bus = .ok (a, bus')) :
    Layout.ofTag d.tag = some a.layout ∧ a.address = d.address ∧ a.count = d.count ∧
      a.IsBound name context ∧ a.outlet = (bus.announce a.outlet.info).1 ∧
      bus' = (bus.announce a.outlet.info).2 := by
  unfold create at hc
  cases hl : layoutFor name d with
  | error error => simp [hl] at hc
  | ok layout =>
    simp only [hl, Host.openStream, Bus.createOutlet] at hc
    cases hr : h.refusal (streamInfo name layout d.count context) with
    | some error => simp [hr] at hc
    | none =>
      cases ho : Bus.objection (streamInfo name layout d.count context) with
      | some error => simp [hr, ho] at hc
      | none =>
        simp only [hr, ho, Except.ok.injEq, Prod.mk.injEq] at hc
        obtain ⟨rfl, rfl⟩ := hc
        exact ⟨layoutFor_eq_ok_iff.mp hl, rfl, rfl, ⟨rfl, ho⟩, rfl, rfl⟩

/-- A new adapter shows the descriptor it was made for, so a pass directly after it keeps it. -/
theorem shows_of_create (hc : create h name d context bus = .ok (a, bus')) : a.Shows d := by
  obtain ⟨hl, ha, hn, hb, _, _⟩ := of_create hc
  have ht : a.layout.tag = d.tag := Layout.ofTag_eq_some_iff.mp hl
  refine ⟨ht, ?_, ha⟩
  rw [channels, hb.info]
  change saturatingMul a.count a.layout.tag.channelsPerElement = d.channels
  rw [hn, ht]
  rfl

/-- A stream is opened if the type can be sent and neither the host nor the bus objects. -/
theorem exists_create (bus : Bus) {layout : Layout} (hl : Layout.ofTag d.tag = some layout)
    (hr : ∀ info, h.refusal info = none)
    (ho : Bus.objection (streamInfo name layout d.count context) = none) :
    ∃ a bus', create h name d context bus = .ok (a, bus') := by
  let opened := bus.announce (streamInfo name layout d.count context)
  refine ⟨⟨opened.1, d.address, d.count, layout⟩, opened.2, ?_⟩
  unfold create
  simp only [layoutFor_eq_ok_iff.mpr hl, Host.openStream, Bus.createOutlet, hr, ho]
  rfl

end Adapter

/-- Whether a bus opens a stream does not hang on the layout and the number of elements. -/
theorem objection_streamInfo (name : String) (l l' : Layout) (n n' : UInt32)
    (context : StreamContext) :
    Bus.objection (streamInfo name l n context) = Bus.objection (streamInfo name l' n' context) :=
  rfl

/-- One more name is looked up after all the others and must be of a type that can be sent. -/
theorem of_resolveAll_concat {h : Host} {names : List String} {name : String}
    {found : Std.TreeMap String Descriptor} (hf : resolveAll h (names ++ [name]) = .ok found) :
    ∃ before d layout, resolveAll h names = .ok before ∧ h.catalogue.resolve name = .ok d ∧
      layoutFor name d = .ok layout ∧ found = before.insert name d := by
  rw [resolveAll, List.foldlM_append] at hf
  change (resolveAll h names).bind _ = _ at hf
  cases hr : resolveAll h names with
  | error error => simp [hr, Except.bind] at hf
  | ok before =>
    simp only [hr, Except.bind, List.foldlM_cons, List.foldlM_nil] at hf
    cases hd : h.catalogue.resolve name with
    | error error => simp [hd, bind, Except.bind] at hf
    | ok d =>
      cases hl : layoutFor name d with
      | error error => simp [hd, hl, bind, Except.bind] at hf
      | ok layout =>
        simp only [hd, hl, bind, Except.bind, pure, Except.pure, Except.ok.injEq] at hf
        exact ⟨before, d, layout, rfl, rfl, hl, hf.symm⟩

/-- Exactly the given names are found, each with its present descriptor. -/
theorem getElem?_of_resolveAll {h : Host} {names : List String}
    {found : Std.TreeMap String Descriptor} (hf : resolveAll h names = .ok found) (x : String)
    (d : Descriptor) : found[x]? = some d ↔ x ∈ names ∧ h.catalogue.resolve x = .ok d := by
  induction names using List.reverseRecOn generalizing found d with
  | nil =>
    have he : found = ∅ := (Except.ok.inj hf).symm
    simp [he]
  | append_singleton names name ih =>
    obtain ⟨before, last, layout, hr, hd, _, rfl⟩ := of_resolveAll_concat hf
    rw [Std.TreeMap.getElem?_insert, List.mem_append, List.mem_singleton]
    by_cases hx : x = name
    · subst hx
      simp [hd]
    · have hne : compare name x ≠ .eq := by
        intro he
        exact hx (Std.LawfulEqOrd.eq_of_compare he).symm
      rw [if_neg hne, ih hr]
      simp [hx]

/-- Every given name stands for a variable of a type that can be sent. -/
theorem exists_of_resolveAll {h : Host} {names : List String}
    {found : Std.TreeMap String Descriptor} (hf : resolveAll h names = .ok found) {x : String}
    (hx : x ∈ names) :
    ∃ d layout, h.catalogue.resolve x = .ok d ∧ Layout.ofTag d.tag = some layout := by
  induction names using List.reverseRecOn generalizing found with
  | nil => cases hx
  | append_singleton names name ih =>
    obtain ⟨before, d, layout, hr, hd, hl, _⟩ := of_resolveAll_concat hf
    rcases List.mem_append.mp hx with hx | hx
    · exact ih hr hx
    · rw [List.mem_singleton.mp hx]
      exact ⟨d, layout, hd, layoutFor_eq_ok_iff.mp hl⟩

/-- Descriptors are found in ascending order of their names, which is why the names of a registry
ascend. -/
theorem pairwise_toList (found : Std.TreeMap String Descriptor) :
    found.toList.Pairwise fun p q => p.1 < q.1 := by
  refine Std.TreeMap.ordered_keys_toList.imp ?_
  intro p q hlt
  exact compareOfLessAndEq_eq_lt.mp hlt

section Opening

variable (h : Host) (context : StreamContext)

/-- If no stream is refused, there is one adapter for each descriptor, in the same order. -/
theorem openEach_names {ds : List (String × Descriptor)} {bus : Bus}
    (hf : (openEach h context ds bus).failure = none) :
    (openEach h context ds bus).adapters.map Prod.fst = ds.map Prod.fst := by
  induction ds generalizing bus with
  | nil => rfl
  | cons entry rest ih =>
    obtain ⟨name, d⟩ := entry
    unfold openEach at hf ⊢
    cases hc : Adapter.create h name d context bus with
    | error error => simp [hc] at hf
    | ok made =>
      simp only [hc] at hf
      simp only [List.map_cons]
      rw [ih hf]

/-- All streams that were opened carry the metadata of their variables. -/
theorem openEach_bound (ds : List (String × Descriptor)) (bus : Bus) :
    ∀ entry ∈ (openEach h context ds bus).adapters, entry.2.IsBound entry.1 context := by
  induction ds generalizing bus with
  | nil => simp [openEach]
  | cons entry rest ih =>
    obtain ⟨name, d⟩ := entry
    unfold openEach
    cases hc : Adapter.create h name d context bus with
    | error error => simp
    | ok made =>
      intro entry he
      rcases List.mem_cons.mp he with rfl | he
      · obtain ⟨_, _, _, hb, _, _⟩ := Adapter.of_create hc
        exact hb
      · exact ih made.2 entry he

/-- The outlets of all streams that were opened are held by the adapters, also behind a stream that
was refused. -/
theorem openEach_handling (kept : List String) (ds : List (String × Descriptor)) (bus : Bus) :
    Handling kept [] bus ((openEach h context ds bus).adapters.map fun entry => entry.2.outlet)
      (openEach h context ds bus).bus := by
  induction ds generalizing bus with
  | nil => exact .idle
  | cons entry rest ih =>
    obtain ⟨name, d⟩ := entry
    unfold openEach
    cases hc : Adapter.create h name d context bus with
    | error error => exact .idle
    | ok made =>
      obtain ⟨_, _, _, _, ho, hb⟩ := Adapter.of_create hc
      have hfirst : Handling kept [] bus [made.1.outlet] made.2 := by
        rw [ho, hb]
        exact Handling.idle.step (.opened [] bus made.1.outlet.info)
      have hrest := (ih made.2).frame [made.1.outlet]
      exact hfirst.trans (hrest.of_perm (List.Perm.refl _) List.perm_append_comm)

end Opening

/-- Closing the streams of some outlets leaves the others, which must carry each of the names that
are to be kept. -/
theorem closeAll_handling {kept : List String} {os rest : List Outlet} (bus : Bus)
    (hc : ∀ o ∈ os, o.info.name ∈ kept → ∃ p ∈ rest, p.info.name = o.info.name) :
    Handling kept (os ++ rest) bus rest (bus.closeAll os) := by
  induction os generalizing bus with
  | nil => exact .idle
  | cons o os ih =>
    have hfirst : Handling kept (o :: os ++ rest) bus (os ++ rest) (bus.close o) := by
      refine Handling.idle.step (.closed o _ bus ?_)
      intro hk
      obtain ⟨p, hp, hn⟩ := hc o List.mem_cons_self hk
      exact ⟨p, List.mem_append_right _ hp, hn⟩
    refine hfirst.trans (ih (bus.close o) ?_)
    intro p hp
    exact hc p (List.mem_cons_of_mem _ hp)

/-- Each stream that is closed says so once, in the order of the list, and the log gets nothing
else. -/
theorem Bus.log_closeAll (bus : Bus) (os : List Outlet) :
    (bus.closeAll os).log.toList =
      bus.log.toList ++ os.map fun o => .closed o.id o.info.name := by
  induction os generalizing bus with
  | nil => simp [closeAll]
  | cons o os ih =>
    change ((bus.close o).closeAll os).log.toList = _
    rw [ih, log_close, Array.toList_push, List.append_assoc]
    rfl

/-- The outlets of several registries. -/
def outletsOf (rs : List Registry) : List Outlet := rs.flatMap Registry.outlets

/-- Closing some registries closes all their streams one after the other, so facts about lists of
outlets apply. -/
theorem closeRegistries_eq_closeAll (rs : List Registry) (bus : Bus) :
    closeRegistries rs bus = bus.closeAll (outletsOf rs) := by
  induction rs generalizing bus with
  | nil => rfl
  | cons r rs ih =>
    change closeRegistries rs (r.close bus) = _
    rw [ih]
    simp [outletsOf, Registry.close, Bus.closeAll, List.foldl_append]

/-- The outlets of two lists of registries together are those of the first list and then those of
the second. -/
theorem outletsOf_append (rs rs' : List Registry) :
    outletsOf (rs ++ rs') = outletsOf rs ++ outletsOf rs' :=
  List.flatMap_append

/-- Registries may be dropped if the outlets that are left carry all kept names. -/
theorem closeRegistries_handling {kept : List String} {rest : List Outlet}
    (hc : Carries rest kept) (rs : List Registry) (bus : Bus) :
    Handling kept (outletsOf rs ++ rest) bus rest (closeRegistries rs bus) := by
  rw [closeRegistries_eq_closeAll]
  apply closeAll_handling bus
  intro o _ hk
  exact hc o.info.name hk

namespace Registry

/-- Every name has one adapter, in ascending order, and each adapter is bound to its name
in the context of the registry. -/
structure IsSound (r : Registry) : Prop where
  /-- The names ascend. -/
  ordered : r.names.Pairwise (· < ·)
  /-- The streams carry the metadata of their variables. -/
  bound : ∀ entry ∈ r.adapters, entry.2.IsBound entry.1 r.context

variable {h : Host} {names : List String} {context : StreamContext} {skip : UInt32} {bus : Bus}

/-- What a build gives, if it gives a registry: all descriptors were found, and all their streams
could be opened. -/
theorem of_build {r : Registry} (hb : (build h names context skip bus).1 = .ok r) :
    ∃ found, resolveAll h names = .ok found ∧
      (openEach h context found.toList bus).failure = none ∧
      r = ⟨(openEach h context found.toList bus).adapters, context, .new skip, ⟨0, 0, 0, 0⟩⟩ ∧
      (build h names context skip bus).2 = (openEach h context found.toList bus).bus := by
  unfold build at hb ⊢
  cases hf : resolveAll h names with
  | error error => simp [hf] at hb
  | ok found =>
    cases ho : (openEach h context found.toList bus).failure with
    | some error => simp [hf, ho] at hb
    | none =>
      simp only [hf, ho, Except.ok.injEq] at hb
      exact ⟨found, rfl, ho, hb.symm, by simp only [ho]⟩

/-- A registry that was built is sound: its names ascend, and each adapter is bound to the name that
it stands under. -/
theorem isSound_of_build {r : Registry} (hb : (build h names context skip bus).1 = .ok r) :
    r.IsSound := by
  obtain ⟨found, _, ho, rfl, _⟩ := of_build hb
  refine ⟨?_, openEach_bound h context found.toList bus⟩
  change List.Pairwise _ (List.map _ _)
  rw [openEach_names h context ho, List.pairwise_map]
  exact pairwise_toList found

/-- A registry that was built has exactly the names it was built for, however often and in which
order they were given. -/
theorem mem_names_of_build {r : Registry} (hb : (build h names context skip bus).1 = .ok r)
    {x : String} : x ∈ r.names ↔ x ∈ names := by
  obtain ⟨found, hf, ho, rfl, _⟩ := of_build hb
  change x ∈ List.map _ _ ↔ _
  rw [openEach_names h context ho, List.mem_map]
  constructor
  · rintro ⟨⟨y, d⟩, hm, rfl⟩
    exact ((getElem?_of_resolveAll hf y d).mp
      (Std.TreeMap.mem_toList_iff_getElem?_eq_some.mp hm)).1
  · intro hx
    obtain ⟨d, _, hd, _⟩ := exists_of_resolveAll hf hx
    refine ⟨(x, d), ?_, rfl⟩
    rw [Std.TreeMap.mem_toList_iff_getElem?_eq_some]
    exact (getElem?_of_resolveAll hf x d).mpr ⟨hx, hd⟩

/-- A build hands the rate and the source on as they were given, so every stream of the registry has
them. -/
theorem context_of_build {r : Registry} (hb : (build h names context skip bus).1 = .ok r) :
    r.context = context := by
  obtain ⟨found, _, _, rfl, _⟩ := of_build hb
  rfl

/-- A registry that was built has the skip it was built with, which its throttle counts down from
after each cycle that sends. -/
theorem skip_of_build {r : Registry} (hb : (build h names context skip bus).1 = .ok r) :
    r.skip = skip := by
  obtain ⟨found, _, _, rfl, _⟩ := of_build hb
  rfl

/-- After a build the outlets of the registry are held besides those before. A failed
build leaves nothing; its streams may be closed because all kept names had a stream before. -/
theorem build_handling {kept : List String} {rest : List Outlet} (hc : Carries rest kept) :
    Handling kept rest bus
      (outletsOf (build h names context skip bus).1.toOption.toList ++ rest)
      (build h names context skip bus).2 := by
  unfold build
  cases hf : resolveAll h names with
  | error error => exact .idle
  | ok found =>
    have hopen := (openEach_handling h context kept found.toList bus).frame rest
    cases ho : (openEach h context found.toList bus).failure with
    | some error =>
      simp only [ho]
      refine hopen.trans (closeAll_handling _ ?_)
      intro o _ hk
      exact hc o.info.name hk
    | none =>
      simp only [ho]
      refine hopen.of_perm (List.Perm.refl _) ?_
      simp [outletsOf, outlets, Except.toOption]

end Registry

end VariableBridge
