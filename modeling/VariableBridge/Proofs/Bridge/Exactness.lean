import VariableBridge.Proofs.Bridge.LiveData

/-!
# How exact a pass is

A pass compares types, channels and addresses; the number of elements that an
adapter reads is only compared through the channels. Main statements: over any
spaces and histories, a pass without failure leaves every adapter with the type,
the address and the channels of the live variable; and it leaves the live number
of elements too, unless both numbers are those of complex variables whose
channels can no longer be counted in 32 bits. Then the old number stays.
-/

namespace VariableBridge

open Space (Descriptor sizeLimit)

/-- Numbers of elements with equally many channels are equal, unless they are numbers of
complex elements and neither number of channels fits into 32 bits. -/
theorem Layout.channels_eq_iff {layout : Layout} {n n' : UInt32} :
    layout.channels n = layout.channels n' ↔
      n = n' ∨ (layout = .complex ∧ sizeLimit ≤ n.toNat ∧ sizeLimit ≤ n'.toNat) := by
  have hlt := n.toNat_lt
  have hlt' := n'.toNat_lt
  have hchannels (k : UInt32) : (layout.channels k).toNat =
      min (k.toNat * layout.tag.channelsPerElement.toNat) (UInt32.size - 1) :=
    toNat_saturatingMul k layout.tag.channelsPerElement
  constructor
  · intro h
    have heq := congrArg UInt32.toNat h
    rw [hchannels, hchannels] at heq
    cases layout with
    | complex =>
      change min (n.toNat * 2) (4294967296 - 1) = min (n'.toNat * 2) (4294967296 - 1) at heq
      by_cases hn : n.toNat = n'.toNat
      · exact .inl (UInt32.toNat.inj hn)
      · right
        unfold sizeLimit
        exact ⟨rfl, by omega, by omega⟩
    | _ =>
      left
      change min (n.toNat * 1) (4294967296 - 1) = min (n'.toNat * 1) (4294967296 - 1) at heq
      apply UInt32.toNat.inj
      omega
  · rintro (rfl | ⟨rfl, hn, hn'⟩)
    · rfl
    · unfold sizeLimit at hn hn'
      apply UInt32.toNat.inj
      rw [hchannels, hchannels]
      change min (n.toNat * 2) (4294967296 - 1) = min (n'.toNat * 2) (4294967296 - 1)
      omega

namespace Adapter

variable {h : Host} {name : String} {context : StreamContext} {a : Adapter} {bus : Bus}
  {visit : Visit} {live : Descriptor}

/-- Does the adapter read another number of elements than the variable has, though the numbers
of channels agree? -/
structure IsStale (a : Adapter) (live : Descriptor) : Prop where
  /-- Each element fills two channels. -/
  layout : a.layout = .complex
  /-- The type has not changed. -/
  tag : live.tag = .complex
  /-- The number of elements has. -/
  count : a.count ≠ live.count
  /-- The channels of the adapter cannot be counted. -/
  many : sizeLimit ≤ a.count.toNat
  /-- Neither can those of the variable. -/
  manyLive : sizeLimit ≤ live.count.toNat

/-- The stream of a bound adapter has the channels of its elements. -/
theorem IsBound.channels_eq (hb : a.IsBound name context) :
    a.channels = a.layout.channels a.count := by
  rw [channels, hb.info]
  rfl

/-- An adapter fits a variable exactly if it has its type and its number of elements, or is
stale. -/
theorem IsBound.fits_iff (hb : a.IsBound name context) :
    a.fits live = true ↔ a.tag = live.tag ∧ a.count = live.count ∨ a.IsStale live := by
  rw [Adapter.fits_iff, hb.channels_eq]
  constructor
  · rintro ⟨htag, hchannels⟩
    have hlive : live.channels = a.layout.channels live.count := by
      rw [Descriptor.channels, ← htag]
      rfl
    rw [hlive] at hchannels
    rcases Layout.channels_eq_iff.mp hchannels with hcount | ⟨hlayout, hmany, hmanyLive⟩
    · exact .inl ⟨htag, hcount⟩
    · by_cases hcount : a.count = live.count
      · exact .inl ⟨htag, hcount⟩
      · refine .inr ⟨hlayout, ?_, hcount, hmany, hmanyLive⟩
        rw [← htag, tag, hlayout]
        rfl
  · have hfits (htag : a.tag = live.tag)
        (hsame : a.layout.channels a.count = a.layout.channels live.count) :
        a.tag = live.tag ∧ a.layout.channels a.count = live.channels := by
      refine ⟨htag, hsame.trans ?_⟩
      rw [Descriptor.channels, ← htag]
      rfl
    rintro (⟨htag, hcount⟩ | hstale)
    · exact hfits htag (congrArg _ hcount)
    · have hsame : a.layout.channels a.count = a.layout.channels live.count :=
        Layout.channels_eq_iff.mpr (.inr ⟨hstale.layout, hstale.many, hstale.manyLive⟩)
      refine hfits ?_ hsame
      rw [tag, hstale.layout, hstale.tag]
      rfl

/-- A visit gives the adapter the live number of elements, unless the adapter was stale. -/
theorem IsBound.count_of_reconcileOne (hb : a.IsBound name context)
    (hv : reconcileOne h context name a bus = .ok visit)
    (hr : h.catalogue.resolve name = .ok live) :
    visit.adapter.count = live.count ↔ ¬a.IsStale live := by
  obtain ⟨live', hr', hcases⟩ := of_reconcileOne hv
  obtain rfl : live' = live := Except.ok.inj (hr'.symm.trans hr)
  have hkept (hf : a.fits live' = true) : a.count = live'.count ↔ ¬a.IsStale live' := by
    constructor
    · intro hcount hstale
      exact hstale.count hcount
    · intro hfresh
      exact ((hb.fits_iff.mp hf).resolve_right hfresh).2
  rcases hcases with ⟨hf, _, rfl⟩ | ⟨hf, _, rfl⟩ | ⟨hf, built, bus', hc, rfl⟩
  · exact hkept hf
  · exact hkept hf
  · obtain ⟨_, _, hcount, _⟩ := of_create hc
    refine iff_of_true hcount ?_
    intro hstale
    rw [hb.fits_iff.mpr (.inr hstale)] at hf
    cases hf

/-- What an adapter takes its variable for: it reads so many elements of this type there. -/
def descriptor (a : Adapter) : Descriptor := ⟨a.tag, a.count, a.address⟩

/-- What a pass makes of an adapter: it shows the live variable, and it reads the live number
of elements at the live address exactly if the adapter before it was not stale. -/
structure Follows (h : Host) (name : String) (before after : Adapter) (live : Descriptor) :
    Prop where
  /-- The variable is the live one. -/
  found : h.catalogue.resolve name = .ok live
  /-- Type, channels and address are those of the variable. -/
  shows : after.Shows live
  /-- So is the number of elements, unless it was stale. -/
  count : after.count = live.count ↔ ¬before.IsStale live
  /-- With that number the next sample is the whole variable. -/
  values : ¬before.IsStale live → ∀ m,
    after.values m = valuesAt m live.address after.layout live.count.toNat
  /-- All the elements that it reads lie in memory, if those of the variable do. -/
  held : ¬before.IsStale live → ∀ m, live.IsHeldBy m → after.descriptor.IsHeldBy m

/-- A visit without failure follows the variable that it has looked up. -/
theorem IsBound.follows (hb : a.IsBound name context)
    (hv : reconcileOne h context name a bus = .ok visit) :
    ∃ live, Follows h name a visit.adapter live := by
  obtain ⟨live, hr, hshows⟩ := shows_of_reconcileOne hv
  have hcount := hb.count_of_reconcileOne hv hr
  refine ⟨live, hr, hshows, hcount, ?_, ?_⟩
  · intro hfresh m
    rw [Adapter.values, hshows.address, hcount.mpr hfresh]
  · intro hfresh m hheld
    rwa [descriptor, hshows.tag, hcount.mpr hfresh, hshows.address]

end Adapter

/-- A pass without failure follows every variable: each adapter is compared with the one that stood
in its place. -/
theorem reconcileEach_follows (h : Host) (context : StreamContext) {l : List (String × Adapter)}
    {bus : Bus} (hb : ∀ entry ∈ l, entry.2.IsBound entry.1 context)
    (hf : (reconcileEach h context l bus).failure = none) :
    List.Forall₂ (fun before after => after.1 = before.1 ∧
        ∃ live, Adapter.Follows h before.1 before.2 after.2 live)
      l (reconcileEach h context l bus).adapters := by
  induction l generalizing bus with
  | nil => exact .nil
  | cons entry rest ih =>
    obtain ⟨name, a⟩ := entry
    cases hv : reconcileOne h context name a bus with
    | error error => simp [reconcileEach_stop h context hv] at hf
    | ok visit =>
      obtain ⟨hadapters, hfailure, _⟩ := reconcileEach_cons h context rest hv
      rw [hfailure] at hf
      rw [hadapters]
      have hfirst := (hb _ List.mem_cons_self).follows hv
      exact .cons ⟨rfl, hfirst⟩ (ih (fun e he => hb e (List.mem_cons_of_mem _ he)) hf)

namespace Registry

/-- The registries that a registry built for these names can come to, whatever the variable
spaces are that it is built over, reconciled with and run over. -/
inductive Past (names : List String) (context : StreamContext) (skip : UInt32) :
    Registry → Prop where
  /-- The registry was built. -/
  | built {r : Registry} (h : Host) (bus : Bus)
    (hb : (build h names context skip bus).1 = .ok r) : Past names context skip r
  /-- The registry was reconciled, with success or not. -/
  | reconciled {r : Registry} (hp : Past names context skip r) (h : Host) (bus : Bus) :
    Past names context skip (r.reconcile h bus).state
  /-- The registry went through a cycle, with success or not. -/
  | cycled {r : Registry} (hp : Past names context skip r) (h : Host) (bus : Bus) :
    Past names context skip (r.process h bus).state

variable {names : List String} {context : StreamContext} {skip : UInt32} {r : Registry}

/-- A registry with a past is sound, because a build makes it sound and every cycle keeps it so. -/
theorem Past.isSound (hp : Past names context skip r) : r.IsSound := by
  induction hp with
  | built h bus hb => exact isSound_of_build hb
  | reconciled _ h bus ih => exact isSound_reconcile h bus ih
  | cycled _ h bus ih => exact isSound_process h bus ih

/-- A pass over the adapters that is successful has seen every one of them and has failed at
none. -/
theorem failure_of_reconcile_ok {h : Host} {bus : Bus}
    (hok : (r.reconcile h bus).result = .ok ()) :
    (reconcileEach h r.context r.adapters bus).failure = none := by
  simp only [reconcile] at hok
  cases hf : (reconcileEach h r.context r.adapters bus).failure with
  | none => rfl
  | some error =>
    rw [hf] at hok
    cases hok

/-- Whatever happened to the registry and whatever the space is: after a reconciliation without
failure each adapter has the type, the channels and the address of its live variable, and it
has the live number of elements, so that the next sample is the whole variable, exactly if the
adapter before it was not stale. -/
theorem reconcile_is_exact_unless_stale (hp : Past names context skip r) (h : Host) (bus : Bus)
    (hok : (r.reconcile h bus).result = .ok ()) :
    List.Forall₂ (fun before after => after.1 = before.1 ∧
        ∃ live, Adapter.Follows h before.1 before.2 after.2 live)
      r.adapters (r.reconcile h bus).state.adapters :=
  reconcileEach_follows h r.context hp.isSound.bound (failure_of_reconcile_ok hok)

end Registry

/-- The space after a spectrum of so many elements was put into it, in a buffer of its own that
has memory for all of them. -/
def Space.withSpectrum (s : Space) (n : Nat) : Space :=
  s.insert "spec" (.complex (List.replicate n default))

namespace Space

variable (s : Space) {n : Nat}

/-- The spectrum gets a new block. All that the space knows of it is the number of its elements
and the number of the block, so that nothing below has to look at the elements. -/
theorem withSpectrum_eq (hn : 0 < n) :
    s.withSpectrum n =
      { s with
        memory := (s.memory.allocate (Buffer.complex (List.replicate n default)).words).1
        entries := s.entries.insert "spec" (.owned ⟨.complex, n, .word s.memory.blocks.size 0⟩)
        retired := s.retiredWith "spec" } := by
  have hlength : (Buffer.complex (List.replicate n default)).length = n := List.length_replicate
  have hfull : ¬(Buffer.complex (List.replicate n default)).isEmpty = true := by
    simp only [Buffer.isEmpty, hlength, beq_iff_eq]
    omega
  unfold withSpectrum Space.insert store
  rw [if_neg hfull, hlength]
  rfl

/-- A spectrum neither makes a space usable nor makes it unusable. -/
theorem valid_withSpectrum (n : Nat) : (s.withSpectrum n).valid = s.valid := rfl

/-- The spectrum takes one more block, whatever the number of its elements is. -/
theorem blocks_withSpectrum (hn : 0 < n) :
    (s.withSpectrum n).memory.blocks.size = s.memory.blocks.size + 1 := by
  rw [s.withSpectrum_eq hn]
  exact Array.size_push _

/-- The spectrum is found with its reported number of elements, at the start of the new block. -/
theorem lookup_withSpectrum (hs : s.valid = true) (hn : 0 < n) :
    (s.withSpectrum n).lookup "spec" =
      .ok ⟨.complex, reportedCount n, .word s.memory.blocks.size 0⟩ := by
  rw [s.withSpectrum_eq hn]
  exact lookup_eq_ok_iff.mpr ⟨hs, _, Std.TreeMap.getElem?_insert_self, rfl⟩

/-- A space that holds its variables holds the spectrum, too, however large it is. -/
theorem HoldsVariables.withSpectrum {s : Space} (h : s.HoldsVariables) (n : Nat) :
    (s.withSpectrum n).HoldsVariables :=
  h.insert "spec" (.complex (List.replicate n default))

end Space

/-- A space whose spectrum has `2 ^ 31 + 1` elements. -/
def hugeSpectrum : Space := Space.empty.withSpectrum 2147483649

/-- The same space after the spectrum was replaced by one with an element less. -/
def shrunkSpectrum : Space := hugeSpectrum.withSpectrum 2147483648

/-- Both spaces keep the contract of their descriptors: every element lies in memory. -/
theorem holdsVariables_spectra : hugeSpectrum.HoldsVariables ∧ shrunkSpectrum.HoldsVariables := by
  have hhuge : hugeSpectrum.HoldsVariables := Space.holdsVariables_empty.withSpectrum 2147483649
  exact ⟨hhuge, hhuge.withSpectrum 2147483648⟩

/-- The huge spectrum lies in the first block, and its number of elements still fits the
descriptor. -/
theorem lookup_hugeSpectrum :
    hugeSpectrum.lookup "spec" = .ok ⟨.complex, 2147483649, .word 0 0⟩ :=
  Space.empty.lookup_withSpectrum rfl (show 0 < 2147483649 by decide)

/-- The spectrum that replaced it lies in the second block, so type, channels and address tell a
move and no other size. -/
theorem lookup_shrunkSpectrum :
    shrunkSpectrum.lookup "spec" = .ok ⟨.complex, 2147483648, .word 1 0⟩ := by
  have hplace := Space.empty.blocks_withSpectrum (show 0 < 2147483649 by decide)
  have hvalid := Space.empty.valid_withSpectrum 2147483649
  have hlookup := hugeSpectrum.lookup_withSpectrum hvalid (show 0 < 2147483648 by decide)
  unfold hugeSpectrum at hlookup
  rw [hplace] at hlookup
  exact hlookup

namespace Registry

/-- What a registry for the spectrum has in common. -/
def rigContext : StreamContext := ⟨.ofNat 100, "rig"⟩

/-- The adapter of the spectrum while it is still huge. -/
def hugeAdapter : Adapter :=
  ⟨⟨⟨0⟩, streamInfo "spec" .complex 2147483649 rigContext, 0⟩, .word 0 0, 2147483649, .complex⟩

/-- The registry that is built while the spectrum is still huge. -/
def hugeRegistry : Registry := ⟨[("spec", hugeAdapter)], rigContext, .new 0, ⟨0, 0, 0, 0⟩⟩

/-- Whatever the space is that has the huge spectrum, the registry is built: only the answer to
the look-up counts, and no element of the spectrum is looked at. -/
theorem build_hugeRegistry {s : Space}
    (hs : s.lookup "spec" = .ok ⟨.complex, 2147483649, .word 0 0⟩) :
    (build (.ofSpace s) ["spec"] rigContext 0 (.new 4)).1 = .ok hugeRegistry := by
  have hresolve : (Host.ofSpace s).catalogue.resolve "spec" =
      .ok ⟨.complex, 2147483649, .word 0 0⟩ := Catalogue.resolve_ofSpace hs
  have hall : resolveAll (.ofSpace s) ["spec"] =
      .ok ((∅ : Std.TreeMap String Descriptor).insert "spec"
        ⟨.complex, 2147483649, .word 0 0⟩) := by
    simp only [resolveAll, List.foldlM_cons, hresolve]
    rfl
  unfold build
  rw [hall]
  rfl

/-- The pass moves the adapter to the second block and leaves it its number of elements. -/
theorem reconcile_hugeRegistry {s : Space}
    (hs : s.lookup "spec" = .ok ⟨.complex, 2147483648, .word 1 0⟩) (bus : Bus) :
    (hugeRegistry.reconcile (.ofSpace s) bus).result = .ok () ∧
      (hugeRegistry.reconcile (.ofSpace s) bus).state.adapters =
        [("spec", hugeAdapter.setAddress (.word 1 0))] := by
  have hresolve : (Host.ofSpace s).catalogue.resolve "spec" =
      .ok ⟨.complex, 2147483648, .word 1 0⟩ := Catalogue.resolve_ofSpace hs
  have hplan : planFor hugeAdapter ⟨.complex, 2147483648, .word 1 0⟩ = .repoint := by decide
  have hvisit : reconcileOne (.ofSpace s) rigContext "spec" hugeAdapter bus =
      .ok ⟨.repoint, hugeAdapter.setAddress (.word 1 0), bus⟩ := by
    simp only [reconcileOne, hresolve, hplan]
  simp [reconcile, hugeRegistry, reconcileEach, hvisit]

/-- A spectrum that has moved and lost one of its `2 ^ 31 + 1` elements is followed to its new
place, but not in its number of elements. -/
theorem reconcile_of_shrunk_spectrum :
    Past ["spec"] rigContext 0 hugeRegistry ∧
      (hugeRegistry.reconcile (.ofSpace shrunkSpectrum) (.new 4)).result = .ok () ∧
      List.Forall₂ (fun before after => after.1 = before.1 ∧
          ∃ live, Adapter.Follows (.ofSpace shrunkSpectrum) before.1 before.2 after.2 live)
        hugeRegistry.adapters
        (hugeRegistry.reconcile (.ofSpace shrunkSpectrum) (.new 4)).state.adapters := by
  have hpast : Past ["spec"] rigContext 0 hugeRegistry :=
    .built (.ofSpace hugeSpectrum) (.new 4) (build_hugeRegistry lookup_hugeSpectrum)
  have hok := (reconcile_hugeRegistry lookup_shrunkSpectrum (.new 4)).1
  exact ⟨hpast, hok, reconcile_is_exact_unless_stale hpast (.ofSpace shrunkSpectrum) (.new 4) hok⟩

/-- A reconciliation without failure can leave an adapter with more elements than its live
variable has, though a registry is built over one space and at once reconciled with another, and
though both spaces have every element of their variables in memory. -/
theorem not_every_reconciliation_is_exact :
    ¬∀ (s s' : Space), s.HoldsVariables → s'.HoldsVariables →
      ∀ (names : List String) (context : StreamContext) (skip : UInt32) (bus : Bus) (r : Registry),
      (build (.ofSpace s) names context skip bus).1 = .ok r →
      (r.reconcile (.ofSpace s') (build (.ofSpace s) names context skip bus).2).result = .ok () →
      ∀ entry ∈ (r.reconcile (.ofSpace s')
        (build (.ofSpace s) names context skip bus).2).state.adapters, ∃ live,
        s'.lookup entry.1 = .ok live ∧ entry.2.tag = live.tag ∧ entry.2.count = live.count ∧
        entry.2.address = live.address ∧ entry.2.channels = live.channels := by
  intro hall
  obtain ⟨hhuge, hshrunk⟩ := holdsVariables_spectra
  have hentry := hall hugeSpectrum shrunkSpectrum hhuge hshrunk ["spec"] rigContext 0 (.new 4)
    hugeRegistry (build_hugeRegistry lookup_hugeSpectrum)
    (reconcile_hugeRegistry lookup_shrunkSpectrum _).1
  rw [(reconcile_hugeRegistry lookup_shrunkSpectrum _).2] at hentry
  obtain ⟨live, hlive, _, hcount, _⟩ := hentry _ List.mem_cons_self
  obtain rfl : (⟨.complex, 2147483648, .word 1 0⟩ : Descriptor) = live :=
    Except.ok.inj (lookup_shrunkSpectrum.symm.trans hlive)
  exact absurd hcount (by decide)

end Registry

end VariableBridge
