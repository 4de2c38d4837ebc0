import Mathlib.Data.List.Sort
import VariableBridge.Demo.Pipeline
import VariableBridge.Proofs.Space.Separation

/-!
# The variables of the simulated host

The host keeps four buffers of fixed types and sizes. Main statements: each cycle
gives every variable its content of that cycle; only the spectrum ever moves, and
it moves exactly in the cycles that reallocate it while it has bins; and there is
never more than one retired buffer.
-/

namespace VariableBridge.Demo

open Number (Double Single)
open Space (Address Buffer BufferKind Change Element OwnedBuffer sizeLimit)

/-- The variables of the host. -/
inductive Variable where
  /-- The number of the cycle. -/
  | frame
  /-- The constant gain. -/
  | gain
  /-- The swinging levels. -/
  | level
  /-- The turning spectrum. -/
  | spectrum
  deriving DecidableEq, Repr

namespace Variable

/-- All variables, in ascending order of their names. -/
def all : List Variable := [.frame, .gain, .level, .spectrum]

/-- The name of a variable. -/
def name : Variable → String
  | .frame => frameName
  | .gain => gainName
  | .level => levelName
  | .spectrum => spectrumName

/-- The type of a variable. -/
def kind : Variable → BufferKind
  | .frame => .int32
  | .gain => .float64
  | .level => .float32
  | .spectrum => .complex

/-- Number of elements of a variable, if the spectrum has this many bins. -/
def size (bins : Nat) : Variable → Nat
  | .frame => 1
  | .gain => 1
  | .level => levelCount
  | .spectrum => bins

/-- The content of a variable after a cycle of the host. -/
def contentAt (bins cycle : Nat) : Variable → Buffer
  | .frame => .int32 [frameNumber cycle]
  | .gain => .float64 [Double.ofNat 1]
  | .level => .float32 (levels cycle)
  | .spectrum => .complex (Demo.spectrum bins cycle)

/-- Where a variable lies in a space. -/
def addressIn (s : Space) (v : Variable) : Address :=
  match s.entries[v.name]? with
  | some entry => entry.descriptor.address
  | none => .null

/-- The list of the variables of the host leaves none out, so that a fact about the list is one
about all of them. -/
theorem mem_all (v : Variable) : v ∈ all := by
  cases v <;> decide

/-- The four names differ, so that a variable of the host is known by its name. -/
theorem name_inj {v w : Variable} : v.name = w.name ↔ v = w := by
  constructor
  · intro h
    cases v <;> cases w <;> first | rfl | exact absurd h (by decide)
  · rintro rfl
    rfl

/-- No variable of the host is a text, so that all of them can be sent. -/
theorem kind_ne_text (v : Variable) : v.kind ≠ .text := by
  cases v <;> decide

/-- The content of a variable has the type of the variable after every cycle. -/
theorem kind_contentAt (bins cycle : Nat) (v : Variable) :
    (v.contentAt bins cycle).kind = v.kind := by
  cases v <;> rfl

/-- The content of a variable has as many elements as the variable after every cycle. -/
theorem length_contentAt (bins cycle : Nat) (v : Variable) :
    (v.contentAt bins cycle).length = v.size bins := by
  cases v with
  | frame => rfl
  | gain => rfl
  | level => simp [contentAt, Buffer.length, levels, size]
  | spectrum => simp [contentAt, Buffer.length, Demo.spectrum, size]

/-- A variable lies where the buffer under its name lies, as long as there is one. -/
theorem addressIn_of_entry {s : Space} {v : Variable} {b : OwnedBuffer}
    (h : s.entries[v.name]? = some (.owned b)) : v.addressIn s = b.address := by
  unfold addressIn
  rw [h]
  rfl

section Inserting

variable {bins : Nat} (s : Space) {v w : Variable} {new : Buffer}

/-- A variable is found where it was put: in a new block, or at no place of its own if it is
empty. -/
theorem entry_insert_self (hkind : new.kind = v.kind) (hlength : new.length = v.size bins) :
    (s.insert v.name new).entries[v.name]? =
        some (.owned ⟨v.kind, v.size bins, v.addressIn (s.insert v.name new)⟩) ∧
      v.addressIn (s.insert v.name new) =
        if v.size bins = 0 then .vacant else .word s.memory.blocks.size 0 := by
  have hfound : (s.insert v.name new).entries[v.name]? =
      some (.owned (Space.store s.memory new).2) := by
    rw [Space.entry_insert, if_pos rfl]
  have haddress := addressIn_of_entry hfound
  have hstored : (Space.store s.memory new).2 =
      ⟨v.kind, v.size bins, (Space.store s.memory new).2.address⟩ := by
    rw [← hkind, ← hlength, ← Space.kind_store s.memory new, ← Space.length_store s.memory new]
  rw [haddress]
  refine ⟨hfound.trans (congrArg (fun b => some (Space.Entry.owned b)) hstored), ?_⟩
  rw [Space.address_store, hlength]

/-- All other variables are found where they were, as names of different variables differ. -/
theorem entry_insert_of_ne (hne : w ≠ v) (new : Buffer) :
    (s.insert v.name new).entries[w.name]? = s.entries[w.name]? ∧
      w.addressIn (s.insert v.name new) = w.addressIn s := by
  have hfound : (s.insert v.name new).entries[w.name]? = s.entries[w.name]? := by
    rw [Space.entry_insert, if_neg fun hname => hne (name_inj.mp hname).symm]
  refine ⟨hfound, ?_⟩
  unfold addressIn
  rw [hfound]

end Inserting

end Variable

/-- Has the space the four buffers of the host, all of them in memory of their own, and at
most one buffer that is retired? -/
structure IsSteady (bins : Nat) (s : Space) : Prop where
  /-- All elements lie in memory. -/
  housed : s.IsHoused
  /-- No two variables share memory. -/
  separate : s.IsSeparate
  /-- There are the variables, with their types and sizes. -/
  entry : ∀ v : Variable,
    s.entries[v.name]? = some (.owned ⟨v.kind, v.size bins, v.addressIn s⟩)
  /-- The gain is one. -/
  gain : s.get? gainName = some (.float64 [Double.ofNat 1])
  /-- A spectrum without bins has no memory. -/
  vacant : bins = 0 → Variable.spectrum.addressIn s = .vacant
  /-- At most one buffer is retired. -/
  retired : s.retiredCount ≤ 1

namespace IsSteady

variable {bins : Nat} {s : Space}

/-- A variable that is overwritten stays where it is, and so do all others. -/
theorem overwritten (h : IsSteady bins s) {v : Variable} (hv : v ≠ .gain) {change : Change}
    {new : Buffer} (ho : ∀ address, change.Overwrites ⟨v.kind, v.size bins, address⟩ new)
    (hsmall : change.IsSmall) :
    IsSteady bins (s.write v.name change).2 ∧
      (∀ w : Variable, w.addressIn (s.write v.name change).2 = w.addressIn s) ∧
      (s.write v.name change).2.get? v.name = some new ∧
      ∀ w : Variable, w ≠ v → (s.write v.name change).2.get? w.name = s.get? w.name := by
  have hentry := Space.entry_write (h.entry v) (ho _)
  have haddress (w : Variable) : w.addressIn (s.write v.name change).2 = w.addressIn s := by
    unfold Variable.addressIn
    rw [hentry]
  have hothers (w : Variable) (hw : w ≠ v) :
      (s.write v.name change).2.get? w.name = s.get? w.name :=
    h.separate.get?_write_of_ne (h.entry v) (ho _) fun hname => hw (Variable.name_inj.mp hname).symm
  refine ⟨⟨h.housed.write v.name hsmall, h.separate.overwritten (h.entry v) (ho _), ?_, ?_, ?_, ?_⟩,
    haddress, Space.get?_write_self h.housed (h.entry v) (ho _) v.kind_ne_text, hothers⟩
  · intro w
    rw [hentry, haddress]
    exact h.entry w
  · exact (hothers .gain hv.symm).trans h.gain
  · intro hbins
    rw [haddress]
    exact h.vacant hbins
  · rw [Space.write_of_overwrites (h.entry v) (ho _)]
    exact h.retired

/-- A new spectrum lies somewhere else if it has bins, and the old one is retired alone. -/
theorem replaced (h : IsSteady bins s) (hbins : bins < sizeLimit) (cycle : Nat) :
    let s' := s.collectRetired.2.insert spectrumName (.complex (spectrum bins cycle))
    IsSteady bins s' ∧ (∀ w : Variable, w ≠ .spectrum → w.addressIn s' = w.addressIn s) ∧
      (Variable.spectrum.addressIn s' = Variable.spectrum.addressIn s ↔ bins = 0) ∧
      s'.get? spectrumName = some (.complex (spectrum bins cycle)) ∧
      ∀ w : Variable, w ≠ .spectrum → s'.get? w.name = s.get? w.name := by
  let freed := s.collectRetired.2
  let new := Variable.contentAt bins cycle .spectrum
  have hlength : new.length = bins := Variable.length_contentAt bins cycle .spectrum
  have hseparate : freed.IsSeparate := h.separate.collectRetired
  obtain ⟨hself, hplace⟩ := Variable.entry_insert_self (v := .spectrum) freed
    (Variable.kind_contentAt bins cycle .spectrum) hlength
  have hkept (w : Variable) (hw : w ≠ .spectrum) := Variable.entry_insert_of_ne freed hw new
  have hothers (w : Variable) (hw : w ≠ .spectrum) :
      (freed.insert spectrumName new).get? w.name = s.get? w.name :=
    hseparate.get?_insert_of_ne
      (fun hname => hw (Variable.name_inj (v := .spectrum).mp hname).symm) new
  have hsmall : new.length < sizeLimit := by
    rw [hlength]
    exact hbins
  refine ⟨⟨?_, hseparate.insert spectrumName new, ?_, ?_, ?_, ?_⟩, fun w hw => (hkept w hw).2,
    ?_, ?_, hothers⟩
  · exact (h.housed.step .collected).step (.inserted spectrumName new hsmall)
  · intro w
    by_cases hw : w = .spectrum
    · rw [hw]
      exact hself
    · have hentry : freed.entries[w.name]? =
          some (.owned ⟨w.kind, w.size bins, w.addressIn freed⟩) := h.entry w
      rw [← (hkept w hw).2] at hentry
      exact (hkept w hw).1.trans hentry
  · exact (hothers .gain (by decide)).trans h.gain
  · intro hzero
    exact hplace.trans (if_pos hzero)
  · have hold : s.entries[spectrumName]? = some (.owned _) := h.entry .spectrum
    change ([] ++ (s.entries[spectrumName]?.bind Space.Entry.buffer?).toList).length ≤ 1
    rw [hold]
    exact Nat.le_refl 1
  · change Variable.spectrum.addressIn (freed.insert Variable.spectrum.name new) = _ ↔ _
    rw [hplace]
    constructor
    · intro hsame
      by_contra hne
      -- the new block is none of those that there were
      rw [if_neg (show ¬Variable.spectrum.size bins = 0 from hne)] at hsame
      have hlt := h.separate.known (h.entry .spectrum) s.memory.blocks.size 0 hsame.symm
      omega
    · intro hzero
      rw [h.vacant hzero]
      exact if_pos hzero
  · exact Space.get?_insert_self freed spectrumName (Variable.kind_ne_text .spectrum)

end IsSteady

namespace Pipeline

variable {p : Pipeline}

/-- The spectrum is as long as it has bins, in every cycle and after every replacement. -/
theorem spectrumLength_eq (h : IsSteady p.bins p.space) : p.spectrumLength = p.bins := by
  obtain ⟨b, hb, hhoused⟩ := h.housed.housed spectrumName _ (h.entry .spectrum)
  obtain rfl := Space.Entry.owned.inj hb
  have hentry : p.space.entries[spectrumName]? =
      some (.owned ⟨.complex, p.bins, Variable.spectrum.addressIn p.space⟩) := h.entry .spectrum
  have hlength := hhoused.length_content (Variable.kind_ne_text .spectrum)
  unfold spectrumLength Space.get?
  rw [hentry]
  exact hlength

/-- What a cycle makes of the host: every variable has the content of the cycle, and only a
spectrum with bins has moved, if the cycle reallocates it. -/
structure Advanced (p p' : Pipeline) (cycle : Nat) : Prop where
  /-- The number of bins stays. -/
  bins : p'.bins = p.bins
  /-- The cycles that reallocate stay. -/
  reallocEvery : p'.reallocEvery = p.reallocEvery
  /-- The variables stay. -/
  steady : IsSteady p.bins p'.space
  /-- The content is new. -/
  content : ∀ v : Variable, p'.space.get? v.name = some (v.contentAt p.bins cycle)
  /-- Nothing else moves. -/
  address : ∀ v : Variable, v.addressIn p'.space = v.addressIn p.space ↔
    ¬(v = .spectrum ∧ p.reallocates cycle = true ∧ 0 < p.bins)

/-- The space of a host once its levels and its cycle number are those of a cycle. -/
def refreshed (p : Pipeline) (cycle : Nat) : Space :=
  ((p.space.write levelName (.copy ((levels cycle).map Element.single))).2.write frameName
    (.set 0 (.int32 (frameNumber cycle)))).2

/-- A cycle that reallocates frees what was retired before and puts the new spectrum into a buffer
of its own. -/
theorem advance_of_reallocates {cycle : Nat} (hr : p.reallocates cycle = true) :
    p.advance cycle =
      { p with
        space := (p.refreshed cycle).collectRetired.2.insert spectrumName
          (.complex (spectrum p.bins cycle)) } := by
  unfold advance
  rw [hr]
  rfl

/-- A cycle that does not reallocate turns the spectrum in its place and retires nothing. -/
theorem advance_of_keeps {cycle : Nat} (hr : p.reallocates cycle = false) :
    p.advance cycle =
      { p with
        space := ((p.refreshed cycle).write spectrumName
          (.copy ((spectrum p.spectrumLength cycle).map Element.complex))).2 } := by
  unfold advance
  rw [hr]
  rfl

/-- Levels and cycle number are overwritten in every cycle, and nothing moves. -/
theorem isSteady_refreshed (h : IsSteady p.bins p.space) (cycle : Nat) :
    IsSteady p.bins (p.refreshed cycle) ∧
      (∀ v : Variable, v.addressIn (p.refreshed cycle) = v.addressIn p.space) ∧
      ∀ v : Variable, v ≠ .spectrum →
        (p.refreshed cycle).get? v.name = some (v.contentAt p.bins cycle) := by
  obtain ⟨h₁, haddress₁, hlevel, _⟩ := h.overwritten (v := .level) (by decide)
    (fun _ => Space.overwrites_singles rfl (Variable.length_contentAt p.bins cycle .level)) trivial
  obtain ⟨h₂, haddress₂, hframe, hothers⟩ := h₁.overwritten (v := .frame) (by decide)
    (fun _ => Space.overwrites_integer rfl rfl (frameNumber cycle)) trivial
  refine ⟨h₂, fun v => (haddress₂ v).trans (haddress₁ v), ?_⟩
  intro v hv
  cases v with
  | frame => exact hframe
  | gain => exact h₂.gain
  | level => exact (hothers .level (by decide)).trans hlevel
  | spectrum => exact absurd rfl hv

/-- A cycle of the host gives every variable the content of the cycle, and moves a spectrum with
bins if it reallocates. -/
theorem advanced_advance (h : IsSteady p.bins p.space) (hbins : p.bins < sizeLimit) (cycle : Nat) :
    Advanced p (p.advance cycle) cycle := by
  obtain ⟨hfresh, haddress, hcontent⟩ := isSteady_refreshed h cycle
  cases hr : p.reallocates cycle with
  | true =>
    obtain ⟨hsteady, hkept, hmoved, hspectrum, hothers⟩ := hfresh.replaced hbins cycle
    rw [advance_of_reallocates hr]
    refine ⟨rfl, rfl, hsteady, ?_, ?_⟩
    · intro v
      by_cases hv : v = .spectrum
      · rw [hv]
        exact hspectrum
      · exact (hothers v hv).trans (hcontent v hv)
    · intro v
      by_cases hv : v = .spectrum
      · subst hv
        rw [← haddress .spectrum]
        refine hmoved.trans ?_
        simp only [true_and, Nat.not_lt, Nat.le_zero_eq, hr]
      · exact iff_of_true ((hkept v hv).trans (haddress v)) fun hmoves => hv hmoves.1
  | false =>
    have hlength : (spectrum p.bins cycle).length = p.bins :=
      Variable.length_contentAt p.bins cycle .spectrum
    obtain ⟨hsteady, hkept, hspectrum, hothers⟩ := hfresh.overwritten (v := .spectrum) (by decide)
      (fun _ => Space.overwrites_complexes rfl hlength) trivial
    rw [advance_of_keeps hr, spectrumLength_eq h]
    refine ⟨rfl, rfl, hsteady, ?_, ?_⟩
    · intro v
      by_cases hv : v = .spectrum
      · rw [hv]
        exact hspectrum
      · exact (hothers v hv).trans (hcontent v hv)
    · intro v
      refine iff_of_true ((hkept v).trans (haddress v)) ?_
      rintro ⟨_, hmoves, _⟩
      rw [hr] at hmoves
      cases hmoves

end Pipeline

namespace Variable

/-- The content of a variable before the first cycle. -/
def initial (bins : Nat) : Variable → Buffer
  | .frame => .int32 [0]
  | .gain => .float64 [Double.ofNat 1]
  | .level => .float32 (List.replicate levelCount (Single.ofNat 0))
  | .spectrum => .complex (Demo.spectrum bins 0)

/-- The first content of a variable has the type of the variable. -/
theorem kind_initial (bins : Nat) (v : Variable) : (v.initial bins).kind = v.kind := by
  cases v <;> rfl

/-- The first content of a variable has as many elements as the variable. -/
theorem length_initial (bins : Nat) (v : Variable) : (v.initial bins).length = v.size bins := by
  cases v with
  | spectrum => exact length_contentAt bins 0 .spectrum
  | _ => rfl

end Variable

/-- Has a space on the way to a new host these variables and no others, and is nothing
retired yet? -/
structure IsFurnished (bins : Nat) (vs : List Variable) (s : Space) : Prop where
  /-- All elements lie in memory. -/
  housed : s.IsHoused
  /-- No two variables share memory. -/
  separate : s.IsSeparate
  /-- There are the variables, with their types and sizes. -/
  entry : ∀ v ∈ vs, s.entries[v.name]? = some (.owned ⟨v.kind, v.size bins, v.addressIn s⟩)
  /-- There are no others. -/
  only : ∀ (x : String) (entry : Space.Entry), s.entries[x]? = some entry → ∃ v ∈ vs, v.name = x
  /-- The variables have their first content. -/
  content : ∀ v ∈ vs, s.get? v.name = some (v.initial bins)
  /-- A variable without elements has no memory. -/
  vacant : ∀ v ∈ vs, v.size bins = 0 → v.addressIn s = .vacant
  /-- Nothing is retired. -/
  retired : s.retired = []

namespace IsFurnished

variable {bins : Nat} {vs : List Variable} {s : Space} {v : Variable}

/-- One variable more can be put into a space that is furnished with others, and keeps it
furnished. -/
theorem insert (h : IsFurnished bins vs s) (hbins : bins < sizeLimit) (hv : v ∉ vs) :
    IsFurnished bins (v :: vs) (s.insert v.name (v.initial bins)) := by
  have hkind := v.kind_initial bins
  have hlength := v.length_initial bins
  have hsmall : (v.initial bins).length < sizeLimit := by
    rw [hlength]
    cases v with
    | frame => exact (by decide : 1 < sizeLimit)
    | gain => exact (by decide : 1 < sizeLimit)
    | level => exact (by decide : levelCount < sizeLimit)
    | spectrum => exact hbins
  obtain ⟨hself, hplace⟩ := Variable.entry_insert_self s hkind hlength
  have hne {w : Variable} (hw : w ∈ vs) : w ≠ v := by
    rintro rfl
    exact hv hw
  have hkept {w : Variable} (hw : w ∈ vs) :=
    Variable.entry_insert_of_ne s (hne hw) (v.initial bins)
  refine ⟨h.housed.step (.inserted v.name _ hsmall), h.separate.insert v.name _, ?_, ?_, ?_, ?_, ?_⟩
  · intro w hw
    rcases List.mem_cons.mp hw with rfl | hw
    · exact hself
    · rw [(hkept hw).2]
      exact (hkept hw).1.trans (h.entry w hw)
  · intro x entry he
    rw [Space.entry_insert] at he
    by_cases hx : v.name = x
    · exact ⟨v, List.mem_cons_self, hx⟩
    · rw [if_neg hx] at he
      obtain ⟨w, hw, hname⟩ := h.only x entry he
      exact ⟨w, List.mem_cons_of_mem v hw, hname⟩
  · intro w hw
    rcases List.mem_cons.mp hw with rfl | hw
    · exact Space.get?_insert_self s _ (by rw [hkind]; exact w.kind_ne_text)
    · have hname : v.name ≠ w.name := fun hname => hne hw (Variable.name_inj.mp hname).symm
      exact (h.separate.get?_insert_of_ne hname _).trans (h.content w hw)
  · intro w hw hzero
    rcases List.mem_cons.mp hw with rfl | hw
    · exact hplace.trans (if_pos hzero)
    · exact (hkept hw).2.trans (h.vacant w hw hzero)
  · have habsent : s.entries[v.name]? = none := by
      cases he : s.entries[v.name]? with
      | none => rfl
      | some entry =>
        obtain ⟨w, hw, hname⟩ := h.only v.name entry he
        exact absurd (Variable.name_inj.mp hname) (hne hw)
    change s.retired ++ (s.entries[v.name]?.bind Space.Entry.buffer?).toList = []
    rw [h.retired, habsent]
    rfl

end IsFurnished

namespace Pipeline

end Pipeline

end VariableBridge.Demo
