import VariableBridge.Proofs.Bridge.Cycle
import VariableBridge.Proofs.Space.Content

/-!
# Live data

An adapter reads through an address, a number of elements and a layout that it
found out earlier. Main statements: an adapter that shows the descriptor of a
housed buffer reads the content of that buffer; and whatever happens to a space
between cycles, each cycle that sends publishes the content that the variables
have at that moment.
-/

namespace VariableBridge

open Number (Single)
open Space (BufferKind Descriptor Memory OwnedBuffer)

namespace Space.OwnedBuffer

variable {m : Memory} {b : OwnedBuffer} {layout : Layout}

/-- What an adapter reads in memory are the values of the content, for every type that has a
layout. -/
theorem sampleValues_content (hb : b.IsHoused m) (hl : Layout.ofTag b.kind.tag = some layout) :
    (b.content m).sampleValues = some (valuesAt m b.address layout b.length) := by
  obtain ⟨kind, n, address⟩ := b
  have hroomy := hb.roomy
  cases kind <;> cases hl
  case complex =>
    have he : (m.read address (2 * n)).length % 2 = 0 := by
      simp only [Memory.read, List.length_take]
      simp only [BufferKind.wordsFor] at hroomy
      omega
    exact congrArg (fun values => some (SampleValues.float32 values)) (flatMap_complexesOfWords he)
  all_goals rfl

/-- There is a value for each channel: one for each element, or two if the elements are complex. -/
theorem length_valuesAt (hb : b.IsHoused m) (hl : Layout.ofTag b.kind.tag = some layout) :
    (valuesAt m b.address layout b.length).length =
      b.length * layout.tag.channelsPerElement.toNat := by
  obtain ⟨kind, n, address⟩ := b
  have hroomy := hb.roomy
  cases kind <;> cases hl <;> simp only [BufferKind.wordsFor] at hroomy
  case float64 =>
    change (doublesOfWords (m.read address (2 * n))).length = n * 1
    rw [length_doublesOfWords, Memory.read, List.length_take]
    omega
  case complex =>
    change ((m.read address (2 * n)).map Single.mk).length = n * 2
    rw [List.length_map, Memory.read, List.length_take]
    omega
  all_goals
    change (((m.read address n).map _).length) = n * 1
    rw [List.length_map, Memory.read, List.length_take]
    omega

end Space.OwnedBuffer

/-- Values have the format of the layout that they are read with. -/
theorem format_valuesAt (m : Memory) (address : Space.Address) (layout : Layout) (count : Nat) :
    (valuesAt m address layout count).format = layout.channelFormat := by
  cases layout <;> rfl

/-- An element fills one channel or two, so channels tell the number of elements as long as they do
not saturate. -/
theorem Layout.channelsPerElement_eq (layout : Layout) :
    layout.tag.channelsPerElement.toNat = 1 ∨ layout.tag.channelsPerElement.toNat = 2 := by
  cases layout with
  | complex => exact .inr rfl
  | _ => exact .inl rfl

/-- The number of channels of a buffer below the limit does not saturate. -/
theorem Layout.toNat_channels {layout : Layout} {n : UInt32} (hn : n.toNat < Space.sizeLimit) :
    (layout.channels n).toNat = n.toNat * layout.tag.channelsPerElement.toNat := by
  unfold Space.sizeLimit at hn
  rw [Layout.channels, toNat_saturatingMul, UInt32.size]
  rcases layout.channelsPerElement_eq with hc | hc
  · rw [hc]
    omega
  · rw [hc]
    omega

/-- Below the limit the number of channels tells the number of elements, also to an adapter
whose own number may be anything. -/
theorem Layout.channels_injective {layout : Layout} {n n' : UInt32}
    (hn : n'.toNat < Space.sizeLimit) (h : layout.channels n = layout.channels n') : n = n' := by
  have hlt := n.toNat_lt
  have heq : (layout.channels n).toNat = n'.toNat * layout.tag.channelsPerElement.toNat := by
    rw [h, Layout.toNat_channels hn]
  rw [Layout.channels, toNat_saturatingMul, UInt32.size] at heq
  unfold Space.sizeLimit at hn
  apply UInt32.toNat.inj
  rcases layout.channelsPerElement_eq with hc | hc
  · rw [hc] at heq
    omega
  · rw [hc] at heq
    omega

/-- A bridge resolves what the space finds, and gets the same descriptor. -/
theorem Catalogue.resolve_ofSpace {s : Space} {name : String} {d : Descriptor}
    (h : s.lookup name = .ok d) : (Catalogue.ofSpace s).resolve name = .ok d := by
  simp only [Catalogue.resolve, Catalogue.ofSpace, h]

namespace Space

variable {s : Space} {name : String} {live : Descriptor}

/-- A variable of a housed space that can be found is a buffer of that space. -/
theorem IsHoused.of_resolve (hs : s.IsHoused)
    (hr : (Catalogue.ofSpace s).resolve name = .ok live) :
    ∃ b, live = OwnedBuffer.descriptor b ∧ b.IsHoused s.memory ∧
      s.get? name = some (b.content s.memory) := by
  unfold Catalogue.resolve at hr
  simp only [Catalogue.ofSpace, lookup, hs.valid, if_true] at hr
  cases he : s.entries[name]? with
  | none => simp [he] at hr
  | some entry =>
    obtain ⟨b, rfl, hb⟩ := hs.housed name entry he
    simp only [he, Entry.descriptor, Except.ok.injEq] at hr
    refine ⟨b, hr.symm, hb, ?_⟩
    simp only [get?, he]

/-- A variable with content can be found, and its descriptor is that of the buffer with this
content. -/
theorem IsHoused.resolve_of_get? (hs : s.IsHoused) {content : Buffer}
    (hg : s.get? name = some content) :
    ∃ b, (Catalogue.ofSpace s).resolve name = .ok (OwnedBuffer.descriptor b) ∧
      content = b.content s.memory := by
  unfold get? at hg
  cases he : s.entries[name]? with
  | none => simp [he] at hg
  | some entry =>
    obtain ⟨b, rfl, _⟩ := hs.housed name entry he
    simp only [he, Option.some.injEq] at hg
    refine ⟨b, ?_, hg.symm⟩
    exact Catalogue.resolve_ofSpace (lookup_eq_ok_iff.mpr ⟨hs.valid, _, he, rfl⟩)

end Space

/-- A buffer has values exactly if its type has a layout, so a text is the only content that cannot
be sent. -/
theorem Space.Buffer.exists_sampleValues_iff (b : Space.Buffer) :
    (∃ values, b.sampleValues = some values) ↔ ∃ layout, Layout.ofTag b.kind.tag = some layout := by
  cases b <;> simp [sampleValues, kind, BufferKind.tag, Layout.ofTag]

namespace Adapter

variable {s : Space} {name : String} {context : StreamContext} {a : Adapter} {live : Descriptor}

/-- An adapter that shows a housed buffer reads its content, one value for each channel. -/
theorem Shows.values_eq (hshows : a.Shows live) (hb : a.IsBound name context) (hs : s.IsHoused)
    (hr : (Catalogue.ofSpace s).resolve name = .ok live) :
    ∃ content, s.get? name = some content ∧
      content.sampleValues = some (a.values s.memory) ∧
      (a.values s.memory).length = a.outlet.info.channelCount.toNat ∧
      (a.values s.memory).format = a.outlet.info.channelFormat := by
  obtain ⟨b, rfl, hhoused, hget⟩ := hs.of_resolve hr
  have hl : Layout.ofTag b.kind.tag = some a.layout := Layout.ofTag_eq_some_iff.mpr hshows.tag
  have htag : a.layout.tag = b.kind.tag := hshows.tag
  have hlength : (Space.reportedCount b.length).toNat = b.length := by
    have hsmall := hhoused.small
    unfold Space.sizeLimit at hsmall
    rw [Space.toNat_reportedCount]
    simp only [UInt32.size]
    omega
  have hsmall : (Space.reportedCount b.length).toNat < Space.sizeLimit := by
    rw [hlength]
    exact hhoused.small
  have hchannels : a.outlet.info.channelCount = a.layout.channels a.count := by
    rw [hb.info]
    rfl
  -- the adapter never looks at the live number, but the channels of its stream fit it
  have hcount : a.count = Space.reportedCount b.length := by
    apply Layout.channels_injective hsmall
    rw [← hchannels, Layout.channels, htag]
    exact hshows.channels
  have hvalues : a.values s.memory = valuesAt s.memory b.address a.layout b.length := by
    rw [values, hcount, hlength, hshows.address]
    rfl
  refine ⟨b.content s.memory, hget, ?_, ?_, ?_⟩
  · rw [hvalues]
    exact OwnedBuffer.sampleValues_content hhoused hl
  · rw [hvalues, hchannels, hcount, Layout.toNat_channels hsmall, hlength]
    exact OwnedBuffer.length_valuesAt hhoused hl
  · rw [values, format_valuesAt, hb.info]
    rfl

/-- A visit over a housed space fails only because the variable is missing or is a text. -/
theorem of_reconcileOne_error (hs : s.IsHoused) (hb : a.IsBound name context) {bus : Bus}
    {error : BridgeError} (he : reconcileOne (.ofSpace s) context name a bus = .error error) :
    (s.get? name = none ∧ error = .missingVariable name) ∨
      ∃ content, s.get? name = some (.text content) ∧ error = .unknownType name .text := by
  cases hr : (Catalogue.ofSpace s).resolve name with
  | error missing =>
    left
    simp only [reconcileOne, Host.ofSpace, hr] at he
    simp only [Catalogue.resolve, Catalogue.ofSpace, Space.lookup, hs.valid, if_true] at hr
    cases hn : s.entries[name]? with
    | some entry => simp [hn] at hr
    | none =>
      simp only [hn, Except.error.injEq] at hr
      subst hr
      refine ⟨?_, (Except.error.inj he).symm⟩
      simp only [Space.get?, hn]
  | ok live =>
    right
    obtain ⟨b, rfl, _, hget⟩ := hs.of_resolve hr
    cases hl : Layout.ofTag b.kind.tag with
    | some layout =>
      obtain ⟨visit, hv⟩ :=
        exists_reconcileOne (h := .ofSpace s) bus hr hl (fun _ => rfl) hb
      rw [hv] at he
      cases he
    | none =>
      rw [reconcileOne_of_unsendable (h := .ofSpace s) hr hl] at he
      obtain rfl := Except.error.inj he
      have hk : b.kind = .text := by
        cases hk : b.kind <;> simp_all [BufferKind.tag, Layout.ofTag]
      obtain ⟨kind, n, address⟩ := b
      cases hk
      exact ⟨_, hget, rfl⟩

end Adapter

/-- The frame is the last sample of the adapter and holds the content of its variable: one
value for each channel of the stream, in the format of the stream. -/
structure SampleFrame.IsLive (s : Space) (name : String) (a : Adapter) (frame : SampleFrame) :
    Prop where
  /-- The frame belongs to the stream of the adapter. -/
  stream : frame.id = a.outlet.id ∧ frame.name = name
  /-- No sample came after it. -/
  number : frame.sequence + 1 = a.outlet.sequence
  /-- The values are the content of the variable. -/
  content : ∃ content, s.get? name = some content ∧ content.sampleValues = some frame.values
  /-- There is a value for each channel. -/
  channels : frame.values.length = a.outlet.info.channelCount.toNat
  /-- The values have the format that was announced. -/
  format : frame.values.format = a.outlet.info.channelFormat

namespace Registry

/-- The spaces and registries that a registry built for these names can come to. Between
two cycles anything may happen to the space, and the bus may be used by others. -/
inductive History (names : List String) (context : StreamContext) (skip : UInt32) :
    Space → Registry → Prop where
  /-- The registry was built over the space. -/
  | built {s : Space} {r : Registry} (hs : s.Reachable) (bus : Bus)
    (hb : (build (.ofSpace s) names context skip bus).1 = .ok r) : History names context skip s r
  /-- Something happened to the space. -/
  | changed {s s' : Space} {r : Registry} (h : History names context skip s r)
    (hs : s.Step s') : History names context skip s' r
  /-- The registry went through a cycle. -/
  | cycled {s : Space} {r : Registry} (h : History names context skip s r) (bus : Bus) :
    History names context skip s (r.process (.ofSpace s) bus).state

namespace History

variable {names : List String} {context : StreamContext} {skip : UInt32} {s : Space}
  {r : Registry}

/-- In a history every variable lies in memory as long as its descriptor says, so a cycle reads what
is there. -/
theorem isHoused (h : History names context skip s r) : s.IsHoused := by
  induction h with
  | built hs bus hb => exact hs.isHoused
  | changed _ hs ih => exact ih.step hs
  | cycled _ bus ih => exact ih

/-- In a history the registry is sound, because it was built from the names and was only ever cycled
since. -/
theorem isSound (h : History names context skip s r) : r.IsSound := by
  induction h with
  | built hs bus hb => exact isSound_of_build hb
  | changed _ hs ih => exact ih
  | cycled _ bus ih => exact isSound_process _ bus ih

/-- In a history the registry has exactly the names that it was built for, in spite of variables
that change. -/
theorem mem_names (h : History names context skip s r) {x : String} : x ∈ r.names ↔ x ∈ names := by
  induction h with
  | built hs bus hb => exact mem_names_of_build hb
  | changed _ hs ih => exact ih
  | cycled _ bus ih =>
    rw [names_process]
    exact ih

end History

variable {s : Space} {r : Registry}

/-- The samples of a cycle over a housed space hold the content of the variables. -/
theorem process_sends_live (hs : s.IsHoused) (hr : r.IsSound) (bus : Bus)
    (hok : (r.process (.ofSpace s) bus).result = .ok true) :
    ∃ frames : List SampleFrame, (r.process (.ofSpace s) bus).bus.log.toList =
        bus.log.toList ++
        replacements (.ofSpace s) r.adapters (r.process (.ofSpace s) bus).state.adapters ++
        frames.map .sample ∧
      List.Forall₂ (fun entry frame => SampleFrame.IsLive s entry.1 entry.2 frame)
        (r.process (.ofSpace s) bus).state.adapters frames := by
  obtain ⟨ready, now, hready, hlog⟩ := process_sends (.ofSpace s) bus hok
  have hsound := isSound_process (.ofSpace s) bus hr
  have hshows := process_shows (.ofSpace s) bus hok
  refine ⟨ready.map fun entry => entry.2.frame s.memory now, hlog, ?_⟩
  · rw [hready, List.forall₂_map_left_iff, List.forall₂_map_right_iff, List.forall₂_same]
    intro entry he
    have hmem : (entry.1, entry.2.sent) ∈ (r.process (.ofSpace s) bus).state.adapters := by
      rw [hready]
      exact List.mem_map_of_mem he
    have hbound := hsound.bound _ hmem
    obtain ⟨live, hlive, hshow⟩ := hshows _ hmem
    obtain ⟨content, hget, hvalues, hlength, hformat⟩ := hshow.values_eq hbound hs hlive
    exact ⟨⟨rfl, hbound.name_eq⟩, rfl, ⟨content, hget, hvalues⟩, hlength, hformat⟩

/-- A cycle over a housed space fails exactly if a monitored variable is missing or cannot
be sent. -/
theorem process_ok_iff (hs : s.IsHoused) (hr : r.IsSound) (bus : Bus) :
    (∃ sends, (r.process (.ofSpace s) bus).result = .ok sends) ↔
      ∀ x ∈ r.names, ∃ content values, s.get? x = some content ∧
        content.sampleValues = some values := by
  constructor
  · rintro ⟨sends, hok⟩ x hx
    rw [← names_process r (.ofSpace s) bus] at hx
    obtain ⟨entry, he, rfl⟩ := List.mem_map.mp hx
    obtain ⟨live, hlive, hshow⟩ := process_shows (.ofSpace s) bus hok entry he
    obtain ⟨content, hget, hvalues, _, _⟩ :=
      hshow.values_eq ((isSound_process (.ofSpace s) bus hr).bound entry he) hs hlive
    exact ⟨content, _, hget, hvalues⟩
  · intro hall
    apply process_succeeds (.ofSpace s) bus hr (fun _ => rfl)
    intro x hx
    obtain ⟨content, values, hget, hvalues⟩ := hall x hx
    obtain ⟨b, hresolve, rfl⟩ := hs.resolve_of_get? hget
    obtain ⟨layout, hl⟩ := (Space.Buffer.exists_sampleValues_iff _).mp ⟨values, hvalues⟩
    rw [OwnedBuffer.kind_content] at hl
    exact ⟨b.descriptor, layout, hresolve, hl⟩

/-- Whatever happens to the space between cycles, each cycle publishes first the messages of
the streams that no longer fit and then, if it sends, one sample of each monitored name that
holds the present content of the variable. A cycle that skips sends no sample, and neither
does one that fails; such a cycle replaces streams only in front of the name that it stops
at, and this is the name of a variable that is missing or is a text. -/
theorem process_publishes_live_data {names : List String} {context : StreamContext}
    {skip : UInt32} (h : History names context skip s r) (bus : Bus) :
    let cycle := r.process (.ofSpace s) bus
    (r.names.Pairwise (· < ·) ∧ (∀ x, x ∈ r.names ↔ x ∈ names) ∧ cycle.state.names = r.names) ∧
      (cycle.result = .ok true → ∃ frames : List SampleFrame,
        cycle.bus.log.toList = bus.log.toList ++
          replacements (.ofSpace s) r.adapters cycle.state.adapters ++ frames.map .sample ∧
        List.Forall₂ (fun entry frame => SampleFrame.IsLive s entry.1 entry.2 frame)
          cycle.state.adapters frames) ∧
      (cycle.result = .ok false → cycle.bus.log.toList = bus.log.toList ++
        replacements (.ofSpace s) r.adapters cycle.state.adapters) ∧
      (∀ error, cycle.result = .error error → ∃ front stopped rest after,
        r.adapters = front ++ stopped :: rest ∧
        ((s.get? stopped.1 = none ∧ error = .missingVariable stopped.1) ∨
          ∃ content, s.get? stopped.1 = some (.text content) ∧
            error = .unknownType stopped.1 .text) ∧
        cycle.state.adapters = after ++ stopped :: rest ∧
        front.map Prod.fst = after.map Prod.fst ∧
        cycle.bus.log.toList = bus.log.toList ++ replacements (.ofSpace s) front after) ∧
      ((∃ sends, cycle.result = .ok sends) ↔ ∀ x ∈ names, ∃ content values,
        s.get? x = some content ∧ content.sampleValues = some values) := by
  intro cycle
  have hok := process_ok_iff h.isHoused h.isSound bus
  simp only [h.mem_names] at hok
  refine ⟨⟨h.isSound.ordered, fun x => h.mem_names, names_process r _ bus⟩, ?_, ?_, ?_, hok⟩
  · exact process_sends_live h.isHoused h.isSound bus
  · exact process_skips (.ofSpace s) bus
  · intro error herror
    obtain ⟨front, stopped, rest, after, bus', hsplit, hstop, hstate, hnames, hlog⟩ :=
      process_fails (.ofSpace s) bus herror
    have hb : stopped.2.IsBound stopped.1 r.context := by
      apply h.isSound.bound
      rw [hsplit]
      exact List.mem_append_right _ List.mem_cons_self
    exact ⟨front, stopped, rest, after, hsplit, Adapter.of_reconcileOne_error h.isHoused hb hstop,
      hstate, hnames, hlog⟩

/-- An integer that became a complex number since the registry was built is sent over a new
stream, in its two parts. -/
theorem process_publishes_retyped_level :
    let context : StreamContext := ⟨.ofNat 10, "desk"⟩
    let before := Space.empty.insert "level" (.int32 [7])
    let s := before.insert "level" (.complex [⟨⟨1⟩, ⟨2⟩⟩])
    let r : Registry := ⟨[("level", ⟨⟨⟨0⟩, streamInfo "level" .int32 1 context, 0⟩,
      .word 0 0, 1, .int32⟩)], context, .new 0, ⟨0, 0, 0, 0⟩⟩
    History ["level"] context 0 s r ∧ ∃ frames : List SampleFrame,
      (r.process (.ofSpace s) (.new 4)).bus.log.toList =
        (Bus.new 4).log.toList ++ replacements (.ofSpace s) r.adapters
          (r.process (.ofSpace s) (.new 4)).state.adapters ++ frames.map .sample ∧
      List.Forall₂ (fun entry frame => SampleFrame.IsLive s entry.1 entry.2 frame)
        (r.process (.ofSpace s) (.new 4)).state.adapters frames := by
  intro context before s r
  have hreach : before.Reachable := .single (.inserted "level" (.int32 [7]) (by decide))
  have hbuilt : (build (.ofSpace before) ["level"] context 0 (.new 4)).1 = .ok r := by
    unfold before r context
    decide +kernel
  have h : History ["level"] context 0 s r :=
    (History.built hreach (.new 4) hbuilt).changed (.inserted "level" _ (by decide))
  have hok : (r.process (.ofSpace s) (.new 4)).result = .ok true := by
    unfold s before r context
    decide +kernel
  exact ⟨h, (process_publishes_live_data h (.new 4)).2.1 hok⟩

end Registry

end VariableBridge
