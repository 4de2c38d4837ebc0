import VariableBridge.Proofs.Bridge.Session

/-!
# Rejected calls

A call may be refused at many points: the signal, the settings, the listing, a name,
a type or a stream may be the reason. Main statements: the bus refuses either the
first stream of a registry or none, so that a build that fails has opened nothing;
hence a call of the controlling side that fails leaves the bridge and the bus as
they were.
-/

namespace VariableBridge

open Space (Descriptor)

/-- A stream is opened exactly if it has a name and its rate is finite and not negative. -/
theorem objection_streamInfo_eq_none_iff {name : String} {layout : Layout} {n : UInt32}
    {context : StreamContext} :
    Bus.objection (streamInfo name layout n context) = none ↔
      name ≠ "" ∧ context.rate.isFiniteNonneg = true := by
  unfold Bus.objection streamInfo
  by_cases hname : name = ""
  · simp [hname]
  · cases context.rate.isFiniteNonneg <;> simp [hname]

/-- No name is smaller than the empty one, so of ascending names only the first can be empty. -/
theorem ne_empty_of_lt {x y : String} (h : x < y) : y ≠ "" := by
  rintro rfl
  exact List.not_lt_nil x.toList h

/-- Everything that was found can be sent: a text or an unknown type ends the search with an
error. -/
theorem exists_layout_of_resolveAll {h : Host} {names : List String}
    {found : Std.TreeMap String Descriptor} (hf : resolveAll h names = .ok found) :
    ∀ entry ∈ found.toList, ∃ layout, Layout.ofTag entry.2.tag = some layout := by
  rintro ⟨name, d⟩ hm
  obtain ⟨hname, hd⟩ := (getElem?_of_resolveAll hf name d).mp
    (Std.TreeMap.mem_toList_iff_getElem?_eq_some.mp hm)
  obtain ⟨d', layout, hd', hl⟩ := exists_of_resolveAll hf hname
  obtain rfl : d = d' := Except.ok.inj (hd.symm.trans hd')
  exact ⟨layout, hl⟩

section Opening

variable {h : Host} {context : StreamContext} {ds : List (String × Descriptor)} {bus : Bus}

/-- If nothing speaks against any of the streams, all of them are opened. -/
theorem openEach_succeeds (href : ∀ info, h.refusal info = none)
    (hrate : context.rate.isFiniteNonneg = true)
    (hl : ∀ entry ∈ ds, ∃ layout, Layout.ofTag entry.2.tag = some layout)
    (hn : ∀ entry ∈ ds, entry.1 ≠ "") : (openEach h context ds bus).failure = none := by
  induction ds generalizing bus with
  | nil => rfl
  | cons entry rest ih =>
    obtain ⟨name, d⟩ := entry
    obtain ⟨layout, hlayout⟩ := hl _ List.mem_cons_self
    have ho : Bus.objection (streamInfo name layout d.count context) = none :=
      objection_streamInfo_eq_none_iff.mpr ⟨hn _ List.mem_cons_self, hrate⟩
    obtain ⟨a, bus', hc⟩ := Adapter.exists_create bus hlayout href ho
    unfold openEach
    simp only [hc]
    exact ih (fun e he => hl e (List.mem_cons_of_mem _ he))
      (fun e he => hn e (List.mem_cons_of_mem _ he))

/-- The bus refuses the first stream or none: a rate is bad for all streams alike, and an empty
name is the first one in the order. -/
theorem openEach_of_failure (href : ∀ info, h.refusal info = none)
    (hl : ∀ entry ∈ ds, ∃ layout, Layout.ofTag entry.2.tag = some layout)
    (ho : ds.Pairwise fun p q => p.1 < q.1) {error : BridgeError}
    (hf : (openEach h context ds bus).failure = some error) :
    openEach h context ds bus = ⟨[], some error, bus⟩ := by
  cases ds with
  | nil => cases hf
  | cons entry rest =>
    obtain ⟨name, d⟩ := entry
    unfold openEach at hf ⊢
    cases hc : Adapter.create h name d context bus with
    | error refused =>
      simp only [hc] at hf ⊢
      rw [hf]
    | ok made =>
      obtain ⟨_, _, _, hb, _, _⟩ := Adapter.of_create hc
      have hopen := hb.openable
      rw [hb.info, objection_streamInfo_eq_none_iff] at hopen
      have hrest : (openEach h context rest made.2).failure = none :=
        openEach_succeeds href hopen.2 (fun e he => hl e (List.mem_cons_of_mem _ he))
          (fun e he => ne_empty_of_lt ((List.pairwise_cons.mp ho).1 e he))
      simp [hc, hrest] at hf

end Opening

/-- A build that fails has opened no stream, not even for a moment: it fails before the first stream
or with it. -/
theorem Registry.build_of_error {h : Host} (href : ∀ info, h.refusal info = none)
    {names : List String} {context : StreamContext} {skip : UInt32} {bus : Bus}
    {error : BridgeError} (hb : (build h names context skip bus).1 = .error error) :
    (build h names context skip bus).2 = bus := by
  unfold build at hb ⊢
  cases hf : resolveAll h names with
  | error missing => rfl
  | ok found =>
    cases ho : (openEach h context found.toList bus).failure with
    | none => simp [hf, ho] at hb
    | some refused =>
      simp only [openEach_of_failure href (exists_layout_of_resolveAll hf)
        (pairwise_toList found) ho]
      rfl

namespace Control

variable {c : Control} {h : Host} {bus : Bus} {error : BridgeError}

/-- A registry that cannot be built for new settings leaves the bus as it was: no message, no stream
and no identity used. -/
theorem buildRegistry_of_error (href : ∀ info, h.refusal info = none) {settings : Settings}
    {shape : Shape} (hb : (buildRegistry h settings shape bus).1 = .error error) :
    (buildRegistry h settings shape bus).2 = bus :=
  Registry.build_of_error href hb

/-- A change of parameters that fails changes nothing: settings, slot and bus are as they were. -/
theorem update_of_error (href : ∀ info, h.refusal info = none) {next : Settings}
    (he : (c.update h next bus).result = .error error) :
    c.update h next bus = ⟨.error error, c, bus⟩ := by
  rcases c.update_cases h next bus with ⟨_, hu⟩ | ⟨_, hu⟩ | ⟨shape, refused, _, hb, hu⟩ |
    ⟨_, _, _, _, hu⟩
  · rw [hu] at he
    cases he
  · rw [hu] at he
    cases he
  · rw [hu] at he ⊢
    obtain rfl := Except.error.inj he
    rw [buildRegistry_of_error href hb]
  · rw [hu] at he
    cases he

/-- Names that are refused leave all controls as they were, whether they were bad or came during a
span. -/
theorem setVars_of_error {vars : List String} (he : (c.setVars vars).1 = .error error) :
    (c.setVars vars).2 = c := by
  unfold setVars at he ⊢
  by_cases hp : c.isPrepared = true
  · rw [if_pos hp]
  · rw [if_neg hp] at he ⊢
    cases hn : Settings.checkNames vars with
    | error malformed => rfl
    | ok checked => simp [hn] at he

/-- A safety check that is refused leaves all controls as they were. It is refused during a span
only. -/
theorem setRtStrict_of_error {rtStrict : Bool} (he : (c.setRtStrict rtStrict).1 = .error error) :
    (c.setRtStrict rtStrict).2 = c := by
  unfold setRtStrict at he ⊢
  by_cases hp : c.isPrepared = true
  · rw [if_pos hp]
  · rw [if_neg hp] at he
    cases he

end Control

/-- A preparation that fails changes nothing: the bridge stays unlocked, and the bus has no message
more. -/
theorem Plugin.prepare_of_error {p : Plugin} {h : Host} (href : ∀ info, h.refusal info = none)
    {shape : Shape} {bus : Bus} {error : BridgeError}
    (he : (p.prepare h shape bus).result = .error error) :
    p.prepare h shape bus = ⟨.error error, p, bus⟩ := by
  rcases p.prepare_cases h bus shape with ⟨refused, hr⟩ | ⟨settings, refused, hb, hr⟩ |
    ⟨_, _, _, _, hok, _⟩
  · rw [hr] at he ⊢
    obtain rfl := Except.error.inj he
    rfl
  · rw [hr] at he ⊢
    obtain rfl := Except.error.inj he
    rw [Control.buildRegistry_of_error href hb]
  · rw [hok] at he
    cases he

namespace Session

/-- Whatever the reason, a call that is not a cycle and fails leaves the session as it was,
except that time has passed: settings with the names found, signal, registries with their
counts and throttles, safety check, switch, log and open streams are the same. -/
theorem failed_call_changes_nothing (s : Session) {t : Turn} (ht : t.call ≠ .process)
    {error : BridgeError} (he : (s.outcome t).result = .error error) :
    s.perform t = { s with bus := { s.bus with now := t.now } } := by
  obtain ⟨call, catalogue, memory, now⟩ := t
  have href : ∀ info, (Turn.host ⟨call, catalogue, memory, now⟩).refusal info = none :=
    fun _ => rfl
  unfold perform
  cases call with
  | process => exact (ht rfl).elim
  | release => cases he
  | setActivate activate => cases he
  | collect => cases he
  | prepare shape =>
    have hcall := Plugin.prepare_of_error href he
    unfold spanAfter
    simp only [outcome, Call.run, hcall]
  | setVars vars =>
    have hcall := Control.setVars_of_error he
    simp only [outcome, Call.run, Plugin.steered, hcall, spanAfter]
  | setRtStrict rtStrict =>
    have hcall := Control.setRtStrict_of_error he
    simp only [outcome, Call.run, Plugin.steered, hcall, spanAfter]
  | setSourceId sourceId =>
    have hcall := Control.update_of_error href he
    simp only [outcome, Call.run, Plugin.steered, Control.setSourceId, hcall, spanAfter]
  | setSkip skip =>
    have hcall := Control.update_of_error href he
    simp only [outcome, Call.run, Plugin.steered, Control.setSkip, hcall, spanAfter]

/-- A bridge that sends a level is told to skip cycles after the level has vanished. -/
theorem failed_rebuild_keeps_level :
    let before := Space.empty.insert "level" (.int32 [7])
    let prepare : Turn := ⟨.prepare ⟨.ofNat 1000, 10⟩, .ofSpace before, before.memory, .epoch⟩
    let s := (start ⟨["level"], "desk", false, true, 0⟩ none .ordinary 4).perform prepare
    let t : Turn := ⟨.setSkip 3, .ofSpace .empty, Space.empty.memory, .epoch⟩
    t.call ≠ .process ∧ s.span.isSome = true ∧
      (s.outcome t).result = .error (.noSuchVariable "level") ∧
      s.perform t = { s with bus := { s.bus with now := t.now } } := by
  intro before prepare s t
  have ht : t.call ≠ .process := by simp [t]
  have hs : s.span.isSome = true := by
    unfold s prepare before
    decide +kernel
  have he : (s.outcome t).result = .error (.noSuchVariable "level") := by
    unfold t s prepare before
    decide +kernel
  exact ⟨ht, hs, he, failed_call_changes_nothing s ht he⟩

end Session

end VariableBridge
