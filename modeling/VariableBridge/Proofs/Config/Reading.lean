import VariableBridge.Config.Text
import VariableBridge.Proofs.Toml.Lines

/-!
# A configuration reads back

Main statements: the tables of a configuration have a line for each setting; what the lines
hold decodes to the settings; and the text of a configuration reads back as it.
-/

namespace VariableBridge

open Toml (FloatReadsBack IsMember Members Value integerBound)
open Toml.Value (toBool? toDouble? toNatBelow? toText? toTexts?)

namespace Toml.Value

/-- An array of strings is read as the list of these strings, in the same order. -/
theorem toTexts?_strings (texts : List String) :
    toTexts? (.array (texts.map .string)) = some texts := by
  change (texts.map Value.string).mapM toText? = some texts
  induction texts with
  | nil => rfl
  | cons s texts ih =>
    rw [List.map_cons, List.mapM_cons, ih]
    rfl

/-- An integer below the bound of a field is read as this number, so that a written count is
accepted again. -/
theorem toNatBelow?_integer {bound n : Nat} (hn : n < bound) :
    toNatBelow? bound (.integer n) = some n :=
  if_pos ⟨Int.natCast_nonneg n, hn⟩

end Toml.Value

namespace Settings

/-- The members of a table that holds settings. -/
def members (s : Settings) : Members := [
  ("vars", .array (s.vars.map .string)), ("source_id", .string s.sourceId),
  ("rt_strict", .bool s.rtStrict), ("activate", .bool s.activate),
  ("skip", .integer s.skip.toNat)]

/-- The settings of a bridge have no two members of one name, so that no written member shadows
another. -/
theorem nodup_members (s : Settings) : (s.members.map Prod.fst).Nodup := by
  have hnames : s.members.map Prod.fst =
      ["vars", "source_id", "rt_strict", "activate", "skip"] := rfl
  rw [hnames]
  decide

/-- Every line of the table of the bridge is the line of its member, in the order of the fields. -/
theorem areMembers (s : Settings) : List.Forall₂ IsMember s.tomlMembers s.members := by
  refine .cons ((Toml.writes_strings s.vars).isMember (by decide)) ?_
  refine .cons ((Toml.writes_string s.sourceId).isMember (by decide)) ?_
  refine .cons ((Toml.writes_bool s.rtStrict).isMember (by decide)) ?_
  refine .cons ((Toml.writes_bool s.activate).isMember (by decide)) ?_
  exact .cons ((Toml.writes_uint32 s.skip).isMember (by decide)) .nil

/-- The members of the table decode to the settings, whatever the form is in which the table was
written. -/
theorem ofToml?_members (s : Settings) (form : Toml.TableForm) :
    ofToml? (.table form s.members) = some s := by
  have hskip : toNatBelow? UInt32.size (.integer s.skip.toNat) = some s.skip.toNat :=
    Value.toNatBelow?_integer s.skip.toNat_lt
  have hfields : (Value.table form s.members).fields?
      ["vars", "source_id", "rt_strict", "activate", "skip"] =
        some (s.members.map fun m => some m.2) := rfl
  unfold ofToml?
  rw [hfields]
  simp only [members, List.map_cons, List.map_nil, Value.optional, Value.toTexts?_strings, toText?,
    toBool?, hskip, Option.map_some, UInt32.ofNat_toNat, Option.bind_eq_bind, Option.bind_some,
    Option.pure_def]

end Settings

namespace DemoSettings

/-- The members of a table that holds settings of the simulated host. -/
def members (d : DemoSettings) : Members := [
  ("sample_rate", .float d.sampleRate), ("fragment_size", .integer d.fragmentSize.toNat),
  ("cycles", .integer d.cycles.toNat), ("ws_port", .integer d.wsPort.toNat),
  ("spectrum_bins", .integer d.spectrumBins.toNat),
  ("realloc_every", .integer d.reallocEvery.toNat)]

/-- The settings of the host have no two members of one name, so that no written member shadows
another. -/
theorem nodup_members (d : DemoSettings) : (d.members.map Prod.fst).Nodup := by
  have hnames : d.members.map Prod.fst = ["sample_rate", "fragment_size", "cycles", "ws_port",
      "spectrum_bins", "realloc_every"] := rfl
  rw [hnames]
  decide

/-- The settings of the host can be written exactly if both of their 64-bit counts fit into the
integers of the format. -/
theorem isWritable_iff {d : DemoSettings} :
    d.isWritable = true ↔
      (d.cycles.toNat : Int) < integerBound ∧ (d.reallocEvery.toNat : Int) < integerBound := by
  unfold isWritable
  rw [Bool.and_eq_true, decide_eq_true_eq, decide_eq_true_eq]

/-- Every line of the table of the demo is the line of its member, if its numbers can be written at
all. -/
theorem areMembers {d : DemoSettings} (hwritable : d.isWritable = true)
    (hrate : FloatReadsBack d.sampleRate) : List.Forall₂ IsMember d.tomlMembers d.members := by
  obtain ⟨hcycles, hrealloc⟩ := isWritable_iff.mp hwritable
  refine .cons ((Toml.writes_float hrate).isMember (by decide)) ?_
  refine .cons ((Toml.writes_uint32 d.fragmentSize).isMember (by decide)) ?_
  refine .cons ((Toml.writes_nat hcycles).isMember (by decide)) ?_
  refine .cons ((Toml.writes_uint16 d.wsPort).isMember (by decide)) ?_
  refine .cons ((Toml.writes_uint32 d.spectrumBins).isMember (by decide)) ?_
  exact .cons ((Toml.writes_nat hrealloc).isMember (by decide)) .nil

/-- The members of the table decode to the settings of the demo, whatever the form of the table
is. -/
theorem ofToml?_members (d : DemoSettings) (form : Toml.TableForm) :
    ofToml? (.table form d.members) = some d := by
  have hfragment : toNatBelow? UInt32.size (.integer d.fragmentSize.toNat) =
      some d.fragmentSize.toNat := Value.toNatBelow?_integer d.fragmentSize.toNat_lt
  have hcycles : toNatBelow? UInt64.size (.integer d.cycles.toNat) = some d.cycles.toNat :=
    Value.toNatBelow?_integer d.cycles.toNat_lt
  have hport : toNatBelow? UInt16.size (.integer d.wsPort.toNat) = some d.wsPort.toNat :=
    Value.toNatBelow?_integer d.wsPort.toNat_lt
  have hbins : toNatBelow? UInt32.size (.integer d.spectrumBins.toNat) =
      some d.spectrumBins.toNat := Value.toNatBelow?_integer d.spectrumBins.toNat_lt
  have hrealloc : toNatBelow? UInt64.size (.integer d.reallocEvery.toNat) =
      some d.reallocEvery.toNat := Value.toNatBelow?_integer d.reallocEvery.toNat_lt
  have hfields : (Value.table form d.members).fields?
      ["sample_rate", "fragment_size", "cycles", "ws_port", "spectrum_bins", "realloc_every"] =
        some (d.members.map fun m => some m.2) := rfl
  unfold ofToml?
  rw [hfields]
  simp only [members, List.map_cons, List.map_nil, Value.optional, toDouble?, hfragment, hcycles,
    hport, hbins, hrealloc, Option.map_some, UInt32.ofNat_toNat, UInt16.ofNat_toNat,
    UInt64.ofNat_toNat, Option.bind_eq_bind, Option.bind_some, Option.pure_def]

end DemoSettings

namespace Configuration

/-- The members of a text decode to the configuration: one table for the bridge and one for the
demo. -/
theorem ofMembers?_tables (c : Configuration) :
    ofMembers? [("bridge", .table .named c.bridge.members),
      ("demo", .table .named c.demo.members)] = some c := by
  have hbridge := Settings.ofToml?_members c.bridge .named
  have hdemo := DemoSettings.ofToml?_members c.demo .named
  have hlookup : List.lookup "bridge" [("bridge", Value.table .named c.bridge.members),
      ("demo", .table .named c.demo.members)] = some (.table .named c.bridge.members) := rfl
  have hlookup' : List.lookup "demo" [("bridge", Value.table .named c.bridge.members),
      ("demo", .table .named c.demo.members)] = some (.table .named c.demo.members) := rfl
  unfold ofMembers?
  rw [hlookup, hlookup']
  simp only [Value.optional, hbridge, hdemo, Option.bind_eq_bind, Option.bind_some, Option.pure_def]

/-- The text of a configuration reads back as the configuration. -/
theorem read_of_write {c : Configuration} (hrate : FloatReadsBack c.demo.sampleRate)
    {text : String} (h : c.write = some text) : read text = some c := by
  by_cases hwritable : c.demo.isWritable = true
  · have hparse : Toml.parse (String.ofList (Toml.writeTable "bridge" c.bridge.tomlMembers ++
        '\n' :: Toml.writeTable "demo" c.demo.tomlMembers)) =
        some [("bridge", .table .named c.bridge.members),
          ("demo", .table .named c.demo.members)] :=
      Toml.parse_writeTables (by decide) (by decide) (by decide) c.bridge.areMembers
        c.bridge.nodup_members (DemoSettings.areMembers hwritable hrate) c.demo.nodup_members
    rw [write, if_pos hwritable] at h
    unfold read
    rw [← Option.some.inj h, hparse]
    exact ofMembers?_tables c
  · rw [write, if_neg hwritable] at h
    cases h

end Configuration

end VariableBridge
