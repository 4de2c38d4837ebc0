import VariableBridge.Bridge.Json
import VariableBridge.Proofs.Json.Encoding
import VariableBridge.Stream.Json

/-!
# The wire format

Messages, metadata and settings travel as JSON texts. Identities are written in
groups of hexadecimal digits, the kind of a message is one of its members, and
the values of a sample are tagged with their format. Main statement: what is
read from the text of a message is that message, and the same holds of metadata
and settings. Of floats and time stamps it is assumed that their own texts read
back.
-/

namespace VariableBridge

open Json (Value DoubleReadsBack SingleReadsBack required)
open Number (Single Double)

namespace StreamId

/-- Groups that are put between hyphens are found between them, if there are as many characters as
they take. -/
theorem ungroup_hyphenate {lengths : List Nat} (hne : lengths ≠ []) {cs : List Char}
    (h : cs.length = lengths.sum) : ungroup lengths (hyphenate lengths cs) = some cs := by
  induction lengths generalizing cs with
  | nil => exact absurd rfl hne
  | cons n rest ih =>
    rw [List.sum_cons] at h
    cases rest with
    | nil =>
      have hlength : cs.length = n := by simpa using h
      simp only [hyphenate, ungroup, ← hlength, List.take_length, if_true]
    | cons m others =>
      have hfront : (cs.take n).length = n := by
        rw [List.length_take]
        omega
      have hdrop : (cs.take n ++ '-' :: hyphenate (m :: others) (cs.drop n)).drop n =
          '-' :: hyphenate (m :: others) (cs.drop n) := List.drop_left' hfront
      have htake : (cs.take n ++ '-' :: hyphenate (m :: others) (cs.drop n)).take n = cs.take n :=
        List.take_left' hfront
      have hlength : (cs.drop n).length = (m :: others).sum := by
        rw [List.length_drop]
        omega
      have hrest := ih (List.cons_ne_nil m others) hlength
      simp only [hyphenate, ungroup, hdrop, htake, hrest, Option.map_some, List.take_append_drop]

/-- Hyphens come between groups of characters: there is one less of them than there are groups. -/
theorem length_hyphenate {lengths : List Nat} (hne : lengths ≠ []) {cs : List Char}
    (h : cs.length = lengths.sum) :
    (hyphenate lengths cs).length + 1 = cs.length + lengths.length := by
  induction lengths generalizing cs with
  | nil => exact absurd rfl hne
  | cons n rest ih =>
    rw [List.sum_cons] at h
    cases rest with
    | nil =>
      have hlength : cs.length = n := by simpa using h
      simp only [hyphenate, ← hlength, List.take_length, List.length_singleton]
    | cons m others =>
      have hlength : (cs.drop n).length = (m :: others).sum := by
        rw [List.length_drop]
        omega
      have hrest := ih (List.cons_ne_nil m others) hlength
      simp only [hyphenate, List.length_append, List.length_cons, List.length_take] at hrest ⊢
      rw [List.length_drop] at hrest
      omega

/-- A digit below sixteen that was written is read as this digit. -/
theorem digitValue_digitChar {n : Nat} (h : n < 16) : digitValue (Nat.digitChar n) = some n := by
  revert n
  decide

/-- One more digit stands behind sixteen times the number in front of it. -/
theorem readDigits_append_digit {cs : List Char} {n d : Nat} (h : readDigits cs = some n)
    (hd : d < 16) : readDigits (cs ++ [Nat.digitChar d]) = some (16 * n + d) := by
  unfold readDigits at h ⊢
  rw [List.foldlM_append, h]
  change (digitValue (Nat.digitChar d)).map (16 * n + ·) >>= some = _
  rw [digitValue_digitChar hd]
  rfl

/-- A number that was written with sixteen digits is read as this number, however large it is. -/
theorem readDigits_toDigits (n : Nat) : readDigits (Nat.toDigits 16 n) = some n := by
  induction n using Nat.strongRecOn with
  | _ n ih =>
    rcases Nat.lt_or_ge n 16 with hlt | hge
    · rw [Nat.toDigits_of_lt_base hlt]
      have hempty : readDigits [] = some 0 := rfl
      simpa using readDigits_append_digit hempty hlt
    · rw [Nat.toDigits_of_base_le (by decide) hge,
        readDigits_append_digit (ih (n / 16) (by omega)) (Nat.mod_lt n (by decide)),
        Nat.div_add_mod]

/-- Zeros in front of the digits of an identity change nothing about its number. -/
theorem readDigits_replicate_append (zeros : Nat) (cs : List Char) :
    readDigits (List.replicate zeros '0' ++ cs) = readDigits cs := by
  induction zeros with
  | zero => rfl
  | succ zeros ih =>
    rw [← ih]
    rfl

/-- Bare identities are not taken out of anything: a text of 36 characters has no room for a
prefix. -/
theorem unwrap_of_length {cs : List Char} (h : cs.length = 36) : unwrap cs = cs := by
  unfold unwrap
  split
  · rw [if_neg]
    rintro ⟨_, hlength⟩
    omega
  · simp only [List.splitAt_eq]
    rw [if_neg]
    rintro ⟨_, hlength⟩
    omega

/-- An identity reads back from its text, if it is one of those that 128 bits can number. -/
theorem read_write {id : StreamId} (h : id.number < identityCount) : read id.write = some id := by
  let digits := Nat.toDigits 16 id.number
  let padded := List.replicate (32 - digits.length) '0' ++ digits
  have hdigits : digits.length ≤ 32 := by
    rw [Nat.length_toDigits_le_iff (by decide) (by decide)]
    exact h
  have hpadded : padded.length = groupLengths.sum := by
    change (List.replicate (32 - digits.length) '0' ++ digits).length = 32
    rw [List.length_append, List.length_replicate]
    omega
  have hne : groupLengths ≠ [] := List.cons_ne_nil _ _
  have hlength : (hyphenate groupLengths padded).length = 36 := by
    have hgrouped := length_hyphenate hne hpadded
    rw [hpadded] at hgrouped
    exact Nat.succ.inj hgrouped
  have htext : id.write.toList = hyphenate groupLengths padded := by
    unfold write
    rw [Nat.mod_eq_of_lt h]
    exact String.toList_ofList
  have hread : readDigits padded = some id.number := by
    change readDigits (List.replicate (32 - digits.length) '0' ++ digits) = _
    rw [readDigits_replicate_append]
    exact readDigits_toDigits id.number
  unfold read
  simp only [htext, hlength, unwrap_of_length hlength, ungroup_hyphenate hne hpadded,
    Option.bind_eq_bind, Option.bind_some, hread]
  rfl

/-- Identities have encodings: the text of the identity, which needs no level of nesting. -/
theorem encodes {id : StreamId} (h : id.number < identityCount) (depth : Nat) :
    id.toJson.Encodes depth ofJson? id where
  toIsStorable := (Value.encodes_text id.write depth).toIsStorable
  decodes := by
    unfold ofJson? toJson
    rw [(Value.encodes_text id.write depth).decodes, Option.bind_some, read_write h]

end StreamId

/-- A format of channels encodes itself, as its name, also where it is read from a stored value. -/
theorem ChannelFormat.encodes (f : ChannelFormat) (stored : Bool) (depth : Nat) :
    f.toJson.Encodes depth (ofJson? stored) f where
  toIsStorable := (Value.encodes_text f.name depth).toIsStorable
  decodes := by cases f <;> rfl

/-- Metadata is decoded by its rate, with the other members as they were. -/
theorem StreamInfo.ofJson?_toJson {i : StreamInfo} {depth : Nat}
    (hrate : (Json.ofDouble i.nominalRate).IsStorable depth) (stored : Bool) :
    i.toJson.IsStorable (depth + 1) ∧
      ofJson? stored i.toJson =
        (Json.ofDouble i.nominalRate).toDouble?.map fun nominalRate => { i with nominalRate } := by
  constructor
  · refine Value.isStorable_record ?_
    simp only [List.forall_mem_cons, List.not_mem_nil, false_implies, implies_true, and_true]
    exact ⟨(Value.encodes_text _ _).toIsStorable, (Value.encodes_text _ _).toIsStorable,
      (Value.encodes_uint32 _ _).toIsStorable, hrate,
      (i.channelFormat.encodes stored _).toIsStorable, (Value.encodes_text _ _).toIsStorable⟩
  · have hfields : i.toJson.fields? memberNames = some _ := Value.fields?_record rfl (by decide)
    have hcount := (Value.encodes_uint32 i.channelCount 0).decodes
    have hformat := (i.channelFormat.encodes stored 0).decodes
    unfold ofJson?
    rw [hfields]
    simp only [List.map_cons, List.map_nil, required, Option.bind_some, hcount, hformat]
    cases (Json.ofDouble i.nominalRate).toDouble? <;> rfl

/-- Metadata of a stream encode themselves if their rate reads back, also where they are read from a
stored value. -/
theorem StreamInfo.encodes {i : StreamInfo} (h : DoubleReadsBack i.nominalRate) (stored : Bool)
    (depth : Nat) : i.toJson.Encodes (depth + 1) (ofJson? stored) i := by
  have hrate := Value.encodes_double h depth
  obtain ⟨hstorable, hdecode⟩ := ofJson?_toJson hrate.toIsStorable stored
  refine ⟨hstorable, hdecode.trans ?_⟩
  rw [hrate.decodes]
  rfl

/-- Do the texts of the floats read back? -/
def SampleValues.ReadBack : SampleValues → Prop
  | .int32 _ => True
  | .float32 values => ∀ x ∈ values, SingleReadsBack x
  | .float64 values => ∀ x ∈ values, DoubleReadsBack x

/-- Has the message an identity and a sequence number that fit into it, and do the texts of
its floats and of its time stamp read back? -/
def BusMessage.IsTransmittable : BusMessage → Prop
  | .opened id info => id.number < StreamId.identityCount ∧ DoubleReadsBack info.nominalRate
  | .sample frame => frame.id.number < StreamId.identityCount ∧ frame.sequence < sequenceBound ∧
    Time.Instant.read frame.timestamp.write = some frame.timestamp ∧ frame.values.ReadBack
  | .closed id _ => id.number < StreamId.identityCount

/-- A choice is encoded by a record of one member, which names the choice and holds its content. -/
theorem choice?_record (name : String) (content : Value) :
    (Value.record [(name, content)]).choice? = some (name, some content) := rfl

/-- A record of one storable member is storable one level above, which is how the kinds of values
are told apart. -/
theorem isStorable_choice (name : String) {content : Value} {depth : Nat}
    (h : content.IsStorable depth) : (Value.record [(name, content)]).IsStorable (depth + 1) := by
  refine Value.isStorable_record fun m hm => ?_
  rw [List.mem_singleton.mp hm]
  exact h

/-- Values of a sample encode themselves if all their floats read back: the name of their type is
told with them. -/
theorem SampleValues.encodes {v : SampleValues} (h : v.ReadBack) (depth : Nat) :
    v.toJson.Encodes (depth + 2) ofJson? v := by
  cases v with
  | int32 values =>
    have hlist := Value.encodes_list fun n (_ : n ∈ values) => Value.encodes_int32 n depth
    refine ⟨isStorable_choice _ hlist.toIsStorable, ?_⟩
    have hread := hlist.decodes
    unfold toJson ofJson?
    simp only [choice?_record, if_true, hread, Option.map_some]
  | float32 values =>
    have hlist := Value.encodes_list fun x (hx : x ∈ values) =>
      Value.encodes_single (h x hx) depth
    refine ⟨isStorable_choice _ hlist.toIsStorable, ?_⟩
    have hread := hlist.decodes
    have hname : "float32" ≠ "int32" := by decide
    unfold toJson ofJson?
    simp only [choice?_record, if_neg hname, if_true, hread, Option.map_some]
  | float64 values =>
    have hlist := Value.encodes_list fun x (hx : x ∈ values) =>
      Value.encodes_double (h x hx) depth
    refine ⟨isStorable_choice _ hlist.toIsStorable, ?_⟩
    have hread := hlist.decodes
    have hname : "float64" ≠ "int32" := by decide
    have hname' : "float64" ≠ "float32" := by decide
    unfold toJson ofJson?
    simp only [choice?_record, if_neg hname, if_neg hname', if_true, hread, Option.map_some]

/-- The kind is one of the members of a message, and it is told from the others. -/
theorem BusMessage.splitKind_record (kind : String) {names : List String}
    {members : List (String × Value)} (hnames : members.map Prod.fst = names)
    (h : "kind" ∉ names) :
    splitKind (.record (("kind", .text kind) :: members)) = some (kind, .record members) := by
  have hnot : ∀ m ∈ members.map (fun m => (some m.1, m.2)), ¬ (m.1 == some "kind") = true := by
    intro m hm
    obtain ⟨n, hn, rfl⟩ := List.mem_map.mp hm
    rw [beq_iff_eq]
    intro heq
    exact h (hnames ▸ List.mem_map.mpr ⟨n, hn, Option.some.inj heq⟩)
  have hothers : ∀ m ∈ members.map (fun m => (some m.1, m.2)),
      (not ∘ fun m : Option String × Value => m.1 == some "kind") m = true := by
    intro m hm
    simpa using hnot m hm
  unfold splitKind Value.record
  simp only [List.map_cons, List.partition_eq_filter_filter]
  rw [List.filter_cons_of_pos (by simp), List.filter_eq_nil_iff.mpr hnot,
    List.filter_cons_of_neg (by simp), List.filter_eq_self.mpr hothers]
  rfl

/-- The message of a stored value is decoded by its kind, whatever the other members are called. -/
theorem BusMessage.ofJson?_record (kind : String) (names : List String)
    {members : List (String × Value)} (hnames : members.map Prod.fst = names)
    (h : "kind" ∉ names)
    (hstorable : ∀ m ∈ members, m.2.IsStorable (Value.nestingLimit - 1)) :
    (Value.record (("kind", .text kind) :: members)).IsStorable Value.nestingLimit ∧
      ofJson? (.record (("kind", .text kind) :: members)) =
        if kind = "stream_opened" then openedOfJson? (.record members)
        else if kind = "sample" then (SampleFrame.ofJson? (.record members)).map .sample
        else if kind = "stream_closed" then closedOfJson? (.record members)
        else none := by
  have hall : (Value.record (("kind", .text kind) :: members)).IsStorable Value.nestingLimit := by
    have hmembers : ∀ m ∈ ("kind", Value.text kind) :: members,
        m.2.IsStorable (Value.nestingLimit - 1) := by
      intro m hm
      rcases List.mem_cons.mp hm with rfl | hm
      · exact (Value.encodes_text kind _).toIsStorable
      · exact hstorable m hm
    exact Value.isStorable_record hmembers
  refine ⟨hall, ?_⟩
  unfold ofJson?
  rw [if_pos hall.sound, splitKind_record kind hnames h]

/-- An opening is decoded by its metadata, with the identity as it was. -/
theorem BusMessage.ofJson?_opened {id : StreamId} {info : StreamInfo}
    (hid : id.number < StreamId.identityCount)
    (hinfo : info.toJson.IsStorable (Value.nestingLimit - 1)) :
    (opened id info).toJson.IsStorable Value.nestingLimit ∧
      ofJson? (opened id info).toJson =
        (StreamInfo.ofJson? true info.toJson).map (opened id) := by
  have hmembers : ∀ m ∈ [("uid", id.toJson), ("info", info.toJson)],
      m.2.IsStorable (Value.nestingLimit - 1) := by
    simp only [List.forall_mem_cons, List.not_mem_nil, false_implies, implies_true, and_true]
    exact ⟨(StreamId.encodes hid _).toIsStorable, hinfo⟩
  obtain ⟨hall, hdecode⟩ :=
    ofJson?_record "stream_opened" ["uid", "info"] rfl (by decide) hmembers
  have hfields : (Value.record [("uid", id.toJson), ("info", info.toJson)]).fields?
      ["uid", "info"] = some [some id.toJson, some info.toJson] :=
    Value.fields?_record rfl (by decide)
  refine ⟨hall, hdecode.trans ?_⟩
  rw [if_pos rfl]
  unfold openedOfJson?
  rw [hfields]
  simp only [required, Option.bind_some, (StreamId.encodes hid 0).decodes]
  cases StreamInfo.ofJson? true info.toJson <;> rfl

/-- A sample is decoded by its values, with the other members as they were. -/
theorem BusMessage.ofJson?_sample {frame : SampleFrame}
    (hid : frame.id.number < StreamId.identityCount) (hsequence : frame.sequence < sequenceBound)
    (htimestamp : Time.Instant.read frame.timestamp.write = some frame.timestamp)
    (hvalues : frame.values.toJson.IsStorable (Value.nestingLimit - 1)) :
    (sample frame).toJson.IsStorable Value.nestingLimit ∧
      ofJson? (sample frame).toJson =
        (SampleValues.ofJson? frame.values.toJson).map fun values =>
          sample { frame with values } := by
  have hmembers : ∀ m ∈ frame.members, m.2.IsStorable (Value.nestingLimit - 1) := by
    unfold SampleFrame.members
    simp only [List.forall_mem_cons, List.not_mem_nil, false_implies, implies_true, and_true]
    exact ⟨(StreamId.encodes hid _).toIsStorable, (Value.encodes_text _ _).toIsStorable,
      (Value.encodes_natBelow hsequence (le_refl _) _).toIsStorable,
      (Value.encodes_text _ _).toIsStorable, hvalues⟩
  obtain ⟨hall, hdecode⟩ :=
    ofJson?_record "sample" SampleFrame.memberNames rfl (by decide) hmembers
  have hfields : (Value.record frame.members).fields? SampleFrame.memberNames = some _ :=
    Value.fields?_record rfl (by decide)
  have hkind : "sample" ≠ "stream_opened" := by decide
  refine ⟨hall, hdecode.trans ?_⟩
  rw [if_neg hkind, if_pos rfl]
  unfold SampleFrame.ofJson?
  rw [hfields]
  simp only [SampleFrame.members, List.map_cons, List.map_nil, required, Option.bind_some,
    (StreamId.encodes hid 0).decodes, (Value.encodes_text _ 0).decodes,
    (Value.encodes_natBelow hsequence (le_refl _) 0).decodes, htimestamp]
  cases SampleValues.ofJson? frame.values.toJson <;> rfl

/-- What can be transmitted has an encoding, for each of the three kinds of messages. -/
theorem BusMessage.encodes {m : BusMessage} (h : m.IsTransmittable) :
    m.toJson.Encodes Value.nestingLimit ofJson? m := by
  cases m with
  | opened id info =>
    obtain ⟨hid, hrate⟩ := h
    have hinfo := StreamInfo.encodes hrate true (Value.nestingLimit - 2)
    obtain ⟨hall, hdecode⟩ := ofJson?_opened hid hinfo.toIsStorable
    refine ⟨hall, hdecode.trans ?_⟩
    rw [hinfo.decodes]
    rfl
  | sample frame =>
    obtain ⟨hid, hsequence, htimestamp, hvalues⟩ := h
    have hcontent := SampleValues.encodes hvalues (Value.nestingLimit - 3)
    obtain ⟨hall, hdecode⟩ := ofJson?_sample hid hsequence htimestamp hcontent.toIsStorable
    refine ⟨hall, hdecode.trans ?_⟩
    rw [hcontent.decodes]
    rfl
  | closed id name =>
    have hmembers : ∀ m ∈ [("uid", id.toJson), ("name", .text name)],
        m.2.IsStorable (Value.nestingLimit - 1) := by
      simp only [List.forall_mem_cons, List.not_mem_nil, false_implies, implies_true, and_true]
      exact ⟨(StreamId.encodes h _).toIsStorable, (Value.encodes_text _ _).toIsStorable⟩
    obtain ⟨hall, hdecode⟩ :=
      ofJson?_record "stream_closed" ["uid", "name"] rfl (by decide) hmembers
    have hfields : (Value.record [("uid", id.toJson), ("name", .text name)]).fields?
        ["uid", "name"] = some [some id.toJson, some (.text name)] :=
      Value.fields?_record rfl (by decide)
    have hkind : "stream_closed" ≠ "stream_opened" := by decide
    have hkind' : "stream_closed" ≠ "sample" := by decide
    refine ⟨hall, hdecode.trans ?_⟩
    rw [if_neg hkind, if_neg hkind', if_pos rfl]
    unfold closedOfJson?
    rw [hfields]
    simp only [required, Option.bind_some, (StreamId.encodes h 0).decodes,
      (Value.encodes_text _ 0).decodes]
    rfl

/-- Settings encode themselves, whatever their names, their source and their skip interval are. -/
theorem Settings.encodes (s : Settings) (depth : Nat) :
    s.toJson.Encodes (depth + 2) ofJson? s := by
  have hvars : (Value.array (s.vars.map .text)).Encodes (depth + 1) (Value.toList? Value.toText?)
      s.vars := Value.encodes_list fun name _ => Value.encodes_text name depth
  constructor
  · refine Value.isStorable_record ?_
    simp only [List.forall_mem_cons, List.not_mem_nil, false_implies, implies_true, and_true]
    exact ⟨hvars.toIsStorable, (Value.encodes_text _ _).toIsStorable,
      (Value.encodes_bool _ _).toIsStorable, (Value.encodes_bool _ _).toIsStorable,
      (Value.encodes_uint32 _ _).toIsStorable⟩
  · have hfields : s.toJson.fields? memberNames = some _ := Value.fields?_record rfl (by decide)
    have hskip := (Value.encodes_uint32 s.skip 0).decodes
    have hread := hvars.decodes
    unfold ofJson?
    rw [hfields]
    simp only [List.map_cons, List.map_nil, Json.optional, hskip, hread]
    rfl

/-- What is read from the text of a message that can be transmitted is that message. The same
holds of metadata whose rate has a text that reads back, on its own or inside of a message, and
of all settings. -/
theorem wire_format_decodes_what_was_encoded :
    (∀ m : BusMessage, m.IsTransmittable → BusMessage.read m.write = some m) ∧
    (∀ (i : StreamInfo) (stored : Bool), DoubleReadsBack i.nominalRate →
      (Json.parse (Json.print i.toJson)).bind (StreamInfo.ofJson? stored) = some i) ∧
    ∀ s : Settings, Settings.read s.write = some s := by
  refine ⟨fun m hm => ?_, fun i stored hi => ?_, fun s => ?_⟩
  · exact (BusMessage.encodes hm).reads
  · exact (StreamInfo.encodes hi stored 0).reads
  · exact (Settings.encodes s 0).reads

/-- A sample with the last sequence number and the last identity, whose name needs every kind
of escape and whose floats are a negative zero, a tenth, the least and the greatest of all. -/
def hardSample : SampleFrame where
  id := ⟨StreamId.identityCount - 1⟩
  name := "a \"b\" \\ \n \x01 é 𝄞"
  sequence := sequenceBound - 1
  timestamp := ⟨1735689599, 1500000000⟩
  values := .float32 [⟨0x80000000⟩, ⟨0x3dcccccd⟩, ⟨1⟩, ⟨0x7f7fffff⟩]

/-- Metadata with a rate that is no whole number. -/
def slowInfo : StreamInfo := ⟨"", "VAR_REAL", 4294967295, Double.nearest false 1 10, .float32, "\t"⟩

/-- A sample with floats at the ends of their range and metadata with a rate that is no whole
number keep all their bits on the wire. -/
theorem wire_format_of_hard_sample :
    BusMessage.read (BusMessage.sample hardSample).write = some (.sample hardSample) ∧
      (Json.parse (Json.print slowInfo.toJson)).bind (StreamInfo.ofJson? false) =
        some slowInfo := by
  have hfloats : ∀ x ∈ [(⟨0x80000000⟩ : Single), ⟨0x3dcccccd⟩, ⟨1⟩, ⟨0x7f7fffff⟩],
      SingleReadsBack x := by decide +kernel
  have hsample : (BusMessage.sample hardSample).IsTransmittable := by
    refine ⟨?_, ?_, ?_, hfloats⟩
    · decide +kernel
    · decide
    · decide +kernel
  have hrate : DoubleReadsBack slowInfo.nominalRate := by decide +kernel
  exact ⟨wire_format_decodes_what_was_encoded.1 _ hsample,
    wire_format_decodes_what_was_encoded.2.1 _ _ hrate⟩

end VariableBridge
