import VariableBridge.Proofs.Json.Numerals

/-!
# Encodings

A value encodes a datum if its text reads back, if it may be stored before its
type is known, and if it decodes to the datum. Texts, numbers and lists have
encodings; those of the members of an object make up one of the object.
-/

namespace VariableBridge.Json

open Number (Single Double)

namespace Value

variable {α : Type} {depth : Nat}

/-- May the value be written and be stored with at most this many containers nested? -/
structure IsStorable (depth : Nat) (v : Value) : Prop where
  /-- The text of the value reads back. -/
  proper : v.IsProper
  /-- The value may be stored before its type is known. -/
  sound : isSound depth v = true

/-- Does the value decode to the datum, also after it was written and stored? -/
structure Encodes (v : Value) (depth : Nat) (decode : Value → Option α) (a : α) : Prop
    extends IsStorable depth v where
  /-- The value decodes to the datum. -/
  decodes : decode v = some a

/-- The text of an encoding is read as the datum that was encoded: printing, parsing and decoding
give it back. -/
theorem Encodes.reads {v : Value} {decode : Value → Option α} {a : α}
    (h : v.Encodes depth decode a) : (parse (print v)).bind decode = some a := by
  rw [parse_print h.proper]
  exact h.decodes

/-- A text encodes itself at any depth: whatever its characters are, it is escaped when it is
written and read back as it was. -/
theorem encodes_text (s : String) (depth : Nat) : (Value.text s).Encodes depth toText? s where
  proper := .text s
  sound := by simp [Value.text, isSound]
  decodes := rfl

/-- A truth value encodes itself at any depth, since its word is written and read as such. -/
theorem encodes_bool (b : Bool) (depth : Nat) : (Value.bool b).Encodes depth toBool? b where
  proper := .bool b
  sound := by simp [isSound]
  decodes := rfl

/-- An integer of 64 bits may be stored at any depth, because all its digits fit into a word. -/
theorem isStorable_integer (negative : Bool) {n : Nat} (hn : n < significandBound) (depth : Nat) :
    (Value.number ⟨negative, Nat.toDigits 10 n, [], none⟩).IsStorable depth where
  proper := .number (isProper_integer negative n)
  sound := by
    simp only [isSound]
    exact isSome_toDouble?_integer negative hn

/-- A natural number below a bound encodes itself for a reader with this bound, if the bound leaves
it in the integers that are stored exactly. -/
theorem encodes_natBelow {bound n : Nat} (hn : n < bound) (hbound : bound ≤ significandBound)
    (depth : Nat) : (Value.number (.ofNat n)).Encodes depth (toNatBelow? bound) n where
  toIsStorable := isStorable_integer false (lt_of_lt_of_le hn hbound) depth
  decodes := by
    unfold toNatBelow?
    simp only [Numeral.toNat?_ofNat, Option.filter_some, decide_eq_true hn, if_true]

/-- A 32-bit count encodes itself at any depth, as the integer that it is. -/
theorem encodes_uint32 (n : UInt32) (depth : Nat) :
    (Value.number (.ofNat n.toNat)).Encodes depth toUInt32? n where
  toIsStorable := (encodes_natBelow n.toNat_lt (by decide) depth).toIsStorable
  decodes := by
    have hbound : UInt32.size ≤ significandBound := by decide
    have hread := (encodes_natBelow n.toNat_lt hbound depth).decodes
    unfold toUInt32?
    rw [hread, Option.map_some, UInt32.ofNat_toNat]

/-- A signed 32-bit number encodes itself at any depth, its sign included. -/
theorem encodes_int32 (n : Int32) (depth : Nat) :
    (Value.number (.ofInt n.toInt)).Encodes depth toInt32? n where
  toIsStorable := by
    have hlow := n.le_toInt
    have hhigh := n.toInt_lt
    have hbound : significandBound = 2 ^ 64 := rfl
    exact isStorable_integer _ (by omega) depth
  decodes := by
    have hlow : Int32.minValue.toInt ≤ n.toInt := n.minValue_le_toInt
    have hhigh : n.toInt ≤ Int32.maxValue.toInt := n.toInt_le
    unfold toInt32?
    simp only [toInt?_ofInt, Option.filter_some, decide_eq_true hlow, decide_eq_true hhigh,
      Bool.and_self, if_true, Option.map_some, Int32.ofInt_toInt]

/-- A 32-bit float that reads back encodes itself: it is written as the shortest numeral that is
read as this float. -/
theorem encodes_single {x : Single} (hx : SingleReadsBack x) (depth : Nat) :
    (ofSingle x).Encodes depth toSingle? x := by
  obtain ⟨n, hn, hproper, hread, hsome⟩ := hx.exists_numeral
  rw [hn]
  exact ⟨⟨.number hproper, by simpa only [isSound] using hsome⟩, hread⟩

/-- A 64-bit float that reads back encodes itself: it is written as the shortest numeral that is
read as this float. -/
theorem encodes_double {x : Double} (hx : DoubleReadsBack x) (depth : Nat) :
    (ofDouble x).Encodes depth toDouble? x := by
  obtain ⟨n, hn, hproper, hread⟩ := hx.exists_numeral
  rw [hn]
  refine ⟨⟨.number hproper, ?_⟩, hread⟩
  simp only [isSound, hread, Option.isSome_some]

/-- Elements that are all sound at a depth are sound together, as the elements of an array one level
above. -/
theorem areSound_of_forall {elements : List Value} (h : ∀ v ∈ elements, isSound depth v = true) :
    areSound depth elements = true := by
  induction elements with
  | nil => simp only [areSound]
  | cons v rest ih =>
    have hrest := ih fun u hu => h u (List.mem_cons_of_mem v hu)
    simp only [areSound, h v List.mem_cons_self, hrest, Bool.and_self]

/-- An array of storable elements is storable with one level more. -/
theorem isStorable_array {elements : List Value} (h : ∀ v ∈ elements, v.IsStorable depth) :
    (Value.array elements).IsStorable (depth + 1) where
  proper := .array fun v hv => (h v hv).proper
  sound := by
    simp only [isSound]
    exact areSound_of_forall fun v hv => (h v hv).sound

/-- A list is encoded by an array of encodings of its elements, which takes one level of nesting
more. -/
theorem encodes_list {encode : α → Value} {decode : Value → Option α} {values : List α}
    (h : ∀ a ∈ values, (encode a).Encodes depth decode a) :
    (Value.array (values.map encode)).Encodes (depth + 1) (toList? decode) values where
  toIsStorable := by
    refine isStorable_array fun v hv => ?_
    obtain ⟨a, ha, rfl⟩ := List.mem_map.mp hv
    exact (h a ha).toIsStorable
  decodes := by
    unfold toList?
    induction values with
    | nil => rfl
    | cons a rest ih =>
      have hrest := ih fun b hb => h b (List.mem_cons_of_mem a hb)
      simp only [List.map_cons, List.mapM_cons, (h a List.mem_cons_self).decodes, hrest]
      rfl

/-- An array decodes if all its elements do, and a single one that does not makes the whole fail. -/
theorem isSome_toList?_array (decode : Value → Option α) (elements : List Value) :
    ((Value.array elements).toList? decode).isSome =
      elements.all fun v => (decode v).isSome := by
  change (elements.mapM decode).isSome = _
  induction elements with
  | nil => rfl
  | cons v rest ih =>
    rw [List.mapM_cons, List.all_cons, ← ih]
    cases decode v with
    | none => rfl
    | some a => cases rest.mapM decode <;> rfl

/-- An array decodes to as many elements as it has, so nothing is skipped and nothing is made up. -/
theorem length_of_toList?_array {decode : Value → Option α} {elements : List Value}
    {values : List α} (h : (Value.array elements).toList? decode = some values) :
    values.length = elements.length := by
  change elements.mapM decode = some values at h
  induction elements generalizing values with
  | nil =>
    obtain rfl := Option.some.inj h
    rfl
  | cons v rest ih =>
    rw [List.mapM_cons] at h
    obtain ⟨a, _, hrest⟩ := Option.bind_eq_some_iff.mp h
    obtain ⟨others, hothers, hcons⟩ := Option.bind_eq_some_iff.mp hrest
    obtain rfl := Option.some.inj hcons
    rw [List.length_cons, List.length_cons, ih hothers]

/-- Members whose values are all sound at a depth are sound together, as the members of a record one
level above. -/
theorem membersAreSound_of_forall {members : List (String × Value)}
    (h : ∀ m ∈ members, isSound depth m.2 = true) :
    membersAreSound depth (members.map fun m => (some m.1, m.2)) = true := by
  induction members with
  | nil => simp only [List.map_nil, membersAreSound]
  | cons m rest ih =>
    have hrest := ih fun n hn => h n (List.mem_cons_of_mem m hn)
    simp only [List.map_cons, membersAreSound, h m List.mem_cons_self, hrest, Option.isSome_some,
      Bool.and_self]

/-- A record of storable members is storable with one level more, whatever the names of the members
are. -/
theorem isStorable_record {members : List (String × Value)}
    (h : ∀ m ∈ members, m.2.IsStorable depth) : (Value.record members).IsStorable (depth + 1) where
  proper := .record fun m hm => (h m hm).proper
  sound := by
    simp only [Value.record, isSound]
    exact membersAreSound_of_forall fun m hm => (h m hm).sound

/-- A name that is given once is given with its own member, so it is not taken for a repetition. -/
theorem occurrences_le_one {members : List (String × Value)}
    (h : (members.map Prod.fst).Nodup) (name : String) :
    occurrences name (members.map fun m => (some m.1, m.2)) ≤ 1 := by
  have hcount : occurrences name (members.map fun m => (some m.1, m.2)) =
      (members.map Prod.fst).count name := by
    unfold occurrences
    rw [List.countP_map, List.count, List.countP_map]
    rfl
  rw [hcount]
  exact List.nodup_iff_count_le_one.mp h name

/-- A member of a record without two members of one name is the one that is found under its name. -/
theorem find?_of_nodup {members : List (String × Value)} (h : (members.map Prod.fst).Nodup)
    {m : String × Value} (hm : m ∈ members) :
    (members.map fun m => (some m.1, m.2)).find? (fun n => n.1 == some m.1) =
      some (some m.1, m.2) := by
  induction members with
  | nil => exact absurd hm List.not_mem_nil
  | cons first rest ih =>
    rw [List.map_cons, List.nodup_cons] at h
    rcases List.mem_cons.mp hm with rfl | hrest
    · simp
    · have hne : first.1 ≠ m.1 := by
        intro heq
        exact h.1 (heq ▸ List.mem_map_of_mem hrest)
      simp only [List.map_cons]
      rw [List.find?_cons_of_neg (by simpa using hne)]
      exact ih h.2 hrest

/-- Asked for its names in their order, an object gives the contents of its members in that
order. -/
theorem fields?_record {names : List String} {members : List (String × Value)}
    (hnames : members.map Prod.fst = names) (h : names.Nodup) :
    (Value.record members).fields? names = some (members.map fun m => some m.2) := by
  subst hnames
  have htexts : (members.map fun m => (some m.1, m.2)).all (fun m => m.1.isSome) = true := by
    simp
  have honce : (members.map Prod.fst).all (fun name =>
      occurrences name (members.map fun m => (some m.1, m.2)) ≤ 1) = true := by
    simp only [List.all_eq_true, decide_eq_true_eq]
    exact fun name _ => occurrences_le_one h name
  unfold fields? Value.record
  simp only [htexts, honce, Bool.and_self, if_true, List.map_map]
  congr 1
  refine List.map_congr_left fun m hm => ?_
  simp only [Function.comp_apply, find?_of_nodup h hm, Option.map_some]

end Value

end VariableBridge.Json
