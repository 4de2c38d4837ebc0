import VariableBridge.Proofs.Toml.Numbers
import VariableBridge.Proofs.Toml.Strings
import VariableBridge.Toml.Reader

/-!
# Tables read back

A table is written under its header, with a line for each of its members. Main statements:
each value that is written reads back at the end of its line; the lines of a table add its
members one after the other; and two tables with different names are read as two members.
-/

namespace VariableBridge.Toml

/-- Is this the text of a value, which reads back at the end of a line? -/
structure Writes (text : List Char) (v : Value) : Prop where
  /-- It begins with no blank. -/
  head : ∃ c tail, text = c :: tail ∧ isWs c = false
  /-- It is read from a budget that exceeds its length. -/
  read : ∀ (budget : Nat) (rest : List Char), text.length < budget → EndsLine rest →
    readValue budget (depthBound - 1) (text ++ rest) = some (v, rest)

/-- A budget above some number is a successor, so that a reader that spends one of it can take its
first step. -/
theorem exists_succ_of_lt {n budget : Nat} (h : n < budget) : ∃ b, budget = b + 1 :=
  Nat.exists_eq_add_one_of_ne_zero (Nat.ne_zero_of_lt h)

/-- The words for true and false are texts of values: they read back as the same truth value at the
end of a line. -/
theorem writes_bool (b : Bool) : Writes (writeBool b) (.bool b) where
  head := by
    cases b
    · exact ⟨'f', ['a', 'l', 's', 'e'], rfl, rfl⟩
    · exact ⟨'t', ['r', 'u', 'e'], rfl, rfl⟩
  read budget rest hbudget _ := by
    obtain ⟨budget, rfl⟩ := exists_succ_of_lt hbudget
    cases b <;> rfl

/-- Does a number begin with this character? -/
def IsNumberHead (c : Char) : Prop := c.isDigit = true ∨ c = '-' ∨ c = 'i' ∨ c = 'n'

/-- A number begins with no other character than a digit, a sign, or the first letter of a special
float. -/
theorem IsNumberHead.ne {c d : Char} (h : IsNumberHead c) (hdigit : d.isDigit = false)
    (hothers : d ≠ '-' ∧ d ≠ 'i' ∧ d ≠ 'n') : c ≠ d := by
  rintro rfl
  rcases h with h | rfl | rfl | rfl
  · rw [hdigit] at h
    cases h
  · exact hothers.1 rfl
  · exact hothers.2.1 rfl
  · exact hothers.2.2 rfl

/-- What begins like a number is read as one: a sign, a digit, or the letter of a named float. -/
theorem readValue_of_numberHead {c : Char} (hc : IsNumberHead c) (budget depth : Nat)
    (tail : List Char) : readValue (budget + 1) depth (c :: tail) = readNumber (c :: tail) := by
  unfold readValue
  split
  next heq => exact absurd (List.cons.inj heq).1 (hc.ne rfl (by decide))
  next heq => exact absurd (List.cons.inj heq).1 (hc.ne rfl (by decide))
  next heq => exact absurd (List.cons.inj heq).1 (hc.ne rfl (by decide))
  next heq => exact absurd (List.cons.inj heq).1 (hc.ne rfl (by decide))
  next heq => exact absurd (List.cons.inj heq).1 (hc.ne rfl (by decide))
  next heq => exact absurd (List.cons.inj heq).1 (hc.ne rfl (by decide))
  next => rfl

/-- A text that begins like a number, and that the number reader reads to the end of a line, is the
text of a value. -/
theorem writes_number {text : List Char} {v : Value}
    (hhead : ∃ c tail, text = c :: tail ∧ IsNumberHead c)
    (hread : ∀ rest, EndsLine rest → readNumber (text ++ rest) = some (v, rest)) :
    Writes text v := by
  obtain ⟨c, tail, rfl, hc⟩ := hhead
  refine ⟨⟨c, tail, rfl, ?_⟩, ?_⟩
  · have hspace : c ≠ ' ' := hc.ne rfl (by decide)
    have htab : c ≠ '\t' := hc.ne rfl (by decide)
    unfold isWs
    rw [beq_false_of_ne hspace, beq_false_of_ne htab]
    rfl
  · intro budget rest hbudget hr
    obtain ⟨budget, rfl⟩ := exists_succ_of_lt hbudget
    exact (readValue_of_numberHead hc budget _ (tail ++ rest)).trans (hread rest hr)

/-- An integer that fits into 64 bits is written as a value that reads back as this integer. -/
theorem writes_nat {n : Nat} (hn : (n : Int) < integerBound) :
    Writes (writeNat n) (.integer n) := by
  refine writes_number ?_ fun rest hr => readNumber_writeNat hn hr
  obtain ⟨c, tail, hhead⟩ := List.exists_cons_of_ne_nil (Nat.toDigits_ne_nil (b := 10) (n := n))
  refine ⟨c, tail, hhead, .inl (Json.isDigit_of_mem_digits (n := n) ?_)⟩
  rw [hhead]
  exact List.mem_cons_self

/-- The digits of a 32-bit count are the text of that integer, which is below the bound of the
integers of the format. -/
theorem writes_uint32 (x : UInt32) : Writes (writeNat x.toNat) (.integer x.toNat) := by
  have hlt := x.toNat_lt
  refine writes_nat ?_
  unfold integerBound
  omega

/-- The digits of a port number are the text of that integer, which is far below the bound of the
integers of the format. -/
theorem writes_uint16 (x : UInt16) : Writes (writeNat x.toNat) (.integer x.toNat) := by
  have hlt := x.toNat_lt
  refine writes_nat ?_
  unfold integerBound
  omega

/-- The text of a float begins like a number, also for the infinities and for what is not a
number. -/
theorem head_writeFloat (x : Number.Double) :
    ∃ c tail, writeFloat x = c :: tail ∧ IsNumberHead c := by
  cases hdatum : x.datum with
  | nan => exact ⟨'n', ['a', 'n'], by rw [writeFloat, hdatum]; rfl, .inr (.inr (.inr rfl))⟩
  | infinite negative =>
    unfold writeFloat
    rw [hdatum]
    cases negative
    · exact ⟨'i', ['n', 'f'], rfl, .inr (.inr (.inl rfl))⟩
    · exact ⟨'-', ['i', 'n', 'f'], rfl, .inr (.inl rfl)⟩
  | finite negative m e =>
    obtain ⟨whole, fraction, htext, hne, hwhole, _⟩ :=
      exists_parts_positional (Number.shortestDecimal .binary64 .up m e)
    rw [writeFloat_of_finite hdatum, htext]
    cases negative with
    | true => exact ⟨'-', _, rfl, .inr (.inl rfl)⟩
    | false =>
      obtain ⟨c, tail, rfl⟩ := List.exists_cons_of_ne_nil hne
      exact ⟨c, _, rfl, .inl (hwhole c List.mem_cons_self)⟩

/-- A float whose text reads back at the end of a line is written as a value of the table. -/
theorem writes_float {x : Number.Double} (h : FloatReadsBack x) :
    Writes (writeFloat x) (.float x) :=
  writes_number (head_writeFloat x) fun _ hr => readNumber_writeFloat h hr

/-- A string begins with a quote, of one kind or the other, which tells it from all other values. -/
theorem head_writeString (s : String) :
    ∃ quote tail, writeString s = quote :: tail ∧ (quote = '"' ∨ quote = '\'') := by
  unfold writeString
  dsimp only
  split
  · exact ⟨'"', _, rfl, .inl rfl⟩
  · exact ⟨'\'', _, rfl, .inr rfl⟩
  · exact ⟨'"', _, rfl, .inl rfl⟩
  · exact ⟨'\'', _, rfl, .inr rfl⟩

/-- A written string reads back before any rest that does not begin with a quote, whatever notation
was chosen for it. -/
theorem readValue_writeString (s : String) (budget depth : Nat) {rest : List Char}
    (hrest : ∀ c ∈ rest.head?, c ≠ '"' ∧ c ≠ '\'') :
    readValue (budget + 1) depth (writeString s ++ rest) = some (.string s, rest) := by
  have hread := readString_writeString s hrest
  obtain ⟨quote, tail, hhead, rfl | rfl⟩ := head_writeString s
  · rw [hhead, List.cons_append] at hread ⊢
    rw [readValue, hread]
    rfl
  · rw [hhead, List.cons_append] at hread ⊢
    rw [readValue, hread]
    rfl

/-- The text of a string is the text of a value, since a quote never stands at the end of a line
behind it. -/
theorem writes_string (s : String) : Writes (writeString s) (.string s) where
  head := by
    obtain ⟨quote, tail, hhead, rfl | rfl⟩ := head_writeString s
    · exact ⟨'"', tail, hhead, rfl⟩
    · exact ⟨'\'', tail, hhead, rfl⟩
  read budget rest hbudget hr := by
    obtain ⟨budget, rfl⟩ := exists_succ_of_lt hbudget
    refine readValue_writeString s budget _ fun c hc => ?_
    rw [hr c hc]
    decide

/-- The lines of the elements of an array. -/
def elementLines (texts : List String) : List Char :=
  texts.flatMap fun s => "    ".toList ++ writeString s ++ [',', '\n']

/-- Every element takes a line of its own, so the text of an array is at least as long as the
array. -/
theorem length_le_elementLines (texts : List String) :
    texts.length ≤ (elementLines texts).length := by
  induction texts with
  | nil => exact Nat.le_refl 0
  | cons s texts ih =>
    change texts.length + 1 ≤ ("    ".toList ++ writeString s ++ [',', '\n'] ++
      elementLines texts).length
    rw [List.length_append, List.length_append]
    simp only [List.length_cons]
    omega

/-- What begins with a quote is an element and not the end of an array. -/
theorem readElements_of_quote {quote : Char} (hquote : quote = '"' ∨ quote = '\'')
    (budget depth : Nat) (tail : List Char) :
    readElements (budget + 1) depth (quote :: tail) =
      match readValue budget depth (quote :: tail) with
      | none => none
      | some (value, rest) =>
        match skipLines rest with
        | ']' :: after => some ([value], after)
        | ',' :: inner =>
          (readElements budget depth (skipLines inner)).map fun r => (value :: r.1, r.2)
        | _ => none := by
  rcases hquote with rfl | rfl <;> rfl

/-- The last element of an array is followed by its end, with no comma between them. -/
theorem readElements_last (s : String) (budget depth : Nat) (rest : List Char) :
    readElements (budget + 2) depth (writeString s ++ ']' :: rest) =
      some ([.string s], rest) := by
  have hread : readValue (budget + 1) depth (writeString s ++ ']' :: rest) =
      some (.string s, ']' :: rest) :=
    readValue_writeString s budget depth fun c hc => by
      obtain rfl : ']' = c := Option.some.inj hc
      decide
  obtain ⟨quote, tail, hhead, hquote⟩ := head_writeString s
  rw [hhead, List.cons_append] at hread ⊢
  rw [readElements_of_quote hquote, hread]
  rfl

/-- Any other element is followed by a comma and, on the next line, by the rest of the array. -/
theorem readElements_comma (s : String) (budget depth : Nat) (rest : List Char) :
    readElements (budget + 2) depth (writeString s ++ ',' :: rest) =
      (readElements (budget + 1) depth (skipLines rest)).map
        fun r => (.string s :: r.1, r.2) := by
  have hread : readValue (budget + 1) depth (writeString s ++ ',' :: rest) =
      some (.string s, ',' :: rest) :=
    readValue_writeString s budget depth fun c hc => by
      obtain rfl : ',' = c := Option.some.inj hc
      decide
  obtain ⟨quote, tail, hhead, hquote⟩ := head_writeString s
  rw [hhead, List.cons_append] at hread ⊢
  rw [readElements_of_quote hquote, hread]
  rfl

/-- The indentation of an element is passed over, together with the line break in front of it. -/
theorem skipLines_indented (s : String) (rest : List Char) :
    skipLines ('\n' :: ("    ".toList ++ (writeString s ++ rest))) = writeString s ++ rest := by
  obtain ⟨quote, tail, hhead, rfl | rfl⟩ := head_writeString s
  · rw [hhead]
    rfl
  · rw [hhead]
    rfl

/-- Elements on lines of their own are read up to the end of the array. -/
theorem readElements_elementLines {texts : List String} {budget : Nat}
    (hbudget : texts.length + 1 < budget) (depth : Nat) (rest : List Char) :
    readElements budget depth (skipLines ('\n' :: (elementLines texts ++ ']' :: rest))) =
      some (texts.map .string, rest) := by
  induction texts generalizing budget with
  | nil =>
    obtain ⟨budget, rfl⟩ := exists_succ_of_lt hbudget
    rfl
  | cons s texts ih =>
    obtain ⟨b, rfl⟩ : ∃ b, budget = b + 2 := ⟨budget - 2, by omega⟩
    have hline : elementLines (s :: texts) ++ ']' :: rest =
        "    ".toList ++ (writeString s ++
          ',' :: '\n' :: (elementLines texts ++ ']' :: rest)) := by
      simp [elementLines]
    rw [List.length_cons] at hbudget
    have hrest := ih (by omega : texts.length + 1 < b + 1)
    rw [hline, skipLines_indented, readElements_comma, hrest]
    rfl

/-- A single element stands on the line of the array and reads back as an array of one. -/
theorem readElements_single (s : String) {budget : Nat}
    (hbudget : (writeString s ++ [']']).length < budget) (depth : Nat) (rest : List Char) :
    readElements budget depth (skipLines (writeString s ++ [']'] ++ rest)) =
      some ([.string s], rest) := by
  obtain ⟨quote, tail, hhead, hquote⟩ := head_writeString s
  have hskip : skipLines (writeString s ++ ([']'] ++ rest)) = writeString s ++ ']' :: rest := by
    rw [hhead]
    rcases hquote with rfl | rfl <;> rfl
  have hlong : 2 ≤ budget := by
    rw [hhead, List.cons_append, List.length_cons] at hbudget
    omega
  obtain ⟨budget, rfl⟩ := Nat.exists_eq_add_of_le' hlong
  rw [List.append_assoc, hskip, readElements_last]

/-- The elements of an array are read behind its bracket, with a budget as long as the text. -/
theorem elements_writeStrings (texts : List String) :
    ∃ tail, writeStrings texts = '[' :: tail ∧
      ∀ budget depth rest, tail.length < budget →
        readElements budget depth (skipLines (tail ++ rest)) = some (texts.map .string, rest) := by
  match texts with
  | [] =>
    refine ⟨[']'], rfl, fun budget depth rest hbudget => ?_⟩
    obtain ⟨budget, rfl⟩ := exists_succ_of_lt hbudget
    rfl
  | [s] =>
    refine ⟨writeString s ++ [']'], rfl, fun budget depth rest hbudget => ?_⟩
    exact readElements_single s hbudget depth rest
  | s :: t :: texts =>
    refine ⟨'\n' :: (elementLines (s :: t :: texts) ++ [']']), rfl,
      fun budget depth rest hbudget => ?_⟩
    have hlength := length_le_elementLines (s :: t :: texts)
    have hlines : (s :: t :: texts).length + 1 < budget := by
      simp only [List.length_append, List.length_cons, List.length_nil] at hbudget hlength ⊢
      omega
    rw [List.cons_append, List.append_assoc]
    exact readElements_elementLines hlines depth rest

/-- An array of strings is written as one, on however many lines. -/
theorem writes_strings (texts : List String) :
    Writes (writeStrings texts) (.array (texts.map .string)) where
  head := by
    obtain ⟨tail, htext, _⟩ := elements_writeStrings texts
    exact ⟨'[', tail, htext, rfl⟩
  read budget rest hbudget _ := by
    obtain ⟨tail, htext, helements⟩ := elements_writeStrings texts
    obtain ⟨b, rfl⟩ := exists_succ_of_lt hbudget
    rw [htext, List.length_cons] at hbudget
    rw [htext, List.cons_append]
    change (readElements b (depthBound - 2) (skipLines (tail ++ rest))).map _ = _
    rw [helements b _ rest (by omega)]
    rfl

/-- Can this name stand without quotes? -/
def IsBareKey (name : String) : Prop :=
  name.toList ≠ [] ∧ ∀ c ∈ name.toList, isBareKeyChar c = true

instance (name : String) : Decidable (IsBareKey name) :=
  decidable_of_iff (!name.toList.isEmpty && name.toList.all isBareKeyChar) (by simp [IsBareKey])

/-- A character of a bare key differs from every character that may not stand in one. -/
theorem ne_of_isBareKeyChar {c d : Char} (hc : isBareKeyChar c = true)
    (hd : isBareKeyChar d = false) : c ≠ d := by
  rintro rfl
  rw [hc] at hd
  cases hd

/-- A line that begins with a bare key begins with no mark of another kind. -/
theorem IsBareKey.exists_head {name : String} (h : IsBareKey name) :
    ∃ c tail, name.toList = c :: tail ∧ isWs c = false ∧
      ∀ d, isBareKeyChar d = false → c ≠ d := by
  obtain ⟨c, tail, hhead⟩ := List.exists_cons_of_ne_nil h.1
  have hc : isBareKeyChar c = true := h.2 c (hhead ▸ List.mem_cons_self)
  refine ⟨c, tail, hhead, ?_, fun d hd => ne_of_isBareKeyChar hc hd⟩
  unfold isWs
  rw [beq_false_of_ne (ne_of_isBareKeyChar hc rfl), beq_false_of_ne (ne_of_isBareKeyChar hc rfl)]
  rfl

/-- No blank is passed over in front of a character that is none, so that a value is read where it
begins. -/
theorem skipWs_of_head {c : Char} (hc : isWs c = false) (tail : List Char) :
    skipWs (c :: tail) = c :: tail :=
  List.dropWhile_cons_of_neg (by simp [hc])

/-- A bare key is a part of a key up to the first character that cannot stand in one. -/
theorem readKeyPart_append {name : String} (h : IsBareKey name) {mark : Char}
    (hmark : isBareKeyChar mark = false) (rest : List Char) :
    readKeyPart (name.toList ++ mark :: rest) = some (name, mark :: rest) := by
  obtain ⟨c, tail, hhead, _, hne⟩ := h.exists_head
  unfold readKeyPart
  split
  next heq =>
    rw [hhead] at heq
    exact absurd (List.cons.inj heq).1 (hne '"' rfl)
  next heq =>
    rw [hhead] at heq
    exact absurd (List.cons.inj heq).1 (hne '\'' rfl)
  next =>
    rw [List.takeWhile_append_of_pos h.2, List.dropWhile_append_of_pos h.2]
    simp [hmark, h.1]

/-- A bare key that no point follows is the whole key, and blanks behind it are skipped. -/
theorem readKey_append {name : String} (h : IsBareKey name) {mark : Char} {rest after : List Char}
    (hmark : isBareKeyChar mark = false) (hskip : skipWs (mark :: rest) = after)
    (hpoint : after.head? ≠ some '.') :
    readKey (name.toList ++ mark :: rest) = some (([], name), after) := by
  have hstart : skipWs (name.toList ++ mark :: rest) = name.toList ++ mark :: rest := by
    obtain ⟨c, tail, hhead, hblank, _⟩ := h.exists_head
    rw [hhead]
    exact skipWs_of_head hblank _
  have hparts : readKeyParts ((name.toList ++ mark :: rest).length + 1)
      (name.toList ++ mark :: rest) = some ([name], after) := by
    unfold readKeyParts
    rw [hstart, readKeyPart_append h hmark rest]
    dsimp only
    rw [hskip]
    split
    next => exact absurd rfl hpoint
    next => rfl
  unfold readKey
  rw [hparts]
  rfl

/-- A key with its value adds a member to the table that is being read. -/
theorem readLine_writeMember {name : String} (hname : IsBareKey name) {text : List Char} {v : Value}
    (hv : Writes text v) {p p' : Progress} (hadd : p.add [] name v = some p')
    (rest : List Char) : readLine p (writeMember name text ++ rest) = some (p', rest) := by
  have hline : writeMember name text ++ rest =
      name.toList ++ ' ' :: '=' :: ' ' :: (text ++ '\n' :: rest) := by
    simp [writeMember]
  have hkey : readKey (name.toList ++ ' ' :: '=' :: ' ' :: (text ++ '\n' :: rest)) =
      some (([], name), '=' :: ' ' :: (text ++ '\n' :: rest)) :=
    readKey_append hname rfl rfl (by simp)
  have hskip : skipWs (' ' :: (text ++ '\n' :: rest)) = text ++ '\n' :: rest := by
    obtain ⟨c, tail, hhead, hblank⟩ := hv.head
    rw [hhead]
    exact skipWs_of_head hblank _
  have hbudget : text.length < 2 * (text ++ '\n' :: rest).length + 2 := by
    rw [List.length_append]
    omega
  have hvalue := hv.read _ _ hbudget (endsLine_cons rest)
  obtain ⟨c, tail, hhead, _, hne⟩ := hname.exists_head
  rw [hline]
  unfold readLine
  split
  next heq =>
    rw [hhead] at heq
    exact absurd (List.cons.inj heq).1 (hne '#' rfl)
  next heq =>
    rw [hhead] at heq
    exact absurd (List.cons.inj heq).1 (hne '[' rfl)
  next heq =>
    rw [hhead] at heq
    exact absurd (List.cons.inj heq).1 (hne '[' rfl)
  next =>
    rw [hkey]
    change (readValue (2 * (skipWs (' ' :: (text ++ '\n' :: rest))).length + 2) (depthBound - 1)
      (skipWs (' ' :: (text ++ '\n' :: rest))) >>= _) = _
    rw [hskip, hvalue]
    change (p.add [] name v >>= _) = _
    rw [hadd]
    rfl

/-- A header begins a table, and the members of the lines that follow go into it. -/
theorem readLine_header {name : String} (hname : IsBareKey name) {p p' : Progress}
    (hbegin : p.beginTable [] name = some p') (rest : List Char) :
    readLine p ('[' :: (name.toList ++ ']' :: '\n' :: rest)) = some (p', rest) := by
  have hkey : readKey (name.toList ++ ']' :: '\n' :: rest) =
      some (([], name), ']' :: '\n' :: rest) :=
    readKey_append hname rfl rfl (by simp)
  obtain ⟨c, tail, hhead, _, hne⟩ := hname.exists_head
  unfold readLine
  split
  next heq => cases heq
  next heq =>
    rw [hhead] at heq
    exact absurd (List.cons.inj (List.cons.inj heq).2).1 (hne '[' rfl)
  next heq =>
    rw [← (List.cons.inj heq).2, hkey]
    change (p.beginTable [] name >>= _) = _
    rw [hbegin]
    rfl
  next _ _ hother => exact absurd rfl (hother _)

/-- A line that is not blank is read before the lines behind it. -/
theorem readAll_of_line {c : Char} (hblank : isWs c = false) (hline : c ≠ '\n' ∧ c ≠ '\r')
    {p p' : Progress} {tail rest : List Char} (h : readLine p (c :: tail) = some (p', rest))
    (budget : Nat) : readAll (budget + 1) p (c :: tail) = readAll budget p' rest := by
  have hnewline : readNewline (c :: tail) = none :=
    readNewline_of_head fun d hd => by
      obtain rfl : c = d := Option.some.inj hd
      exact hline
  rw [readAll, skipWs_of_head hblank]
  dsimp only
  rw [hnewline, h]

/-- A name that is not among the members is found by no search through them that compares names. -/
theorem any_eq_false_of_not_mem {members : Members} {name : String}
    (h : name ∉ members.map Prod.fst) : (members.any fun m => m.1 == name) = false := by
  refine List.any_eq_false.mpr fun m hm heq => h ?_
  rw [← beq_iff_eq.mp heq]
  exact List.mem_map_of_mem hm

/-- A name that is not among the members has no value there, so that a new member is never a
duplicate. -/
theorem lookup_eq_none_of_not_mem {members : Members} {name : String}
    (h : name ∉ members.map Prod.fst) : members.lookup name = none := by
  refine List.lookup_eq_none_iff.mpr fun m hm => ?_
  rw [bne_iff_ne]
  rintro rfl
  exact h (List.mem_map_of_mem hm)

namespace Progress

/-- A new name is added behind the members that are there, so members keep the order of their
lines. -/
theorem add_of_new {p : Progress} (hform : p.form.dotted = false) {name : String}
    (hnew : name ∉ p.members.map Prod.fst) (v : Value) :
    p.add [] name v = some { p with members := p.members ++ [(name, v)] } := by
  unfold add changeAt addMember
  rw [hform, any_eq_false_of_not_mem hnew]
  rfl

/-- A finished table stands behind the finished tables before it. -/
theorem finish_of_new {root : Members} {name : String} (hnew : name ∉ root.map Prod.fst)
    (form : TableForm) (members : Members) :
    finish ⟨root, [name], false, form, members⟩ =
      some (root ++ [(name, .table form members)]) := by
  change (place false name (.table form members) .named root).map Prod.snd = _
  unfold place Members.put
  rw [lookup_eq_none_of_not_mem hnew, any_eq_false_of_not_mem hnew]
  rfl

/-- A new name begins an empty table behind the tables that were finished before. -/
theorem beginTable_of_new {p : Progress} {root : Members} (hfinish : p.finish = some root)
    {name : String} (hnew : name ∉ root.map Prod.fst) :
    p.beginTable [] name = some ⟨root, [name], false, .named, []⟩ := by
  have hlookup := lookup_eq_none_of_not_mem hnew
  have hclaim : changeAt false (claim name) [] .named root = some (.named, root) := by
    unfold changeAt claim
    rw [hlookup]
  have hmembers : membersAt [name] root = [] := by
    unfold membersAt
    rw [hlookup]
  unfold beginTable
  rw [hfinish, Option.bind_eq_bind, Option.bind_some, hclaim, Option.bind_eq_bind,
    Option.bind_some]
  simp only [List.nil_append, hmembers, Option.pure_def]

end Progress

/-- Is this the line of a member, which has a bare key? -/
structure IsMember (line : String × List Char) (member : String × Value) : Prop where
  /-- The key is bare. -/
  key : IsBareKey line.1
  /-- The member has the name of the key. -/
  name_eq : member.1 = line.1
  /-- The text behind the key is that of the value. -/
  writes : Writes line.2 member.2

/-- A bare key in front of the text of a value makes the line of a member. -/
theorem Writes.isMember {text : List Char} {v : Value} (h : Writes text v) {name : String}
    (hname : IsBareKey name) : IsMember (name, text) (name, v) :=
  ⟨hname, rfl, h⟩

/-- The line of a new member is read before the lines behind it. -/
theorem readAll_writeMember {line : String × List Char} {member : String × Value}
    (h : IsMember line member) {p : Progress} (hform : p.form.dotted = false)
    (hnew : member.1 ∉ p.members.map Prod.fst) (budget : Nat) (rest : List Char) :
    readAll (budget + 1) p (writeMember line.1 line.2 ++ rest) =
      readAll budget { p with members := p.members ++ [member] } rest := by
  have hadd := Progress.add_of_new hform hnew member.2
  rw [h.name_eq] at hadd
  have hread := readLine_writeMember h.key h.writes hadd rest
  obtain ⟨c, tail, hhead, hblank, hne⟩ := h.key.exists_head
  have hmember : member = (line.1, member.2) := Prod.ext h.name_eq rfl
  have htext : writeMember line.1 line.2 ++ rest =
      c :: (tail ++ (" = ".toList ++ (line.2 ++ '\n' :: rest))) := by
    simp [writeMember, hhead]
  rw [htext] at hread ⊢
  rw [readAll_of_line hblank ⟨hne '\n' rfl, hne '\r' rfl⟩ hread budget, ← hmember]

/-- The lines of a table add its members one after the other, by induction on the lines. -/
theorem readAll_members {lines : List (String × List Char)} {members : Members}
    (h : List.Forall₂ IsMember lines members) {p : Progress} (hform : p.form.dotted = false)
    (hnodup : ((p.members ++ members).map Prod.fst).Nodup) (budget : Nat) (rest : List Char) :
    readAll (budget + lines.length) p
        (lines.flatMap (fun m => writeMember m.1 m.2) ++ rest) =
      readAll budget { p with members := p.members ++ members } rest := by
  induction h generalizing p with
  | nil =>
    rw [List.append_nil]
    rfl
  | @cons line member lines members hline _ ih =>
    have hnew : member.1 ∉ p.members.map Prod.fst := by
      rw [List.map_append, List.map_cons, List.nodup_append] at hnodup
      intro hmem
      exact hnodup.2.2 _ hmem _ List.mem_cons_self rfl
    rw [List.append_cons] at hnodup ⊢
    rw [List.flatMap_cons, List.append_assoc, List.length_cons, ← Nat.add_assoc,
      readAll_writeMember hline hform hnew]
    exact ih hform hnodup

/-- A table is read after its header: all its members are added, and the next header may follow. -/
theorem readAll_writeTable {name : String} (hname : IsBareKey name)
    {lines : List (String × List Char)} {members : Members}
    (h : List.Forall₂ IsMember lines members) (hnodup : (members.map Prod.fst).Nodup)
    {p : Progress} {root : Members} (hfinish : p.finish = some root)
    (hnew : name ∉ root.map Prod.fst) (budget : Nat) (rest : List Char) :
    readAll (budget + lines.length + 1) p (writeTable name lines ++ rest) =
      readAll budget ⟨root, [name], false, .named, members⟩ rest := by
  have hheader := readLine_header hname (Progress.beginTable_of_new hfinish hnew)
    (lines.flatMap (fun m => writeMember m.1 m.2) ++ rest)
  have htext : writeTable name lines ++ rest = '[' :: (name.toList ++ ']' :: '\n' ::
      (lines.flatMap (fun m => writeMember m.1 m.2) ++ rest)) := by
    simp [writeTable]
  rw [htext, readAll_of_line rfl (by decide) hheader]
  exact readAll_members (p := ⟨root, [name], false, .named, []⟩) h rfl hnodup budget rest

/-- A line takes a character at least, so the length of a text is budget enough for its lines. -/
theorem length_le_writeTable (name : String) (lines : List (String × List Char)) :
    lines.length + 1 ≤ (writeTable name lines).length := by
  have hlines : lines.length ≤ (lines.flatMap fun m => writeMember m.1 m.2).length := by
    induction lines with
    | nil => exact Nat.le_refl 0
    | cons line lines ih =>
      have hline : 1 ≤ (writeMember line.1 line.2).length := by
        unfold writeMember
        rw [List.length_append]
        exact Nat.le_add_left 1 _
      rw [List.flatMap_cons, List.length_append, List.length_cons]
      omega
  unfold writeTable
  rw [List.length_append, List.length_append]
  simp only [List.length_cons, List.length_nil, List.length_append]
  omega

/-- An empty line between two tables changes nothing of what was read so far. -/
theorem readAll_newline (budget : Nat) (p : Progress) (rest : List Char) :
    readAll (budget + 1) p ('\n' :: rest) = readAll budget p rest := by
  rw [readAll]
  rfl

/-- Two tables that are written one after the other are read as two members. -/
theorem parse_writeTables {name name' : String} (hname : IsBareKey name)
    (hname' : IsBareKey name') (hne : name' ≠ name)
    {lines lines' : List (String × List Char)} {members members' : Members}
    (h : List.Forall₂ IsMember lines members) (hnodup : (members.map Prod.fst).Nodup)
    (h' : List.Forall₂ IsMember lines' members') (hnodup' : (members'.map Prod.fst).Nodup) :
    parse (String.ofList (writeTable name lines ++ '\n' :: writeTable name' lines')) =
      some [(name, .table .named members), (name', .table .named members')] := by
  let cs := writeTable name lines ++ '\n' :: writeTable name' lines'
  have hparse : parse (String.ofList cs) = readAll (cs.length + 1) .start cs := by
    unfold parse
    rw [String.toList_ofList]
    rfl
  obtain ⟨spare, hbudget⟩ : ∃ spare,
      cs.length + 1 = (spare + 1 + lines'.length + 1 + 1) + lines.length + 1 := by
    have hlength := length_le_writeTable name lines
    have hlength' := length_le_writeTable name' lines'
    have hcs : cs.length = (writeTable name lines).length +
        ((writeTable name' lines').length + 1) := List.length_append
    exact ⟨cs.length - (lines'.length + lines.length + 3), by omega⟩
  have hstart : Progress.start.finish = some [] := rfl
  have hfirst : Progress.finish ⟨[], [name], false, .named, members⟩ =
      some [(name, .table .named members)] :=
    Progress.finish_of_new List.not_mem_nil .named members
  have hnew : name' ∉ [(name, Value.table .named members)].map Prod.fst := by
    simpa using hne
  have hlast := Progress.finish_of_new hnew .named members'
  have hrest : writeTable name' lines' = writeTable name' lines' ++ [] :=
    (List.append_nil _).symm
  rw [hparse, hbudget, readAll_writeTable hname h hnodup hstart List.not_mem_nil,
    readAll_newline, hrest, readAll_writeTable hname' h' hnodup' hfirst hnew]
  exact hlast

end VariableBridge.Toml
