import VariableBridge.Json.Printer
import VariableBridge.Json.Reader

/-!
# Written values read back

A value is proper if its numerals follow the grammar of numbers and all its
strings are texts. Main statement: the text of a proper value reads back as the
value. Behind a value the reader meets the end of the text, a comma or a closing
bracket, so that no numeral reads on past its end.
-/

namespace VariableBridge.Json

/-- The text does not go on with a digit. -/
def NoDigitHead (cs : List Char) : Prop := ∀ c ∈ cs.head?, c.isDigit = false

/-- The text ends, or it goes on with what may stand behind a value. -/
def Delimited (cs : List Char) : Prop := ∀ c ∈ cs.head?, c = ',' ∨ c = ']' ∨ c = '\x7d'

/-- At the end of the text a value is delimited, so that a text may consist of one value. -/
theorem delimited_nil : Delimited [] := by
  intro c hc
  cases hc

/-- A value is delimited by a comma, or by the bracket that closes an array or a record. -/
theorem delimited_cons {c : Char} (cs : List Char) (h : c = ',' ∨ c = ']' ∨ c = '\x7d') :
    Delimited (c :: cs) := by
  intro d hd
  obtain rfl : c = d := Option.some.inj hd
  exact h

/-- Does the numeral follow the grammar of numbers? -/
structure Numeral.IsProper (n : Numeral) : Prop where
  /-- There are digits before the point. -/
  whole_ne_nil : n.whole ≠ []
  /-- There are only digits before the point. -/
  whole : ∀ c ∈ n.whole, c.isDigit = true
  /-- A zero in front stands alone. -/
  leading : n.whole.head? = some '0' → n.whole = ['0']
  /-- There are only digits behind the point. -/
  fraction : ∀ c ∈ n.fraction, c.isDigit = true
  /-- A power of ten has digits. -/
  power : ∀ p ∈ n.power, p.2 ≠ [] ∧ ∀ c ∈ p.2, c.isDigit = true

/-- Digits are read up to the first character that is none, and the rest is left for what comes
next. -/
theorem readDigits_append {ds rest : List Char} (hd : ∀ c ∈ ds, c.isDigit = true)
    (hr : NoDigitHead rest) : readDigits (ds ++ rest) = (ds, rest) := by
  have hnone : rest.takeWhile Char.isDigit = [] ∧ rest.dropWhile Char.isDigit = rest := by
    cases rest with
    | nil => exact ⟨rfl, rfl⟩
    | cons c cs =>
      have hc : c.isDigit = false := hr c rfl
      simp [hc]
  unfold readDigits
  rw [List.takeWhile_append_of_pos hd, List.dropWhile_append_of_pos hd, hnone.1, hnone.2,
    List.append_nil]

/-- The text of a power of ten. -/
def powerText : Option (Bool × List Char) → List Char
  | none => []
  | some (negative, digits) => 'e' :: (if negative then '-' else '+') :: digits

/-- The text of a fraction. -/
def fractionText (fraction : List Char) : List Char :=
  if fraction.isEmpty then [] else '.' :: fraction

/-- A written numeral is its sign, its whole digits, its fraction and its power, each of them empty
if it is missing. -/
theorem writeNumeral_eq (n : Numeral) :
    writeNumeral n = (if n.negative then ['-'] else []) ++
      (n.whole ++ (fractionText n.fraction ++ powerText n.power)) := by
  have hparts : writeNumeral n = (if n.negative then ['-'] else []) ++ n.whole ++
      fractionText n.fraction ++ powerText n.power := rfl
  rw [hparts, List.append_assoc, List.append_assoc]

/-- No digit follows a value that is delimited, so that its last digit is known to be the last. -/
theorem noDigitHead_of_delimited {rest : List Char} (h : Delimited rest) : NoDigitHead rest := by
  intro c hc
  rcases h c hc with rfl | rfl | rfl <;> rfl

/-- A power that was written is read back in front of a delimited rest, also if there is none. -/
theorem readPower_append {p : Option (Bool × List Char)} {rest : List Char}
    (hp : ∀ q ∈ p, q.2 ≠ [] ∧ ∀ c ∈ q.2, c.isDigit = true) (hr : Delimited rest) :
    readPower (powerText p ++ rest) = some (p, rest) := by
  cases p with
  | none =>
    cases rest with
    | nil => rfl
    | cons c cs => rcases hr c rfl with rfl | rfl | rfl <;> rfl
  | some power =>
    obtain ⟨negative, digits⟩ := power
    obtain ⟨hne, hdigits⟩ := hp _ rfl
    have hread := readDigits_append hdigits (noDigitHead_of_delimited hr)
    have hempty : digits.isEmpty = false := by simpa using hne
    have hsign : readSign ((if negative then '-' else '+') :: (digits ++ rest)) =
        (negative, digits ++ rest) := by cases negative <;> rfl
    change readPowerDigits ((if negative then '-' else '+') :: (digits ++ rest)) = _
    unfold readPowerDigits
    rw [hsign]
    simp only [hread, hempty, Bool.false_eq_true, if_false]

/-- A power of ten or a delimiter is neither a digit nor a point. -/
theorem head_powerText_append {p : Option (Bool × List Char)} {rest : List Char}
    (hr : Delimited rest) :
    ∀ c ∈ (powerText p ++ rest).head?, c.isDigit = false ∧ c ≠ '.' := by
  intro c hc
  cases p with
  | none => rcases hr c hc with rfl | rfl | rfl <;> decide
  | some power =>
    obtain rfl : 'e' = c := Option.some.inj hc
    decide

/-- A fraction that was written is read back if neither a digit nor a point follows it, also if
there is none. -/
theorem readFraction_append {fraction rest : List Char}
    (hf : ∀ c ∈ fraction, c.isDigit = true)
    (hr : ∀ c ∈ rest.head?, c.isDigit = false ∧ c ≠ '.') :
    readFraction (fractionText fraction ++ rest) = some (fraction, rest) := by
  cases fraction with
  | nil =>
    change readFraction rest = some ([], rest)
    unfold readFraction
    split
    · exact absurd rfl (hr '.' rfl).2
    · rfl
  | cons d ds =>
    have hread := readDigits_append hf fun c hc => (hr c hc).1
    change readFraction ('.' :: (d :: ds ++ rest)) = _
    unfold readFraction
    simp only [hread, List.isEmpty_cons, Bool.false_eq_true, if_false]

/-- Whole digits that were written are read back if no digit follows: there is one at least, and no
zero in front of others. -/
theorem readWhole_append {whole rest : List Char} (hne : whole ≠ [])
    (hw : ∀ c ∈ whole, c.isDigit = true) (hlead : whole.head? = some '0' → whole = ['0'])
    (hr : NoDigitHead rest) : readWhole (whole ++ rest) = some (whole, rest) := by
  unfold readWhole
  rw [readDigits_append hw hr]
  cases whole with
  | nil => exact absurd rfl hne
  | cons c cs =>
    by_cases hc : c = '0'
    · obtain rfl : cs = [] := by
        subst hc
        exact (List.cons.inj (hlead rfl)).2
      rw [hc]
      rfl
    · split
      next heq => cases heq
      next heq => exact absurd (List.cons.inj (Prod.mk.inj heq).1).1 hc
      next heq => exact absurd (List.cons.inj (Prod.mk.inj heq).1).1 hc
      next heq => rw [heq]

/-- Digits in front of which a zero stands are refused, as the grammar of numerals asks. -/
theorem readWhole_of_leading_zero {whole rest : List Char} (hw : ∀ c ∈ whole, c.isDigit = true)
    (hzero : whole.head? = some '0') (hlong : whole ≠ ['0']) (hr : NoDigitHead rest) :
    readWhole (whole ++ rest) = none := by
  unfold readWhole
  rw [readDigits_append hw hr]
  cases whole with
  | nil => cases hzero
  | cons c cs =>
    obtain rfl : c = '0' := Option.some.inj hzero
    cases cs with
    | nil => exact absurd rfl hlong
    | cons d ds => rfl

/-- What stands behind the digits before the point is no digit: a point, a power, or what delimits
the numeral. -/
theorem noDigitHead_fractionText (fraction : List Char) (p : Option (Bool × List Char))
    {rest : List Char} (hr : Delimited rest) :
    NoDigitHead (fractionText fraction ++ (powerText p ++ rest)) := by
  intro c hc
  cases fraction with
  | nil => exact (head_powerText_append hr c hc).1
  | cons d ds =>
    obtain rfl : '.' = c := Option.some.inj hc
    rfl

/-- The sign of a numeral is read first, and the magnitude is read without looking at it. -/
theorem readNumeral_eq_readMagnitude {n : Numeral} (hne : n.whole ≠ [])
    (hw : ∀ c ∈ n.whole, c.isDigit = true) (rest : List Char) :
    readNumeral (writeNumeral n ++ rest) = readMagnitude n.negative
      (n.whole ++ (fractionText n.fraction ++ (powerText n.power ++ rest))) := by
  rw [writeNumeral_eq, List.append_assoc, List.append_assoc, List.append_assoc]
  cases n.negative with
  | true => rfl
  | false =>
    obtain ⟨c, cs, hc⟩ := List.exists_cons_of_ne_nil hne
    -- a digit is no minus sign
    have hdigit : c ≠ '-' := by
      rintro rfl
      have hminus := hw '-' (by rw [hc]; exact List.mem_cons_self)
      cases hminus
    rw [hc]
    change readNumeral (c :: _) = _
    unfold readNumeral
    split
    next heq => exact absurd (List.cons.inj heq).1 hdigit
    next => rfl

/-- A numeral of the grammar reads back, if what follows it is no part of a numeral. -/
theorem readNumeral_append {n : Numeral} (hn : n.IsProper) {rest : List Char}
    (hr : Delimited rest) : readNumeral (writeNumeral n ++ rest) = some (n, rest) := by
  have hpower := readPower_append hn.power hr
  have hfraction := readFraction_append hn.fraction (head_powerText_append (p := n.power) hr)
  have hwhole := readWhole_append hn.whole_ne_nil hn.whole hn.leading
    (noDigitHead_fractionText n.fraction n.power hr)
  rw [readNumeral_eq_readMagnitude hn.whole_ne_nil hn.whole]
  unfold readMagnitude
  simp only [hwhole, hfraction, hpower]

/-- A numeral with a zero in front of other digits is refused, whatever follows it. -/
theorem readNumeral_of_leading_zero {n : Numeral} (hw : ∀ c ∈ n.whole, c.isDigit = true)
    (hzero : n.whole.head? = some '0') (hlong : n.whole ≠ ['0']) {rest : List Char}
    (hr : Delimited rest) : readNumeral (writeNumeral n ++ rest) = none := by
  have hne : n.whole ≠ [] := by
    intro hempty
    rw [hempty] at hzero
    cases hzero
  have hwhole := readWhole_of_leading_zero hw hzero hlong
    (noDigitHead_fractionText n.fraction n.power hr)
  rw [readNumeral_eq_readMagnitude hne hw]
  unfold readMagnitude
  simp only [hwhole]

/-- The unit that a character is written as: its code, if it is a control character without a
letter of its own. -/
def unitOf (c : Char) : TextUnit :=
  if c = '\x08' ∨ c = '\x0c' ∨ c = '\n' ∨ c = '\r' ∨ c = '\t' ∨ 0x20 ≤ c.toNat then .char c
  else .code c.toNat

/-- The two last digits of an escaped control code are read back as this code. -/
theorem hexCode_byteDigits {n : Nat} (hn : n < 0x20) :
    hexCode '0' '0' (Nat.digitChar (n / 16)) (Nat.digitChar (n % 16)) = some n := by
  revert n
  decide

/-- A character that is written as itself is read as itself: it is no quote, no backslash and no
control character. -/
theorem readUnits_plain {c : Char} (hq : c ≠ '"') (hb : c ≠ '\\') (hc : 0x20 ≤ c.toNat)
    {rest after : List Char} {units : List TextUnit} (h : readUnits rest = some (units, after)) :
    readUnits (c :: rest) = some (.char c :: units, after) := by
  unfold readUnits
  split
  next heq => cases heq
  next heq => exact absurd (List.cons.inj heq).1 hq
  next heq => exact absurd (List.cons.inj heq).1 hb
  next heq => exact absurd (List.cons.inj heq).1 hb
  next heq =>
    obtain ⟨rfl, rfl⟩ := List.cons.inj heq
    rw [if_neg (by rintro (hlt | rfl); omega; exact hb rfl), h]

/-- Four digits behind a backslash and its letter are read as the code that they spell. -/
theorem readUnits_code {a b c d : Char} {code : Nat} (hcode : hexCode a b c d = some code)
    {rest after : List Char} {units : List TextUnit} (h : readUnits rest = some (units, after)) :
    readUnits ('\\' :: 'u' :: a :: b :: c :: d :: rest) = some (.code code :: units, after) := by
  simp only [readUnits, hcode, h]

/-- A letter behind a backslash is read as the character that it stands for. -/
theorem readUnits_letter {letter c : Char} (hl : escapeLetter letter = some c)
    {rest after : List Char} {units : List TextUnit} (h : readUnits rest = some (units, after)) :
    readUnits ('\\' :: letter :: rest) = some (.char c :: units, after) := by
  unfold readUnits
  split
  next heq => cases heq
  next heq => cases heq
  next heq =>
    obtain ⟨rfl, _⟩ := List.cons.inj (List.cons.inj heq).2
    cases hl
  next heq =>
    obtain ⟨rfl, rfl⟩ := List.cons.inj (List.cons.inj heq).2
    rw [hl, h]
  next hlast heq =>
    obtain ⟨rfl, rfl⟩ := List.cons.inj heq
    exact absurd rfl (hlast letter rest rfl)

/-- Every character is read as its unit: as itself, by its letter, or by its code. -/
theorem readUnits_writeChar (c : Char) {rest after : List Char} {units : List TextUnit}
    (h : readUnits rest = some (units, after)) :
    readUnits (writeChar c ++ rest) = some (unitOf c :: units, after) := by
  unfold writeChar
  split
  case h_8 hq hb h8 h12 h10 h13 h9 =>
    by_cases hc : c.toNat < 0x20
    · have hunit : unitOf c = .code c.toNat := by
        unfold unitOf
        rw [if_neg]
        rintro (rfl | rfl | rfl | rfl | rfl | hge)
        · exact h8 rfl
        · exact h12 rfl
        · exact h10 rfl
        · exact h13 rfl
        · exact h9 rfl
        · omega
      rw [if_pos hc, hunit]
      exact readUnits_code (hexCode_byteDigits hc) h
    · have hunit : unitOf c = .char c := by
        unfold unitOf
        rw [if_pos]
        simp only [Nat.not_lt.mp hc, or_true]
      rw [if_neg hc, hunit]
      exact readUnits_plain hq hb (Nat.not_lt.mp hc) h
  -- the characters that have a letter
  all_goals exact readUnits_letter rfl h

/-- A text is read up to its closing quote, unit by unit, and the rest is left. -/
theorem readUnits_flatMap (cs rest : List Char) :
    readUnits (cs.flatMap writeChar ++ '"' :: rest) = some (cs.map unitOf, rest) := by
  induction cs with
  | nil => rfl
  | cons c cs ih =>
    rw [List.flatMap_cons, List.append_assoc, List.map_cons]
    exact readUnits_writeChar c ih

/-- A code that belongs to no surrogate pair is a character of its own. -/
theorem decodeUnits_code {code : Nat} (hc : code < 0xD800) (units : List TextUnit) :
    decodeUnits (.code code :: units) = (decodeUnits units).map (Char.ofNat code :: ·) := by
  have hhigh : isHighSurrogate code = false := by
    rw [isHighSurrogate, decide_eq_false (by omega), Bool.false_and]
  have hlow : isLowSurrogate code = false := by
    rw [isLowSurrogate, decide_eq_false (by omega), Bool.false_and]
  cases units with
  | nil =>
    unfold decodeUnits
    rw [hhigh, hlow]
    rfl
  | cons unit units =>
    cases unit with
    | char c =>
      unfold decodeUnits
      rw [hhigh, hlow]
      rfl
    | code low =>
      rw [decodeUnits, hhigh, hlow]
      rfl

/-- The units that characters are written as are decoded to these characters, control codes
included. -/
theorem decodeUnits_map (cs : List Char) : decodeUnits (cs.map unitOf) = some cs := by
  induction cs with
  | nil => rfl
  | cons c cs ih =>
    rw [List.map_cons]
    unfold unitOf
    split
    next =>
      change (decodeUnits (cs.map unitOf)).map (c :: ·) = _
      rw [ih]
      rfl
    next hc =>
      have hsmall : c.toNat < 0xD800 := by
        simp only [not_or] at hc
        omega
      change decodeUnits (.code c.toNat :: cs.map unitOf) = _
      rw [decodeUnits_code hsmall, ih, Char.ofNat_toNat]
      rfl

/-- A text between quotes reads back, because no unit of a text is half of a pair. -/
theorem readText_append (s : String) (rest : List Char) :
    readText (s.toList.flatMap writeChar ++ '"' :: rest) = some (some s, rest) := by
  unfold readText
  rw [readUnits_flatMap]
  simp only [decodeUnits_map, Option.map_some, String.ofList_toList]

/-- Does the value have numerals of the grammar and texts only? -/
inductive Value.IsProper : Value → Prop where
  /-- Nothing. -/
  | null : IsProper .null
  /-- A truth value. -/
  | bool (value : Bool) : IsProper (.bool value)
  /-- A number. -/
  | number {numeral : Numeral} (h : numeral.IsProper) : IsProper (.number numeral)
  /-- A text. -/
  | text (s : String) : IsProper (.text s)
  /-- An array. -/
  | array {elements : List Value} (h : ∀ v ∈ elements, IsProper v) : IsProper (.array elements)
  /-- An object. -/
  | record {members : List (String × Value)} (h : ∀ m ∈ members, IsProper m.2) :
    IsProper (.record members)

/-- The text of a numeral begins with a minus sign or a digit, which tells it from all other
values. -/
theorem exists_head_writeNumeral {n : Numeral} (hne : n.whole ≠ [])
    (hw : ∀ c ∈ n.whole, c.isDigit = true) :
    ∃ c cs, writeNumeral n = c :: cs ∧ (c = '-' ∨ c.isDigit = true) := by
  obtain ⟨d, ds, hd⟩ := List.exists_cons_of_ne_nil hne
  rw [writeNumeral_eq]
  cases n.negative with
  | true => exact ⟨'-', _, rfl, .inl rfl⟩
  | false =>
    refine ⟨d, _, by rw [hd]; rfl, .inr ?_⟩
    exact hw d (by rw [hd]; exact List.mem_cons_self)

/-- Neither a minus sign nor a digit begins something else than a numeral. -/
theorem ne_of_numeral_head {c d : Char} (hc : c = '-' ∨ c.isDigit = true) (hd : d ≠ '-')
    (hdigit : d.isDigit = false) : c ≠ d := by
  rintro rfl
  rcases hc with rfl | hc
  · exact hd rfl
  · rw [hdigit] at hc
    cases hc

/-- A minus sign or a digit is no blank, so nothing of a numeral is skipped. -/
theorem isSpace_of_numeral_head {c : Char} (hc : c = '-' ∨ c.isDigit = true) :
    isSpace c = false := by
  have hblank := ne_of_numeral_head (d := ' ') hc (by decide) rfl
  have hline := ne_of_numeral_head (d := '\n') hc (by decide) rfl
  have htab := ne_of_numeral_head (d := '\t') hc (by decide) rfl
  have hreturn := ne_of_numeral_head (d := '\r') hc (by decide) rfl
  simp only [isSpace, Bool.or_eq_false_iff, beq_eq_false_iff_ne]
  exact ⟨⟨⟨hblank, hline⟩, htab⟩, hreturn⟩

/-- The text of a value begins neither with a blank nor with a closing bracket. -/
theorem Value.IsProper.exists_head {v : Value} (hv : v.IsProper) :
    ∃ c cs, writeValue v = c :: cs ∧ isSpace c = false ∧ c ≠ ']' := by
  cases hv with
  | null => exact ⟨'n', _, rfl, rfl, by decide⟩
  | bool value =>
    cases value with
    | true => exact ⟨'t', _, rfl, rfl, by decide⟩
    | false => exact ⟨'f', _, rfl, rfl, by decide⟩
  | number h =>
    obtain ⟨c, cs, hc, hhead⟩ := exists_head_writeNumeral h.whole_ne_nil h.whole
    exact ⟨c, cs, hc, isSpace_of_numeral_head hhead, ne_of_numeral_head hhead (by decide) rfl⟩
  | text s => exact ⟨'"', _, rfl, rfl, by decide⟩
  | array h => exact ⟨'[', _, rfl, rfl, by decide⟩
  | record h => exact ⟨'\x7b', _, rfl, rfl, by decide⟩

/-- No space is passed over in front of a character that is none, so that a value is read where it
begins. -/
theorem skipSpaces_cons {c : Char} (hc : isSpace c = false) (cs : List Char) :
    skipSpaces (c :: cs) = c :: cs := by
  unfold skipSpaces
  rw [List.dropWhile_cons, if_neg (by rw [hc]; exact Bool.false_ne_true)]

/-- Does a reader with this budget read the value back, whatever delimiter stands behind it? -/
def Value.ReadsBack (v : Value) : Prop :=
  ∀ (budget : Nat) (rest : List Char), 2 * (writeValue v).length ≤ budget → Delimited rest →
    readValue budget (writeValue v ++ rest) = some (v, rest)

/-- What begins with a minus sign or a digit is read as a numeral. -/
theorem readValue_of_numeral_head {c : Char} (hc : c = '-' ∨ c.isDigit = true) (cs : List Char)
    (budget : Nat) :
    readValue (budget + 1) (c :: cs) = (readNumeral (c :: cs)).map fun r => (.number r.1, r.2) := by
  unfold readValue
  rw [skipSpaces_cons (isSpace_of_numeral_head hc)]
  split
  case h_7 => cases readNumeral (c :: cs) <;> rfl
  all_goals
    rename_i heq
    exact absurd (List.cons.inj heq).1 (ne_of_numeral_head hc (by decide) rfl)

/-- A proper numeral reads back as the same numeral, in front of any delimited rest. -/
theorem readsBack_number {n : Numeral} (hn : n.IsProper) : (Value.number n).ReadsBack := by
  intro budget rest hbudget hrest
  obtain ⟨c, cs, hc, hhead⟩ := exists_head_writeNumeral hn.whole_ne_nil hn.whole
  have hread := readNumeral_append hn hrest
  change 2 * (writeNumeral n).length ≤ budget at hbudget
  rw [hc, List.length_cons] at hbudget
  obtain ⟨left, rfl⟩ : ∃ left, budget = left + 1 := ⟨budget - 1, by omega⟩
  change readValue (left + 1) (writeNumeral n ++ rest) = _
  rw [hc] at hread ⊢
  rw [List.cons_append, readValue_of_numeral_head hhead, ← List.cons_append, hread]
  rfl

/-- A text reads back as the same text, in front of any rest, whatever characters it has. -/
theorem readsBack_text (s : String) : (Value.text s).ReadsBack := by
  intro budget rest hbudget hrest
  have hwritten : writeValue (.text s) ++ rest =
      '"' :: (s.toList.flatMap writeChar ++ '"' :: rest) := by
    change ('"' :: s.toList.flatMap writeChar ++ ['"']) ++ rest = _
    rw [List.append_assoc]
    rfl
  cases budget with
  | zero =>
    change 2 * ('"' :: s.toList.flatMap writeChar ++ ['"']).length ≤ 0 at hbudget
    rw [List.length_append, List.length_cons] at hbudget
    omega
  | succ budget =>
    rw [hwritten]
    unfold readValue
    rw [skipSpaces_cons rfl]
    simp only [readText_append]
    rfl

/-- The elements of an array read back if each of them does, with a budget that is twice as long as
the text. -/
theorem readElements_append {elements : List Value} (hne : elements ≠ [])
    (h : ∀ v ∈ elements, v.ReadsBack) {budget : Nat} (rest : List Char)
    (hbudget : 2 * (writeElements elements).length ≤ budget + 1) :
    readElements budget (writeElements elements ++ rest) = some (elements, rest) := by
  induction elements generalizing budget with
  | nil => exact absurd rfl hne
  | cons v others ih =>
    have hv := h v List.mem_cons_self
    cases others with
    | nil =>
      have hlength : (writeElements [v]).length = (writeValue v).length + 1 := by
        simp [writeElements]
      obtain ⟨left, rfl⟩ : ∃ left, budget = left + 1 := ⟨budget - 1, by omega⟩
      have hread := hv left (']' :: rest) (by omega) (delimited_cons _ (.inr (.inl rfl)))
      have hwritten : writeElements [v] ++ rest = writeValue v ++ ']' :: rest := by
        simp [writeElements]
      rw [hwritten]
      unfold readElements
      rw [hread]
      simp only [skipSpaces_cons (c := ']') rfl]
    | cons w others =>
      have hlength : (writeElements (v :: w :: others)).length =
          (writeValue v).length + 1 + (writeElements (w :: others)).length := by
        simp [writeElements]
        omega
      obtain ⟨left, rfl⟩ : ∃ left, budget = left + 1 := ⟨budget - 1, by omega⟩
      have hread := hv left (',' :: (writeElements (w :: others) ++ rest)) (by omega)
        (delimited_cons _ (.inl rfl))
      have hleft : 2 * (writeElements (w :: others)).length ≤ left + 1 := by omega
      have hothers := ih (List.cons_ne_nil w others)
        (fun u hu => h u (List.mem_cons_of_mem v hu)) hleft
      have hwritten : writeElements (v :: w :: others) ++ rest =
          writeValue v ++ ',' :: (writeElements (w :: others) ++ rest) := by
        simp [writeElements]
      rw [hwritten]
      unfold readElements
      rw [hread]
      simp only [skipSpaces_cons (c := ',') rfl, hothers]

/-- The name of a member and the colon behind it read back, whatever characters the name has. -/
theorem writeContent_append (name : String) (rest : List Char) :
    writeContent (some name) ++ rest = '"' :: (name.toList.flatMap writeChar ++ '"' :: rest) := by
  change ('"' :: name.toList.flatMap writeChar ++ ['"']) ++ rest = _
  rw [List.append_assoc]
  rfl

/-- The members of an object read back if the value of each of them does. -/
theorem readMembers_append {members : List (String × Value)} (hne : members ≠ [])
    (h : ∀ m ∈ members, m.2.ReadsBack) {budget : Nat} (rest : List Char)
    (hbudget : 2 * (writeMembers (members.map fun m => (some m.1, m.2))).length ≤ budget + 1) :
    readMembers budget (writeMembers (members.map fun m => (some m.1, m.2)) ++ rest) =
      some (members.map fun m => (some m.1, m.2), rest) := by
  induction members generalizing budget with
  | nil => exact absurd rfl hne
  | cons m others ih =>
    obtain ⟨name, v⟩ := m
    have hv : v.ReadsBack := h (name, v) List.mem_cons_self
    cases others with
    | nil =>
      have hwritten : writeMembers ([(name, v)].map fun m => (some m.1, m.2)) =
          writeContent (some name) ++ ':' :: (writeValue v ++ ['\x7d']) := by
        simp [writeMembers]
      rw [hwritten] at hbudget ⊢
      simp only [List.length_append, List.length_cons, List.length_nil] at hbudget
      obtain ⟨left, rfl⟩ : ∃ left, budget = left + 1 := ⟨budget - 1, by omega⟩
      have hread := hv left ('\x7d' :: rest) (by omega) (delimited_cons _ (.inr (.inr rfl)))
      rw [List.append_assoc, writeContent_append, List.cons_append, List.append_assoc]
      unfold readMembers
      rw [skipSpaces_cons rfl]
      simp only [readText_append, skipSpaces_cons (c := ':') rfl, List.singleton_append, hread,
        skipSpaces_cons (c := '\x7d') rfl]
      rfl
    | cons next others =>
      have hwritten : writeMembers (((name, v) :: next :: others).map fun m => (some m.1, m.2)) =
          writeContent (some name) ++ ':' :: (writeValue v ++
            ',' :: writeMembers ((next :: others).map fun m => (some m.1, m.2))) := by
        simp [writeMembers]
      rw [hwritten] at hbudget ⊢
      simp only [List.length_append, List.length_cons] at hbudget
      obtain ⟨left, rfl⟩ : ∃ left, budget = left + 1 := ⟨budget - 1, by omega⟩
      have hread := hv left
        (',' :: (writeMembers ((next :: others).map fun m => (some m.1, m.2)) ++ rest)) (by omega)
        (delimited_cons _ (.inl rfl))
      have hleft : 2 * (writeMembers ((next :: others).map fun m => (some m.1, m.2))).length ≤
          left + 1 := by omega
      have hothers := ih (List.cons_ne_nil next others)
        (fun u hu => h u (List.mem_cons_of_mem (name, v) hu)) hleft
      rw [List.append_assoc, writeContent_append, List.cons_append, List.append_assoc]
      unfold readMembers
      rw [skipSpaces_cons rfl]
      simp only [readText_append, skipSpaces_cons (c := ':') rfl, List.cons_append, hread,
        skipSpaces_cons (c := ',') rfl, hothers]
      rfl

/-- An array reads back if its elements do: they are read one after the other, up to the closing
bracket. -/
theorem readsBack_array {elements : List Value} (hproper : ∀ v ∈ elements, v.IsProper)
    (h : ∀ v ∈ elements, v.ReadsBack) : (Value.array elements).ReadsBack := by
  intro budget rest hbudget hrest
  change 2 * ('[' :: writeElements elements).length ≤ budget at hbudget
  rw [List.length_cons] at hbudget
  obtain ⟨left, rfl⟩ : ∃ left, budget = left + 1 := ⟨budget - 1, by omega⟩
  change readValue (left + 1) ('[' :: (writeElements elements ++ rest)) = _
  unfold readValue
  rw [skipSpaces_cons rfl]
  cases elements with
  | nil =>
    simp only [writeElements, List.singleton_append, skipSpaces_cons (c := ']') rfl]
  | cons v others =>
    have hleft : 2 * (writeElements (v :: others)).length ≤ left + 1 := by omega
    have hread := readElements_append (List.cons_ne_nil v others) h rest hleft
    obtain ⟨c, cs, hc, hblank, hbracket⟩ := (hproper v List.mem_cons_self).exists_head
    obtain ⟨ds, hds⟩ : ∃ ds, writeElements (v :: others) ++ rest = c :: ds := by
      cases others with
      | nil => exact ⟨cs ++ [']'] ++ rest, by simp [writeElements, hc]⟩
      | cons w others => exact ⟨cs ++ ',' :: writeElements (w :: others) ++ rest, by
          simp [writeElements, hc]⟩
    have hspaces : skipSpaces (writeElements (v :: others) ++ rest) =
        writeElements (v :: others) ++ rest := by
      rw [hds]
      exact skipSpaces_cons hblank ds
    simp only [hspaces]
    split
    next heq =>
      rw [hds] at heq
      exact absurd (List.cons.inj heq).1 hbracket
    next => rw [hread]

/-- A record reads back if the values of its members do: names and values are read in turn, up to
the closing brace. -/
theorem readsBack_record {members : List (String × Value)} (h : ∀ m ∈ members, m.2.ReadsBack) :
    (Value.record members).ReadsBack := by
  intro budget rest hbudget hrest
  change 2 * ('\x7b' :: writeMembers (members.map fun m => (some m.1, m.2))).length ≤ budget
    at hbudget
  rw [List.length_cons] at hbudget
  obtain ⟨left, rfl⟩ : ∃ left, budget = left + 1 := ⟨budget - 1, by omega⟩
  change readValue (left + 1)
    ('\x7b' :: (writeMembers (members.map fun m => (some m.1, m.2)) ++ rest)) = _
  unfold readValue
  rw [skipSpaces_cons rfl]
  cases members with
  | nil =>
    simp only [List.map_nil, writeMembers, List.singleton_append, skipSpaces_cons (c := '\x7d') rfl]
    rfl
  | cons m others =>
    have hleft : 2 * (writeMembers ((m :: others).map fun m => (some m.1, m.2))).length ≤
        left + 1 := by omega
    have hread := readMembers_append (List.cons_ne_nil m others) h rest hleft
    obtain ⟨ds, hds⟩ : ∃ ds, writeMembers ((m :: others).map fun m => (some m.1, m.2)) ++ rest =
        '"' :: ds := by
      cases others with
      | nil => exact ⟨_, rfl⟩
      | cons w others => exact ⟨_, rfl⟩
    have hspaces : skipSpaces (writeMembers ((m :: others).map fun m => (some m.1, m.2)) ++ rest) =
        writeMembers ((m :: others).map fun m => (some m.1, m.2)) ++ rest := by
      rw [hds]
      exact skipSpaces_cons rfl ds
    simp only [hspaces]
    split
    next heq =>
      rw [hds] at heq
      cases heq
    next =>
      rw [hread]
      rfl

/-- Every proper value reads back, by induction on its elements and members. -/
theorem Value.IsProper.readsBack {v : Value} (hv : v.IsProper) : v.ReadsBack := by
  induction hv with
  | null =>
    intro budget rest hbudget hrest
    cases budget with
    | zero => exact absurd hbudget (by decide)
    | succ budget => rfl
  | bool value =>
    intro budget rest hbudget hrest
    cases budget with
    | zero => cases value <;> exact absurd hbudget (by decide)
    | succ budget => cases value <;> rfl
  | number h => exact readsBack_number h
  | text s => exact readsBack_text s
  | array hproper ih => exact readsBack_array hproper ih
  | record _ ih => exact readsBack_record ih

/-- The text of a proper value reads back as the value, so no two proper values have the same
text. -/
theorem parse_print {v : Value} (hv : v.IsProper) : parse (print v) = some v := by
  have hread := hv.readsBack (budgetFor (writeValue v)) [] (by unfold budgetFor; omega)
    delimited_nil
  rw [List.append_nil] at hread
  unfold parse print
  simp only [String.toList_ofList, hread]
  rfl

end VariableBridge.Json
