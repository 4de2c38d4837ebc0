import VariableBridge.Toml.Printer
import VariableBridge.Toml.Text

/-!
# Strings read back

A string is written in one of four notations, and its content decides which. Main statement:
in whichever notation a string is written, it reads back, if no quote follows it.
-/

namespace VariableBridge.Toml

/-- A character that needs no escape may stand in a comment, line breaks apart. -/
theorem isCommentChar_of_not_isControlCode {c : Char} (h : isControlCode c = false)
    (hline : c ≠ '\n') : isCommentChar c = true := by
  by_cases htab : c = '\t'
  · rw [htab]
    rfl
  have hdelete : c.toNat ≠ 0x7F := by
    intro hcode
    obtain rfl : c = '\x7f' := Char.toNat_inj.mp hcode
    cases h
  have hlow : 0x20 ≤ c.toNat := by
    unfold isControlCode at h
    simp only [bne_iff_ne.mpr htab, bne_iff_ne.mpr hline, Bool.and_true, Bool.or_eq_false_iff,
      decide_eq_false_iff_not, Nat.not_lt] at h
    exact h.1
  unfold isCommentChar
  simp only [Bool.or_eq_true, Bool.and_eq_true, decide_eq_true_eq]
  omega

/-- The digits of a control character's code read as the code, in the two places that it needs. -/
theorem readCode_escape {code : Nat} (h : code < 0x80) (rest : List Char) :
    readCode 4 ('0' :: '0' :: upperDigit (code / 16) :: upperDigit (code % 16) :: rest) =
      some (Char.ofNat code, rest) := by
  have hnumber : hexNumber ['0', '0', upperDigit (code / 16), upperDigit (code % 16)] =
      some code := by
    revert code
    decide
  have hvalid : code.isValidChar := .inl (by omega)
  unfold readCode charOfCode
  rw [if_neg (by simp)]
  change (hexNumber ['0', '0', upperDigit (code / 16), upperDigit (code % 16)] >>= fun code => _)
    = _
  rw [hnumber]
  simp [hvalid]

/-- Is this text an escape of the character, not a backslash at the end of a line? -/
def Escapes (text : List Char) (c : Char) : Prop :=
  ∃ letter body, text = '\\' :: letter :: body ∧
    ∀ rest, readEscape (letter :: (body ++ rest)) = some (c, rest) ∧
      joinLines (letter :: (body ++ rest)) = none

/-- A character other than a quote is escaped, or it stands as it is. -/
theorem escapeChar_cases (block : Bool) {c : Char} (hquote : c ≠ '"') :
    Escapes (escapeChar block c) c ∨
      escapeChar block c = [c] ∧ c ≠ '\\' ∧
        (isPlain '"' c = true ∨ block = true ∧ c = '\n') := by
  unfold escapeChar
  split
  next => exact .inl ⟨'b', [], rfl, fun _ => ⟨rfl, rfl⟩⟩
  next => exact .inl ⟨'t', [], rfl, fun _ => ⟨rfl, rfl⟩⟩
  next =>
    cases block with
    | true => exact .inr ⟨rfl, by decide, .inr ⟨rfl, rfl⟩⟩
    | false => exact .inl ⟨'n', [], rfl, fun _ => ⟨rfl, rfl⟩⟩
  next => exact .inl ⟨'f', [], rfl, fun _ => ⟨rfl, rfl⟩⟩
  next => exact .inl ⟨'r', [], rfl, fun _ => ⟨rfl, rfl⟩⟩
  next => exact .inl ⟨'\\', [], rfl, fun _ => ⟨rfl, rfl⟩⟩
  next hline _ _ hbackslash =>
    by_cases hcontrol : isControlCode c = true
    · have hcode : c.toNat < 0x80 := by
        unfold isControlCode at hcontrol
        simp only [Bool.or_eq_true, Bool.and_eq_true, decide_eq_true_eq, beq_iff_eq] at hcontrol
        rcases hcontrol with ⟨⟨hlow, _⟩, _⟩ | rfl
        · omega
        · decide
      rw [if_pos hcontrol]
      refine .inl ⟨'u', _, rfl, fun rest => ⟨?_, rfl⟩⟩
      change readCode 4 _ = _
      rw [List.cons_append, List.cons_append, List.cons_append, List.cons_append, List.nil_append,
        readCode_escape hcode, Char.ofNat_toNat]
    · have hcontrol : isControlCode c = false := Bool.eq_false_iff.mpr hcontrol
      have hplain : isPlain '"' c = true := by
        unfold isPlain
        rw [isCommentChar_of_not_isControlCode hcontrol hline, bne_iff_ne.mpr hquote]
        rfl
      rw [if_neg (by simp [hcontrol])]
      exact .inr ⟨rfl, hbackslash, .inl hplain⟩

/-- What stands for a character begins with no quote and with no line break of another kind. -/
theorem head_escapeChar (block : Bool) {c : Char} (hquote : c ≠ '"') :
    ∃ a tail, escapeChar block c = a :: tail ∧ a ≠ '"' ∧ a ≠ '\r' ∧ (a = '\n' → c = '\n') := by
  rcases escapeChar_cases block hquote with ⟨letter, body, htext, _⟩ | ⟨htext, _, hstands⟩
  · exact ⟨'\\', letter :: body, htext, by decide, by decide, fun h => absurd h (by decide)⟩
  · refine ⟨c, [], htext, hquote, ?_, id⟩
    rintro rfl
    rcases hstands with hplain | ⟨_, hline⟩
    · cases hplain
    · cases hline

/-- A quote stands for itself while the run of quotes is short enough, and is escaped otherwise,
which begins a new run. -/
theorem escapeText_quote (block : Bool) (allowed run : Nat) (cs : List Char) :
    escapeText block allowed run ('"' :: cs) =
      if run < allowed then '"' :: escapeText block allowed (run + 1) cs
      else '\\' :: '"' :: escapeText block allowed 0 cs := by
  rw [escapeText]

/-- Any other character is escaped if it has to be, and ends the run of quotes. -/
theorem escapeText_of_ne (block : Bool) (allowed run : Nat) {c : Char} (h : c ≠ '"')
    (cs : List Char) : escapeText block allowed run (c :: cs) =
      escapeChar block c ++ escapeText block allowed 0 cs := by
  rw [escapeText]
  exact h

/-- Escapes make a text no shorter, so the length of the text is budget enough to read it. -/
theorem length_le_escapeText (block : Bool) (allowed run : Nat) (cs : List Char) :
    cs.length ≤ (escapeText block allowed run cs).length := by
  induction cs generalizing run with
  | nil => exact Nat.zero_le _
  | cons c cs ih =>
    by_cases hquote : c = '"'
    · subst hquote
      rw [escapeText_quote]
      split
      · exact Nat.succ_le_succ (ih (run + 1))
      · exact Nat.succ_le_succ (Nat.le_succ_of_le (ih 0))
    · obtain ⟨a, tail, htext, _⟩ := head_escapeChar block hquote
      have hrest := ih 0
      rw [escapeText_of_ne _ _ _ hquote, htext, List.length_append, List.length_cons,
        List.length_cons]
      omega

/-- An escape of a character is read as this character, in front of whatever the rest of the string
is read as. -/
theorem readBasic_escape {text : List Char} {c : Char} (h : Escapes text c) (budget : Nat)
    (rest : List Char) :
    readBasic (budget + 1) (text ++ rest) = consChar c (readBasic budget rest) := by
  obtain ⟨letter, body, rfl, hread⟩ := h
  rw [List.cons_append, List.cons_append, readBasic, (hread rest).1]

/-- A plain character that is no backslash is read as itself, in front of whatever the rest is read
as. -/
theorem readBasic_plain {c : Char} (hplain : isPlain '"' c = true) (hbackslash : c ≠ '\\')
    (budget : Nat) (rest : List Char) :
    readBasic (budget + 1) (c :: rest) = consChar c (readBasic budget rest) := by
  have hquote : c ≠ '"' := by
    rintro rfl
    cases hplain
  rw [readBasic, if_pos hplain]
  · exact hquote
  · exact hbackslash

/-- A backslash in front of a quote is an escape of the quote, and is no line that is joined to the
next. -/
theorem escapes_quote : Escapes ['\\', '"'] '"' :=
  ⟨'"', [], rfl, fun _ => ⟨rfl, rfl⟩⟩

/-- Between double quotes a text reads back up to the closing one. -/
theorem readBasic_escapeText {cs : List Char} {budget : Nat} (hbudget : cs.length < budget)
    (rest : List Char) :
    readBasic budget (escapeText false 0 0 cs ++ '"' :: rest) = some (cs, rest) := by
  induction cs generalizing budget with
  | nil =>
    obtain ⟨budget, rfl⟩ := Nat.exists_eq_add_one_of_ne_zero (Nat.ne_of_gt hbudget)
    rfl
  | cons c cs ih =>
    obtain ⟨budget, rfl⟩ :=
      Nat.exists_eq_add_one_of_ne_zero (Nat.ne_of_gt (Nat.lt_of_le_of_lt (Nat.zero_le _) hbudget))
    have hread := ih (Nat.lt_of_succ_lt_succ hbudget)
    by_cases hquote : c = '"'
    · subst hquote
      rw [escapeText_quote, if_neg (Nat.not_lt_zero 0)]
      change readBasic (budget + 1) (['\\', '"'] ++ (escapeText false 0 0 cs ++ '"' :: rest)) = _
      rw [readBasic_escape escapes_quote, hread]
      rfl
    · rw [escapeText_of_ne _ _ _ hquote, List.append_assoc]
      rcases escapeChar_cases false hquote with hescape | ⟨htext, hbackslash, hplain | ⟨hblock, _⟩⟩
      · rw [readBasic_escape hescape, hread]
        rfl
      · rw [htext, List.singleton_append, readBasic_plain hplain hbackslash, hread]
        rfl
      · cases hblock

/-- Two quotes stand for themselves before any other character. A run of quotes is read when it is
known what follows it, the closing quotes or another character, so that a text is read together
with the quotes just before it. -/
theorem readLines_run {quote a : Char} (ha : a ≠ quote) {run : Nat} (hrun : run ≤ 2)
    (escapes : Bool) (budget : Nat) (b : Char) (rest : List Char) :
    readLines quote escapes (budget + run) (List.replicate run quote ++ a :: b :: rest) =
      (readLines quote escapes budget (a :: b :: rest)).map
        fun r => (List.replicate run quote ++ r.1, r.2) := by
  have hone : readLines quote escapes (budget + 1) (quote :: a :: b :: rest) =
      consChar quote (readLines quote escapes budget (a :: b :: rest)) := by
    rw [readLines]
    simp only [if_true, ha, false_and, if_false]
  match run with
  | 0 => exact Option.map_id'.symm
  | 1 => exact hone
  | 2 =>
    have htwo : readLines quote escapes (budget + 1 + 1) (quote :: quote :: a :: b :: rest) =
        consChar quote (readLines quote escapes (budget + 1) (quote :: a :: b :: rest)) := by
      rw [readLines]
      simp only [if_true, ha, and_false, if_false]
    rw [hone] at htwo
    refine htwo.trans ?_
    unfold consChar
    rw [Option.map_map]
    rfl

/-- Up to two quotes before the closing ones belong to the text. -/
theorem readLines_closing (quote : Char) (escapes : Bool) {run : Nat} (hrun : run ≤ 2)
    (budget : Nat) {rest : List Char} (hrest : ∀ c ∈ rest.head?, c ≠ quote) :
    readLines quote escapes (budget + 1)
        (List.replicate run quote ++ quote :: quote :: quote :: rest) =
      some (List.replicate run quote, rest) := by
  have hclosing : readClosing quote (List.replicate run quote ++ rest) =
      (List.replicate run quote, rest) := by
    match run, rest with
    | 0, [] => rfl
    | 0, [a] =>
      have ha : a ≠ quote := hrest a rfl
      exact if_neg ha
    | 0, a :: b :: rest =>
      have ha : a ≠ quote := hrest a rfl
      exact if_neg ha
    | 1, [] => exact if_pos rfl
    | 1, a :: rest =>
      have ha : a ≠ quote := hrest a rfl
      exact (if_pos rfl).trans (if_neg ha)
    | 2, rest => exact (if_pos rfl).trans (if_pos rfl)
  have hquotes : List.replicate run quote ++ quote :: quote :: quote :: rest =
      quote :: quote :: quote :: (List.replicate run quote ++ rest) := by
    match run with
    | 0 => rfl
    | 1 => rfl
    | 2 => rfl
  rw [hquotes, readLines]
  simp only [if_true, and_self, hclosing]

/-- A character behind a run of quotes is read after the run, if the run is too short to end the
string. -/
theorem readLines_cons {quote : Char} {escapes : Bool} {piece : List Char} {c : Char}
    (hread : ∀ budget rest, readLines quote escapes (budget + 1) (piece ++ rest) =
      consChar c (readLines quote escapes budget rest))
    {a : Char} (hhead : piece.head? = some a) (ha : a ≠ quote) {run : Nat} (hrun : run ≤ 2)
    {budget : Nat} {text : List Char} (hne : text ≠ []) {cs rest : List Char}
    (h : readLines quote escapes budget text = some (cs, rest)) :
    readLines quote escapes (budget + 1 + run) (List.replicate run quote ++ (piece ++ text)) =
      some (List.replicate run quote ++ c :: cs, rest) := by
  obtain ⟨tail, rfl⟩ : ∃ tail, piece = a :: tail := by
    cases piece with
    | nil => cases hhead
    | cons b tail => exact ⟨tail, by rw [Option.some.inj hhead]⟩
  obtain ⟨b, more, hmore⟩ : ∃ b more, tail ++ text = b :: more :=
    List.exists_cons_of_ne_nil (List.append_ne_nil_of_right_ne_nil tail hne)
  have hstep := hread budget text
  rw [List.cons_append, hmore] at hstep ⊢
  rw [readLines_run ha hrun, hstep, h]
  rfl

/-- How a character that is no quote is read: as an escape, as a line break, or as itself if it is
plain. -/
theorem readLines_of_ne {quote c : Char} (hne : c ≠ quote) (escapes : Bool) (budget : Nat)
    (rest : List Char) : readLines quote escapes (budget + 1) (c :: rest) =
      if escapes ∧ c = '\\' then
        match joinLines rest with
        | some after => readLines quote escapes budget after
        | none =>
          match readEscape rest with
          | some (d, after) => consChar d (readLines quote escapes budget after)
          | none => none
      else
        match readNewline (c :: rest) with
        | some after => consChar '\n' (readLines quote escapes budget after)
        | none =>
          if isPlain quote c then consChar c (readLines quote escapes budget rest) else none := by
  rw [readLines.eq_def]
  exact if_neg hne

/-- An escape of a character is read as this character in a string of several lines, too, if it may
have escapes. -/
theorem readLines_escape {text : List Char} {c : Char} (h : Escapes text c) (budget : Nat)
    (rest : List Char) :
    readLines '"' true (budget + 1) (text ++ rest) =
      consChar c (readLines '"' true budget rest) := by
  obtain ⟨letter, body, rfl, hread⟩ := h
  rw [List.cons_append, List.cons_append, readLines_of_ne (by decide), if_pos (by decide),
    (hread rest).2, (hread rest).1]

/-- A line break is kept in a string of several lines, in front of whatever the rest is read as. -/
theorem readLines_newline {quote : Char} (hquote : '\n' ≠ quote) (escapes : Bool) (budget : Nat)
    (rest : List Char) :
    readLines quote escapes (budget + 1) ('\n' :: rest) =
      consChar '\n' (readLines quote escapes budget rest) := by
  rw [readLines_of_ne hquote, if_neg (by simp)]
  rfl

/-- A plain character is read as itself in a string of several lines, unless it is a backslash that
begins an escape. -/
theorem readLines_plain {quote : Char} {escapes : Bool} {c : Char} (hplain : isPlain quote c = true)
    (hbackslash : escapes = true → c ≠ '\\') (budget : Nat) (rest : List Char) :
    readLines quote escapes (budget + 1) (c :: rest) =
      consChar c (readLines quote escapes budget rest) := by
  have hne : c ≠ quote := by
    rintro rfl
    simp [isPlain] at hplain
  have hline : readNewline (c :: rest) = none := by
    unfold readNewline
    split
    next heq =>
      obtain rfl := (List.cons.inj heq).1
      cases hplain
    next heq =>
      obtain rfl := (List.cons.inj heq).1
      cases hplain
    next => rfl
  rw [readLines_of_ne hne, if_neg (fun h => hbackslash h.1 h.2), hline]
  exact if_pos hplain

/-- Between three double quotes a text reads back up to the closing ones. -/
theorem readLines_escapeText {cs : List Char} {run budget : Nat} (hrun : run ≤ 2)
    (hbudget : run + cs.length < budget) {rest : List Char} (hrest : ∀ c ∈ rest.head?, c ≠ '"') :
    readLines '"' true budget
        (List.replicate run '"' ++ (escapeText true 2 run cs ++ '"' :: '"' :: '"' :: rest)) =
      some (List.replicate run '"' ++ cs, rest) := by
  induction cs generalizing run budget with
  | nil =>
    obtain ⟨budget, rfl⟩ := Nat.exists_eq_add_one_of_ne_zero (Nat.ne_zero_of_lt hbudget)
    rw [List.append_nil]
    exact readLines_closing '"' true hrun budget hrest
  | cons c cs ih =>
    rw [List.length_cons] at hbudget
    have hne : escapeText true 2 0 cs ++ '"' :: '"' :: '"' :: rest ≠ [] := by simp
    have hbehind (b : Nat) (hb : cs.length < b) : readLines '"' true b
        (escapeText true 2 0 cs ++ '"' :: '"' :: '"' :: rest) = some (cs, rest) :=
      ih (Nat.zero_le 2) (by omega)
    obtain ⟨b, rfl⟩ : ∃ b, budget = b + 1 + run := ⟨budget - 1 - run, by omega⟩
    by_cases hquote : c = '"'
    · subst hquote
      rw [escapeText_quote]
      by_cases hallowed : run < 2
      · have hlonger : readLines '"' true (b + 1 + run) (List.replicate (run + 1) '"' ++
            (escapeText true 2 (run + 1) cs ++ '"' :: '"' :: '"' :: rest)) =
            some (List.replicate (run + 1) '"' ++ cs, rest) := ih (by omega) (by omega)
        rw [List.replicate_succ', List.append_assoc, List.append_assoc] at hlonger
        rw [if_pos hallowed]
        exact hlonger
      · rw [if_neg hallowed]
        exact readLines_cons (readLines_escape escapes_quote) rfl (by decide) hrun hne
          (hbehind b (by omega))
    · rw [escapeText_of_ne _ _ _ hquote, List.append_assoc]
      rcases escapeChar_cases true hquote with hescape | ⟨htext, hbackslash, hstands⟩
      · obtain ⟨a, tail, hhead, ha, _⟩ := head_escapeChar true hquote
        exact readLines_cons (readLines_escape hescape) (by rw [hhead]; rfl) ha hrun hne
          (hbehind b (by omega))
      · have hread (budget : Nat) (rest : List Char) :
            readLines '"' true (budget + 1) ([c] ++ rest) =
              consChar c (readLines '"' true budget rest) := by
          rcases hstands with hplain | ⟨_, rfl⟩
          · exact readLines_plain hplain (fun _ => hbackslash) budget rest
          · exact readLines_newline (by decide) true budget rest
        rw [htext]
        exact readLines_cons hread rfl hquote hrun hne (hbehind b (by omega))

/-- A character that is no control code, no line break and no single quote is plain in a literal
string. -/
theorem isPlain_quote {c : Char} (hcontrol : isControlCode c = false) (hline : c ≠ '\n')
    (hquote : c ≠ '\'') : isPlain '\'' c = true := by
  unfold isPlain
  rw [isCommentChar_of_not_isControlCode hcontrol hline, bne_iff_ne.mpr hquote]
  rfl

/-- Between three single quotes a text without control characters reads back up to the closing
ones, if it has no more than two of them in a row. -/
theorem readLines_literal {cs : List Char} {run budget : Nat}
    (hcontrols : ∀ c ∈ cs, isControlCode c = false) (hlongest : longestRun '\'' cs run ≤ 2)
    (hbudget : run + cs.length < budget) {rest : List Char} (hrest : ∀ c ∈ rest.head?, c ≠ '\'') :
    readLines '\'' false budget
        (List.replicate run '\'' ++ (cs ++ '\'' :: '\'' :: '\'' :: rest)) =
      some (List.replicate run '\'' ++ cs, rest) := by
  induction cs generalizing run budget with
  | nil =>
    obtain ⟨budget, rfl⟩ := Nat.exists_eq_add_one_of_ne_zero (Nat.ne_zero_of_lt hbudget)
    rw [List.append_nil]
    exact readLines_closing '\'' false hlongest budget hrest
  | cons c cs ih =>
    have hbehind := fun d hd => hcontrols d (List.mem_cons_of_mem c hd)
    rw [List.length_cons] at hbudget
    rw [longestRun] at hlongest
    by_cases hquote : c = '\''
    · subst hquote
      rw [if_pos rfl] at hlongest
      have hlonger := ih hbehind hlongest (by omega : run + 1 + cs.length < budget)
      rw [List.replicate_succ', List.append_assoc, List.append_assoc] at hlonger
      exact hlonger
    · rw [if_neg hquote] at hlongest
      have hread (budget : Nat) (rest : List Char) :
          readLines '\'' false (budget + 1) ([c] ++ rest) =
            consChar c (readLines '\'' false budget rest) := by
        by_cases hline : c = '\n'
        · subst hline
          exact readLines_newline (by decide) false budget rest
        · have hplain := isPlain_quote (hcontrols c List.mem_cons_self) hline hquote
          exact readLines_plain hplain (fun h => absurd h Bool.false_ne_true) budget rest
      obtain ⟨b, rfl⟩ : ∃ b, budget = b + 1 + run := ⟨budget - 1 - run, by omega⟩
      have hne : cs ++ '\'' :: '\'' :: '\'' :: rest ≠ [] := by simp
      have hrun : run ≤ 2 := by omega
      have hnone : longestRun '\'' cs 0 ≤ 2 := by omega
      exact readLines_cons hread rfl hquote hrun hne (ih hbehind hnone (by omega))

/-- The longest run of quotes is not shorter than the run that the text goes on from. -/
theorem le_longestRun (quote : Char) (cs : List Char) (run : Nat) :
    run ≤ longestRun quote cs run := by
  induction cs generalizing run with
  | nil => exact Nat.le_refl run
  | cons c cs ih =>
    rw [longestRun]
    split
    · exact Nat.le_of_succ_le (ih (run + 1))
    · exact Nat.le_max_left _ _

/-- A text without a run of a character does not hold it, so it may be used as the quote. -/
theorem not_mem_of_longestRun_eq_zero {quote : Char} {cs : List Char}
    (h : longestRun quote cs 0 = 0) : quote ∉ cs := by
  induction cs with
  | nil => exact List.not_mem_nil
  | cons c cs ih =>
    rw [longestRun] at h
    have hlonger := le_longestRun quote cs (0 + 1)
    by_cases hc : c = quote
    · rw [if_pos hc] at h
      omega
    · rw [if_neg hc] at h
      exact List.not_mem_cons_of_ne_of_not_mem (Ne.symm hc) (ih (by omega))

/-- A string between single quotes has none of them, no line break and no control character. -/
theorem TextTraits.of_literal {t : TextTraits} (h : t.notationFor = .literal) :
    t.controls = false ∧ t.singleQuotes = 0 ∧ t.newline = false := by
  unfold notationFor at h
  split at h
  next => cases h
  next =>
    split at h
    next hplain => simpa [and_assoc] using hplain
    next =>
      split at h
      next => cases h
      next =>
        split at h
        next => cases h
        next => split at h <;> cases h

/-- A string between three single quotes has no more than two in a row and no control character. -/
theorem TextTraits.of_literalBlock {t : TextTraits} (h : t.notationFor = .literalBlock) :
    t.controls = false ∧ t.singleQuotes ≤ 2 := by
  unfold notationFor at h
  split at h
  next => cases h
  next =>
    split at h
    next => cases h
    next =>
      split at h
      next => cases h
      next =>
        split at h
        next hplain => simpa using hplain
        next => split at h <;> cases h

/-- A text that does not begin with a line break has none to be passed over behind the opening
quotes. -/
theorem readNewline_of_head {text : List Char} (h : ∀ c ∈ text.head?, c ≠ '\n' ∧ c ≠ '\r') :
    readNewline text = none := by
  unfold readNewline
  split
  next => exact absurd rfl (h '\n' rfl).1
  next => exact absurd rfl (h '\r' rfl).2
  next => rfl

/-- The line break behind an opening is left out, and only that one. -/
theorem readBlock_blockStart {quote : Char} {escapes : Bool} {newline : Bool} {text : List Char}
    (h : newline = false → readNewline text = none) :
    readBlock quote escapes (blockStart newline ++ text) =
      readLines quote escapes (text.length + 1) text := by
  cases newline with
  | true => rfl
  | false =>
    unfold readBlock
    rw [blockStart, if_neg Bool.false_ne_true, List.nil_append, h rfl, Option.getD_none]

/-- A string that does not begin with two more quotes stands on one line. -/
theorem readString_basic {text : List Char} (h : ∀ rest, text ≠ '"' :: '"' :: rest) :
    readString ('"' :: text) =
      (readBasic (text.length + 1) text).map fun r => (String.ofList r.1, r.2) := by
  rw [readString]
  exact h

/-- A literal string on one line is read up to its closing quote, unless three quotes open one of
several lines. -/
theorem readString_literal {text : List Char} (h : ∀ rest, text ≠ '\'' :: '\'' :: rest) :
    readString ('\'' :: text) = (readLiteral text).map fun r => (String.ofList r.1, r.2) := by
  rw [readString]
  exact h

/-- A text between double quotes reads back, with the characters escaped that may not stand
there. -/
theorem readString_escapeText (cs : List Char) {rest : List Char}
    (hrest : ∀ c ∈ rest.head?, c ≠ '"') :
    readString ('"' :: (escapeText false 0 0 cs ++ '"' :: rest)) =
      some (String.ofList cs, rest) := by
  have hopening : ∀ more, escapeText false 0 0 cs ++ '"' :: rest ≠ '"' :: '"' :: more := by
    intro more heq
    cases cs with
    | nil =>
      obtain rfl := (List.cons.inj heq).2
      exact hrest '"' rfl rfl
    | cons c cs =>
      by_cases hquote : c = '"'
      · subst hquote
        rw [escapeText_quote, if_neg (Nat.not_lt_zero 0)] at heq
        cases heq
      · obtain ⟨a, tail, hhead, ha, _⟩ := head_escapeChar false hquote
        rw [escapeText_of_ne _ _ _ hquote, hhead] at heq
        exact ha (List.cons.inj heq).1
  have hbudget : cs.length < (escapeText false 0 0 cs ++ '"' :: rest).length + 1 := by
    have hlength := length_le_escapeText false 0 0 cs
    rw [List.length_append]
    omega
  rw [readString_basic hopening, readBasic_escapeText hbudget]
  rfl

/-- A text between single quotes reads back, if it can stand there. -/
theorem readString_plain {cs : List Char} (hplain : ∀ c ∈ cs, isPlain '\'' c = true)
    {rest : List Char} (hrest : ∀ c ∈ rest.head?, c ≠ '\'') :
    readString ('\'' :: (cs ++ '\'' :: rest)) = some (String.ofList cs, rest) := by
  have hopening : ∀ more, cs ++ '\'' :: rest ≠ '\'' :: '\'' :: more := by
    intro more heq
    cases cs with
    | nil =>
      obtain rfl := (List.cons.inj heq).2
      exact hrest '\'' rfl rfl
    | cons c cs =>
      obtain rfl : c = '\'' := (List.cons.inj heq).1
      cases hplain '\'' List.mem_cons_self
  have hclosing : isPlain '\'' '\'' = false := rfl
  rw [readString_literal hopening, readLiteral, List.dropWhile_append_of_pos hplain,
    List.takeWhile_append_of_pos hplain]
  simp [hclosing]

/-- A text between three double quotes reads back; `newline` says whether it is preceded by a line
break of its own. -/
theorem readString_block (cs : List Char) {newline : Bool} (hnewline : newline = cs.contains '\n')
    {rest : List Char} (hrest : ∀ c ∈ rest.head?, c ≠ '"') :
    readString ('"' :: '"' :: '"' :: (blockStart newline ++
      (escapeText true 2 0 cs ++ '"' :: '"' :: '"' :: rest))) = some (String.ofList cs, rest) := by
  have hstart : newline = false →
      readNewline (escapeText true 2 0 cs ++ '"' :: '"' :: '"' :: rest) = none := by
    intro hnone
    have hline : '\n' ∉ cs := by simpa [hnone] using hnewline
    cases cs with
    | nil => rfl
    | cons c cs =>
      by_cases hquote : c = '"'
      · subst hquote
        rfl
      · obtain ⟨a, tail, hhead, _, hreturn, hbreak⟩ := head_escapeChar true hquote
        rw [escapeText_of_ne _ _ _ hquote, hhead]
        refine readNewline_of_head fun d hd => ?_
        obtain rfl : a = d := Option.some.inj hd
        refine ⟨fun ha => hline ?_, hreturn⟩
        rw [hbreak ha]
        exact List.mem_cons_self
  have hbudget : 0 + cs.length <
      (escapeText true 2 0 cs ++ '"' :: '"' :: '"' :: rest).length + 1 := by
    have hlength := length_le_escapeText true 2 0 cs
    rw [List.length_append]
    omega
  rw [readString, readBlock_blockStart hstart]
  exact congrArg (Option.map _) (readLines_escapeText (Nat.zero_le 2) hbudget hrest)

/-- A text between three single quotes reads back, if it can stand there. -/
theorem readString_literalBlock {cs : List Char} (hcontrols : ∀ c ∈ cs, isControlCode c = false)
    (hlongest : longestRun '\'' cs 0 ≤ 2) {newline : Bool} (hnewline : newline = cs.contains '\n')
    {rest : List Char} (hrest : ∀ c ∈ rest.head?, c ≠ '\'') :
    readString ('\'' :: '\'' :: '\'' :: (blockStart newline ++
      (cs ++ '\'' :: '\'' :: '\'' :: rest))) = some (String.ofList cs, rest) := by
  have hstart : newline = false → readNewline (cs ++ '\'' :: '\'' :: '\'' :: rest) = none := by
    intro hnone
    have hline : '\n' ∉ cs := by simpa [hnone] using hnewline
    cases cs with
    | nil => rfl
    | cons c cs =>
      refine readNewline_of_head fun d hd => ?_
      obtain rfl : c = d := Option.some.inj hd
      refine ⟨fun hbreak => hline (hbreak ▸ List.mem_cons_self), ?_⟩
      rintro rfl
      cases hcontrols '\r' List.mem_cons_self
  have hbudget : 0 + cs.length < (cs ++ '\'' :: '\'' :: '\'' :: rest).length + 1 := by
    rw [List.length_append]
    omega
  rw [readString, readBlock_blockStart hstart]
  exact congrArg (Option.map _) (readLines_literal hcontrols hlongest hbudget hrest)

/-- In whichever notation a string is written, it reads back, unless another quote follows it. -/
theorem readString_writeString (s : String) {rest : List Char}
    (hrest : ∀ c ∈ rest.head?, c ≠ '"' ∧ c ≠ '\'') :
    readString (writeString s ++ rest) = some (s, rest) := by
  have hdouble := fun c hc => (hrest c hc).1
  have hsingle := fun c hc => (hrest c hc).2
  have hcontrols (h : (TextTraits.of s.toList).controls = false) :
      ∀ c ∈ s.toList, isControlCode c = false := by
    simpa [TextTraits.of] using h
  have hline : (TextTraits.of s.toList).newline = s.toList.contains '\n' := rfl
  have hsame : String.ofList s.toList = s := String.ofList_toList
  unfold writeString
  dsimp only
  split
  next =>
    have hread := readString_escapeText s.toList hdouble
    rw [hsame] at hread
    simpa only [List.append_assoc, List.cons_append, List.nil_append] using hread
  next hnotation =>
    obtain ⟨hplain, hquotes, hnone⟩ := TextTraits.of_literal hnotation
    have hliteral : ∀ c ∈ s.toList, isPlain '\'' c = true := by
      intro c hc
      refine isPlain_quote (hcontrols hplain c hc) ?_ ?_
      · rintro rfl
        simp [TextTraits.of, hc] at hnone
      · rintro rfl
        exact not_mem_of_longestRun_eq_zero hquotes hc
    have hread := readString_plain hliteral hsingle
    rw [hsame] at hread
    simpa only [List.append_assoc, List.cons_append, List.nil_append] using hread
  next =>
    have hread := readString_block s.toList hline hdouble
    rw [hsame] at hread
    simpa only [List.append_assoc, List.cons_append, List.nil_append] using hread
  next hnotation =>
    obtain ⟨hplain, hquotes⟩ := TextTraits.of_literalBlock hnotation
    have hread := readString_literalBlock (hcontrols hplain) hquotes hline hsingle
    rw [hsame] at hread
    simpa only [List.append_assoc, List.cons_append, List.nil_append] using hread

end VariableBridge.Toml
