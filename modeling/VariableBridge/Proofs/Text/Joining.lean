import VariableBridge.Text.Blank

/-!
# Joining and cutting texts

Main statements: texts without a separator that are joined by separators are the pieces
of the whole; and words that are joined by blanks are its words again.
-/

namespace VariableBridge.Text

section Pieces

variable {separates : Char → Bool}

/-- A text without a separator is one piece, also if it is empty. -/
theorem piecesOf_of_not_separates {cs : List Char} (h : ∀ c ∈ cs, separates c = false) :
    piecesOf separates cs = [cs] := by
  induction cs with
  | nil => rfl
  | cons c cs ih =>
    have hc : separates c = false := h c List.mem_cons_self
    have hrest := ih fun d hd => h d (List.mem_cons_of_mem c hd)
    rw [piecesOf_cons, hrest, extendPieces, if_neg (by simp [hc])]

/-- A separator ends the piece before it, and what stands behind it is cut by itself. -/
theorem piecesOf_append_cons {cs : List Char} (h : ∀ c ∈ cs, separates c = false)
    {separator : Char} (hs : separates separator = true) (rest : List Char) :
    piecesOf separates (cs ++ separator :: rest) = cs :: piecesOf separates rest := by
  induction cs with
  | nil =>
    rw [List.nil_append, piecesOf_cons]
    unfold extendPieces
    rw [if_pos hs]
  | cons c cs ih =>
    have hc : separates c = false := h c List.mem_cons_self
    have hrest := ih fun d hd => h d (List.mem_cons_of_mem c hd)
    rw [List.cons_append, piecesOf_cons, hrest, extendPieces, if_neg (by simp [hc])]

/-- Texts that are joined by a separator are the pieces of the whole. -/
theorem piecesOf_intercalate {separator : Char} (hs : separates separator = true)
    {texts : List (List Char)} (hne : texts ≠ [])
    (h : ∀ text ∈ texts, ∀ c ∈ text, separates c = false) :
    piecesOf separates ([separator].intercalate texts) = texts := by
  induction texts with
  | nil => exact absurd rfl hne
  | cons text texts ih =>
    have hfirst := h text List.mem_cons_self
    cases texts with
    | nil =>
      rw [List.intercalate_singleton]
      exact piecesOf_of_not_separates hfirst
    | cons next texts =>
      have hrest := ih (List.cons_ne_nil _ _) fun t ht => h t (List.mem_cons_of_mem text ht)
      rw [List.intercalate_cons_cons, List.append_assoc, List.singleton_append,
        piecesOf_append_cons hfirst hs, hrest]

/-- The pieces between the occurrences of a separator, joined by it, are the text. -/
theorem intercalate_piecesOf (separator : Char) (cs : List Char) :
    [separator].intercalate (piecesOf (· == separator) cs) = cs := by
  induction cs with
  | nil => rfl
  | cons c cs ih =>
    rw [piecesOf_cons]
    unfold extendPieces
    by_cases hc : (c == separator) = true
    · rw [if_pos hc, List.intercalate_cons_of_ne_nil (piecesOf_ne_nil _ cs), ih, eq_of_beq hc]
      rfl
    · rw [if_neg hc]
      -- the character joins the first piece, whether there are more or not
      cases hpieces : piecesOf (· == separator) cs with
      | nil => exact absurd hpieces (piecesOf_ne_nil _ cs)
      | cons piece rest =>
        rw [hpieces] at ih
        cases rest with
        | nil =>
          rw [List.intercalate_singleton] at ih ⊢
          rw [ih]
        | cons next rest =>
          rw [List.intercalate_cons_cons] at ih ⊢
          rw [← ih]
          rfl

end Pieces

/-- Words that are joined by a blank are the words of the whole. -/
theorem words_intercalate {separator : String} {blank : Char} (hs : separator.toList = [blank])
    (hblank : isBlank blank = true) {texts : List String} (hne : ∀ text ∈ texts, text ≠ "")
    (h : ∀ text ∈ texts, ∀ c ∈ text.toList, isBlank c = false) :
    words (separator.intercalate texts) = texts := by
  by_cases hnone : texts = []
  · subst hnone
    rw [String.intercalate_nil]
    rfl
  have hpieces : piecesOf isBlank (separator.intercalate texts).toList =
      texts.map String.toList := by
    rw [String.toList_intercalate, hs]
    refine piecesOf_intercalate hblank (by simpa using hnone) ?_
    intro cs hcs
    obtain ⟨text, ht, rfl⟩ := List.mem_map.mp hcs
    exact h text ht
  -- no piece is empty, so that all of them are words
  have hkept : (texts.map String.toList).filter (!·.isEmpty) = texts.map String.toList := by
    refine List.filter_eq_self.mpr fun cs hcs => ?_
    obtain ⟨text, ht, rfl⟩ := List.mem_map.mp hcs
    simpa using hne text ht
  unfold words
  rw [hpieces, hkept, List.map_map]
  simp

/-- No word is empty, since blanks in a row separate no more than one. -/
theorem ne_empty_of_mem_words {s w : String} (h : w ∈ words s) : w ≠ "" := by
  obtain ⟨piece, hp, rfl⟩ := List.mem_map.mp h
  have hne := (List.mem_filter.mp hp).2
  intro hempty
  rw [String.ofList_eq_empty_iff.mp hempty] at hne
  cases hne

end VariableBridge.Text
