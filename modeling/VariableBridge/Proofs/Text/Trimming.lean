import Mathlib.Data.List.Basic
import Mathlib.Data.List.TakeWhile
import VariableBridge.Text.Blank

/-!
# Trimming texts

Main statements: every text is its trimmed text with blanks around it; and a text without
blanks at its ends is what is left when blanks around it are trimmed.
-/

namespace VariableBridge.Text

/-- Is the text made of blanks only? -/
def IsBlankText (s : String) : Prop := ∀ c ∈ s.toList, isBlank c = true

/-- Is there no blank at either end of the text? -/
structure IsTrimmed (s : String) : Prop where
  /-- The first character is no blank. -/
  first : ∀ c ∈ s.toList.head?, isBlank c = false
  /-- The last character is no blank. -/
  last : ∀ c ∈ s.toList.getLast?, isBlank c = false

/-- A text without any blank has none at its ends, so there is nothing to trim. -/
theorem isTrimmed_of_not_isBlank {s : String} (h : ∀ c ∈ s.toList, isBlank c = false) :
    IsTrimmed s where
  first := fun c hc => h c (List.mem_of_mem_head? hc)
  last := fun c hc => h c (List.mem_of_getLast? hc)

/-- Nothing is dropped in front of a character that is no blank. -/
theorem trimStart_of_head {cs : List Char} (h : ∀ c ∈ cs.head?, isBlank c = false) :
    trimStart cs = cs := by
  cases cs with
  | nil => rfl
  | cons c rest =>
    have hc : isBlank c = false := h c rfl
    exact List.dropWhile_cons_of_neg (by simp [hc])

/-- Blanks in front are dropped, however many they are, and whatever stands behind them. -/
theorem trimStart_append {blanks : List Char} (h : ∀ c ∈ blanks, isBlank c = true)
    (cs : List Char) : trimStart (blanks ++ cs) = trimStart cs :=
  List.dropWhile_append_of_pos h

/-- What is dropped in front is blank, so nothing but blanks is lost. -/
theorem exists_append_trimStart (cs : List Char) :
    ∃ blanks, (∀ c ∈ blanks, isBlank c = true) ∧ cs = blanks ++ trimStart cs :=
  ⟨cs.takeWhile isBlank, fun _ => List.mem_takeWhile_imp, List.takeWhile_append_dropWhile.symm⟩

/-- What is left does not begin with a blank, or nothing is left at all. -/
theorem head_trimStart (cs : List Char) : ∀ c ∈ (trimStart cs).head?, isBlank c = false := by
  intro c hc
  have hhead := List.head?_dropWhile_not isBlank cs
  unfold trimStart at hc
  rw [Option.mem_def.mp hc] at hhead
  simpa using hhead

/-- Blanks around a text without blanks at its ends are trimmed. -/
theorem trim_padded {before text after : String} (hbefore : IsBlankText before)
    (hafter : IsBlankText after) (htext : IsTrimmed text) :
    trim (before ++ text ++ after) = text := by
  have hends : trimChars (before ++ text ++ after).toList = text.toList := by
    unfold trimChars trimEnd
    rw [String.toList_append, String.toList_append, List.append_assoc, trimStart_append hbefore]
    by_cases hempty : text.toList = []
    · -- blanks on both sides of nothing
      have hnone := trimStart_append hafter []
      rw [List.append_nil] at hnone
      rw [hempty, List.nil_append, hnone]
      rfl
    · have hhead : ∀ c ∈ (text.toList ++ after.toList).head?, isBlank c = false := by
        rw [List.head?_append_of_ne_nil _ hempty]
        exact htext.first
      have hlast : ∀ c ∈ text.toList.reverse.head?, isBlank c = false := by
        rw [List.head?_reverse]
        exact htext.last
      have hblank : ∀ c ∈ after.toList.reverse, isBlank c = true :=
        fun c hc => hafter c (List.mem_reverse.mp hc)
      rw [trimStart_of_head hhead, List.reverse_append, trimStart_append hblank,
        trimStart_of_head hlast, List.reverse_reverse]
  rw [trim, hends, String.ofList_toList]

/-- Trimming takes away blanks only: the text is the trimmed one between two blank texts. -/
theorem exists_padding (s : String) :
    ∃ before after, IsBlankText before ∧ IsBlankText after ∧ s = before ++ trim s ++ after := by
  obtain ⟨before, hbefore, hstart⟩ := exists_append_trimStart s.toList
  obtain ⟨after, hafter, hend⟩ := exists_append_trimStart (trimStart s.toList).reverse
  refine ⟨String.ofList before, String.ofList after.reverse, ?_, ?_, ?_⟩
  · rw [IsBlankText, String.toList_ofList]
    exact hbefore
  · intro c hc
    rw [String.toList_ofList, List.mem_reverse] at hc
    exact hafter c hc
  · have hrest : trimStart s.toList = trimChars s.toList ++ after.reverse := by
      rw [← List.reverse_inj, List.reverse_append, List.reverse_reverse]
      unfold trimChars trimEnd
      rw [List.reverse_reverse]
      exact hend
    rw [trim, ← String.ofList_append, ← String.ofList_append, List.append_assoc, ← hrest, ← hstart,
      String.ofList_toList]

/-- What is trimmed has no blank at its ends, so trimming again changes nothing. -/
theorem isTrimmed_trim (s : String) : IsTrimmed (trim s) := by
  have hlist : (trim s).toList = (trimStart (trimStart s.toList).reverse).reverse := by
    rw [trim, String.toList_ofList]
    rfl
  constructor
  · -- the first character is also the first one before the end was trimmed
    intro c hc
    obtain ⟨after, _, hend⟩ := exists_append_trimStart (trimStart s.toList).reverse
    have hstart : trimStart s.toList = (trim s).toList ++ after.reverse := by
      rw [hlist, ← List.reverse_append, ← hend, List.reverse_reverse]
    refine head_trimStart s.toList c ?_
    rw [hstart, List.head?_append, Option.mem_def.mp hc]
    rfl
  · rw [hlist, List.getLast?_reverse]
    exact head_trimStart _

end VariableBridge.Text
