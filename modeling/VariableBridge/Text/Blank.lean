import VariableBridge.Text.CodeRanges
import VariableBridge.Text.Pieces

/-!
# Blank characters

White space is the property of that name: the ASCII blanks, the next-line
control, and the space, line and paragraph separators. Trimming takes blanks
from both ends, and the words of a text are its longest runs without blanks.
-/

namespace VariableBridge.Text

/-- Code points with the white-space property. -/
def blankRanges : CodeRanges := [
  (0x09, 0x0D), (0x20, 0x20), (0x85, 0x85), (0xA0, 0xA0), (0x1680, 0x1680), (0x2000, 0x200A),
  (0x2028, 0x2029), (0x202F, 0x202F), (0x205F, 0x205F), (0x3000, 0x3000)]

/-- Is this character white space? -/
def isBlank (c : Char) : Bool := CodeRanges.contains blankRanges c

/-- Drop the blanks at the start. -/
def trimStart (cs : List Char) : List Char := cs.dropWhile isBlank

/-- Drop the blanks at the end. -/
def trimEnd (cs : List Char) : List Char := (trimStart cs.reverse).reverse

/-- Drop the blanks at both ends. -/
def trimChars (cs : List Char) : List Char := trimEnd (trimStart cs)

/-- The text without blanks at its ends. -/
def trim (s : String) : String := String.ofList (trimChars s.toList)

/-- The words of a text: its pieces between blanks that are not empty. -/
def words (s : String) : List String :=
  ((piecesOf isBlank s.toList).filter (!·.isEmpty)).map String.ofList

/-- No word holds a blank, since every blank separates words. -/
theorem not_isBlank_of_mem_words {s w : String} (h : w ∈ words s) :
    ∀ c ∈ w.toList, isBlank c = false := by
  obtain ⟨piece, hp, rfl⟩ := List.mem_map.mp h
  simpa using not_separates_of_mem_piecesOf (List.mem_filter.mp hp).1

example : words " a b  c\n" = ["a", "b", "c"] := by decide +kernel
example : trim "  x y\t" = "x y" := by decide +kernel

end VariableBridge.Text
