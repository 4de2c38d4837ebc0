/-!
# Pieces of a text

A text is cut at every character that satisfies a test. The pieces keep all
other characters, and there is one more of them than there are cuts.
-/

namespace VariableBridge.Text

/-- Put one character in front of the pieces of the text behind it: a separator
starts a new piece, any other character lengthens the first one. -/
def extendPieces (separates : Char → Bool) (c : Char) (pieces : List (List Char)) :
    List (List Char) :=
  if separates c then [] :: pieces
  else match pieces with
    | [] => [[c]]
    | piece :: rest => (c :: piece) :: rest

/-- Pieces of a text between the characters that satisfy a test. -/
def piecesOf (separates : Char → Bool) (cs : List Char) : List (List Char) :=
  cs.foldr (extendPieces separates) [[]]

/-- A text without characters is one empty piece, not none: there is always one piece more than
there are separators. -/
@[simp] theorem piecesOf_nil (separates : Char → Bool) : piecesOf separates [] = [[]] := rfl

/-- A character in front either begins a new piece, if it separates, or belongs to the first piece
of the rest. -/
@[simp] theorem piecesOf_cons (separates : Char → Bool) (c : Char) (cs : List Char) :
    piecesOf separates (c :: cs) = extendPieces separates c (piecesOf separates cs) := rfl

/-- There is at least one piece, also of an empty text. -/
theorem piecesOf_ne_nil (separates : Char → Bool) (cs : List Char) :
    piecesOf separates cs ≠ [] := by
  cases cs with
  | nil => exact List.cons_ne_nil _ _
  | cons c cs =>
    rw [piecesOf_cons]
    unfold extendPieces
    split
    · exact List.cons_ne_nil _ _
    · split <;> exact List.cons_ne_nil _ _

/-- The characters of the pieces are those of the text that separate nothing. -/
theorem flatten_piecesOf (separates : Char → Bool) (cs : List Char) :
    (piecesOf separates cs).flatten = cs.filter (!separates ·) := by
  induction cs with
  | nil => rfl
  | cons c rest ih =>
    by_cases h : separates c
    · simp [extendPieces, h, ih]
    · cases hp : piecesOf separates rest <;> simp_all [extendPieces]

/-- No piece holds a separator, because each of them ends a piece. -/
theorem not_separates_of_mem_piecesOf {separates : Char → Bool} {cs piece : List Char}
    (h : piece ∈ piecesOf separates cs) : ∀ c ∈ piece, separates c = false := by
  intro c hc
  have hm : c ∈ (piecesOf separates cs).flatten := List.mem_flatten.mpr ⟨piece, h, hc⟩
  rw [flatten_piecesOf, List.mem_filter] at hm
  simpa using hm.2

/-- Texts between the occurrences of a character. -/
def splitAt (separator : Char) (s : String) : List String :=
  (piecesOf (· == separator) s.toList).map String.ofList

end VariableBridge.Text
