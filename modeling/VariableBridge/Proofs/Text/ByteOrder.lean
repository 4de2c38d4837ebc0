/-!
# The order of texts and of their bytes

Texts are ordered by their characters. Main statement: this is the order of their bytes,
since the bytes of a greater character are greater from the first that differs.
-/

namespace VariableBridge.Text

/-- The bytes of a text. -/
def bytes (s : String) : List UInt8 := s.toUTF8.data.toList

/-- The bytes of a text are those of its characters in order, so texts are compared character by
character. -/
theorem bytes_eq_flatMap (s : String) : bytes s = s.toList.flatMap String.utf8EncodeChar := by
  have hlist : s.toByteArray = (String.ofList s.toList).toByteArray := by
    rw [String.ofList_toList]
  unfold bytes
  rw [String.toUTF8_eq_toByteArray, hlist, String.toByteArray_ofList, List.utf8Encode]
  simp

/-- Bytes are in order if the first ones are, or if they are equal and the rest is in order. -/
theorem cons_lt_cons {a b : Nat} {xs ys : List UInt8} (hb : b < 256)
    (h : a < b ∨ a = b ∧ xs < ys) : UInt8.ofNat a :: xs < UInt8.ofNat b :: ys := by
  rw [List.cons_lt_cons_iff, UInt8.lt_iff_toNat_lt, UInt8.toNat_ofNat', UInt8.toNat_ofNat']
  rcases h with hlt | ⟨rfl, htail⟩
  · left
    omega
  · exact .inr ⟨rfl, htail⟩

section Digits

variable {v w : Nat} (xs ys : List UInt8)

/-- The last byte holds the last digit of a code to the base 64. -/
theorem lastByte_lt (h : v % 64 < w % 64) :
    UInt8.ofNat (v % 64 + 128) :: xs < UInt8.ofNat (w % 64 + 128) :: ys :=
  cons_lt_cons (by omega) (.inl (by omega))

/-- The last two bytes hold the last two digits, so they decide where the bytes before them
agree. -/
theorem lastTwoBytes_lt (h : v % 4096 < w % 4096) :
    UInt8.ofNat (v / 64 % 64 + 128) :: UInt8.ofNat (v % 64 + 128) :: xs <
      UInt8.ofNat (w / 64 % 64 + 128) :: UInt8.ofNat (w % 64 + 128) :: ys := by
  rcases Nat.lt_or_ge (v / 64 % 64) (w / 64 % 64) with hdigit | hdigit
  · exact cons_lt_cons (by omega) (.inl (by omega))
  · exact cons_lt_cons (by omega) (.inr ⟨by omega, lastByte_lt xs ys (by omega)⟩)

/-- The last three bytes hold the last three digits, so they decide where the byte before them
agrees. -/
theorem lastThreeBytes_lt (h : v % 262144 < w % 262144) :
    UInt8.ofNat (v / 4096 % 64 + 128) :: UInt8.ofNat (v / 64 % 64 + 128) ::
        UInt8.ofNat (v % 64 + 128) :: xs <
      UInt8.ofNat (w / 4096 % 64 + 128) :: UInt8.ofNat (w / 64 % 64 + 128) ::
        UInt8.ofNat (w % 64 + 128) :: ys := by
  rcases Nat.lt_or_ge (v / 4096 % 64) (w / 4096 % 64) with hdigit | hdigit
  · exact cons_lt_cons (by omega) (.inl (by omega))
  · exact cons_lt_cons (by omega) (.inr ⟨by omega, lastTwoBytes_lt xs ys (by omega)⟩)

end Digits

/-- The first byte of a code. The longer the code, the greater it is. -/
def firstByte (v : Nat) : Nat :=
  if v ≤ 127 then v
  else if v ≤ 2047 then v / 64 % 32 + 192
  else if v ≤ 65535 then v / 4096 % 16 + 224
  else v / 262144 % 8 + 240

/-- The bytes of a code behind the first one. -/
def laterBytes (v : Nat) : List UInt8 :=
  if v ≤ 127 then []
  else if v ≤ 2047 then [UInt8.ofNat (v % 64 + 128)]
  else if v ≤ 65535 then [UInt8.ofNat (v / 64 % 64 + 128), UInt8.ofNat (v % 64 + 128)]
  else [UInt8.ofNat (v / 4096 % 64 + 128), UInt8.ofNat (v / 64 % 64 + 128),
    UInt8.ofNat (v % 64 + 128)]

/-- The bytes of a character are the first byte of its code and the later ones, which are computed
from the code alone. -/
theorem utf8EncodeChar_eq (c : Char) :
    String.utf8EncodeChar c = UInt8.ofNat (firstByte c.val.toNat) :: laterBytes c.val.toNat := by
  unfold String.utf8EncodeChar firstByte laterBytes
  dsimp only
  split
  next => rfl
  next =>
    split
    next => rfl
    next => split <;> rfl

/-- The first byte in the form of linear bounds: which of the four lengths a code has, and what is
left for the byte. -/
theorem firstByte_cases (v : Nat) :
    v ≤ 127 ∧ firstByte v = v ∨
      127 < v ∧ v ≤ 2047 ∧ firstByte v = v / 64 % 32 + 192 ∨
      2047 < v ∧ v ≤ 65535 ∧ firstByte v = v / 4096 % 16 + 224 ∨
      65535 < v ∧ firstByte v = v / 262144 % 8 + 240 := by
  unfold firstByte
  split
  next => omega
  next =>
    split
    next => omega
    next => split <;> omega

/-- The first byte of a code of a character fits into eight bits. -/
theorem firstByte_lt {v : Nat} (h : v < 0x110000) : firstByte v < 256 := by
  have hcases := firstByte_cases v
  omega

/-- A greater code has no smaller first byte, so that bytes order characters as their codes do. -/
theorem firstByte_le {v w : Nat} (h : v < w) (hw : w < 0x110000) : firstByte v ≤ firstByte w := by
  have hcases := firstByte_cases v
  have hcases' := firstByte_cases w
  omega

/-- Codes with the same first byte are of the same length, and the other bytes are in order. -/
theorem laterBytes_append_lt {v w : Nat} (h : v < w) (hw : w < 0x110000)
    (hfirst : firstByte v = firstByte w) (xs ys : List UInt8) :
    laterBytes v ++ xs < laterBytes w ++ ys := by
  have hcases := firstByte_cases v
  have hcases' := firstByte_cases w
  unfold laterBytes
  by_cases hv₁ : v ≤ 127
  · omega
  rw [if_neg hv₁, if_neg (by omega : ¬w ≤ 127)]
  by_cases hv₂ : v ≤ 2047
  · rw [if_pos hv₂, if_pos (by omega : w ≤ 2047)]
    exact lastByte_lt xs ys (by omega)
  rw [if_neg hv₂, if_neg (by omega : ¬w ≤ 2047)]
  by_cases hv₃ : v ≤ 65535
  · rw [if_pos hv₃, if_pos (by omega : w ≤ 65535)]
    exact lastTwoBytes_lt xs ys (by omega)
  · rw [if_neg hv₃, if_neg (by omega : ¬w ≤ 65535)]
    exact lastThreeBytes_lt xs ys (by omega)

/-- The bytes of a character come before those of a greater one, whatever follows them. -/
theorem utf8EncodeChar_append_lt {c d : Char} (h : c < d) (xs ys : List UInt8) :
    String.utf8EncodeChar c ++ xs < String.utf8EncodeChar d ++ ys := by
  have hlt : c.val.toNat < d.val.toNat := h
  have hbound : d.val.toNat < 0x110000 := by
    rcases d.valid with hd | hd <;> omega
  rw [utf8EncodeChar_eq, utf8EncodeChar_eq]
  refine cons_lt_cons (firstByte_lt hbound) ?_
  rcases Nat.lt_or_eq_of_le (firstByte_le hlt hbound) with hfirst | hfirst
  · exact .inl hfirst
  · exact .inr ⟨hfirst, laterBytes_append_lt hlt hbound hfirst xs ys⟩

/-- Texts are ordered by their bytes as they are by their characters: at the first character that
differs, or by length. -/
theorem flatMap_utf8EncodeChar_lt {cs ds : List Char} (h : cs < ds) :
    cs.flatMap String.utf8EncodeChar < ds.flatMap String.utf8EncodeChar := by
  induction cs generalizing ds with
  | nil =>
    cases ds with
    | nil => cases h
    | cons d ds =>
      rw [List.flatMap_nil, List.flatMap_cons]
      obtain ⟨b, bs, hb⟩ := List.exists_cons_of_ne_nil (String.utf8EncodeChar_ne_nil (c := d))
      rw [hb]
      exact List.nil_lt_cons b _
  | cons c cs ih =>
    cases ds with
    | nil => cases h
    | cons d ds =>
      rw [List.flatMap_cons, List.flatMap_cons]
      rcases List.cons_lt_cons_iff.mp h with hlt | ⟨rfl, htail⟩
      · exact utf8EncodeChar_append_lt hlt _ _
      · exact List.append_left_lt (ih htail)

/-- A text before another one has bytes before the bytes of the other one. -/
theorem bytes_lt {s t : String} (h : s < t) : bytes s < bytes t := by
  rw [bytes_eq_flatMap, bytes_eq_flatMap]
  exact flatMap_utf8EncodeChar_lt (String.lt_iff.mp h)

end VariableBridge.Text
