import Mathlib.Algebra.BigOperators.Group.List.Basic
import Mathlib.Logic.Relation
import VariableBridge.Space.Basic
import VariableBridge.Stream.Message

/-!
# The content of a space

A space is housed if each of its variables is a buffer whose elements all lie in
memory. Main statements: every space that was made by inserting, removing,
writing and collecting is housed, wherever its buffers have been moved; and a
sendable buffer has the number and the format of values that its kind tells.
-/

namespace VariableBridge.Space

open Number (Single Double)

/-- A variable has fewer elements than this, so that two channels for each of them can
still be counted in 32 bits. -/
def sizeLimit : Nat := 2147483648

/-- The words that so many elements take. A text counts bytes, not words, and its memory
is not read as elements. -/
def BufferKind.wordsFor : BufferKind → Nat → Nat
  | .float64, n => 2 * n
  | .complex, n => 2 * n
  | .text, _ => 0
  | _, n => n

/-- More elements take no fewer words, so that a buffer that is cut short still fits into its
memory. -/
theorem BufferKind.wordsFor_mono (kind : BufferKind) {n n' : Nat} (h : n ≤ n') :
    kind.wordsFor n ≤ kind.wordsFor n' := by
  cases kind <;> simp only [wordsFor] <;> omega

/-- No elements take no words, of whatever kind, so that the place of the empty buffers is good for
all of them. -/
@[simp] theorem BufferKind.wordsFor_zero (kind : BufferKind) : kind.wordsFor 0 = 0 := by
  cases kind <;> rfl

/-- A buffer that is no text has exactly the words that its elements take. -/
theorem Buffer.length_words {b : Buffer} (hk : b.kind ≠ .text) :
    b.words.length = b.kind.wordsFor b.length := by
  cases b with
  | text content => exact absurd rfl hk
  | float64 elements =>
    simp [words, kind, length, BufferKind.wordsFor, wordsOfDouble, List.map_const', Nat.mul_comm]
  | complex elements =>
    simp [words, kind, length, BufferKind.wordsFor, List.map_const', Nat.mul_comm]
  | _ elements => simp [words, kind, length, BufferKind.wordsFor]

/-- A descriptor asks for the words that the elements of a buffer of its type take; the number
of its elements is the reported one, which is never too large. -/
theorem BufferKind.mul_wordsPerElement_le (kind : BufferKind) (n : Nat) :
    (reportedCount n).toNat * kind.tag.wordsPerElement ≤ kind.wordsFor n := by
  have hle : (reportedCount n).toNat ≤ n := by
    rw [toNat_reportedCount]
    exact Nat.min_le_left _ _
  cases kind <;> simp only [BufferKind.tag, TypeTag.wordsPerElement, wordsFor] <;> omega

/-- A buffer has all the words that its elements take, so that a copy of them can be read as a
whole. -/
theorem Buffer.wordsFor_le_length_words (b : Buffer) :
    b.kind.wordsFor b.length ≤ b.words.length := by
  by_cases hk : b.kind = .text
  · rw [hk]
    exact Nat.zero_le _
  · exact Nat.le_of_eq (length_words hk).symm

/-- The content of a buffer as the values of a sample; a text has no values. -/
def Buffer.sampleValues : Buffer → Option SampleValues
  | .int32 elements => some (.int32 elements)
  | .float32 elements => some (.float32 elements)
  | .float64 elements => some (.float64 elements)
  | .real elements => some (.float32 elements)
  | .complex elements => some (.float32 (elements.flatMap fun z => [z.re, z.im]))
  | .text _ => none

/-- Two words make one number of 64 bits, and a word that is left over makes none. -/
theorem length_doublesOfWords (words : List UInt32) :
    (doublesOfWords words).length = words.length / 2 := by
  induction words using doublesOfWords.induct with
  | case1 low high rest ih =>
    rw [doublesOfWords, List.length_cons, ih, List.length_cons, List.length_cons]
    omega
  | case2 words h =>
    rcases words with _ | ⟨low, _ | ⟨high, rest⟩⟩
    · rfl
    · simp [doublesOfWords]
    · exact (h low high rest rfl).elim

/-- Two words make one complex number, and a word that is left over makes none. -/
theorem length_complexesOfWords (words : List UInt32) :
    (complexesOfWords words).length = words.length / 2 := by
  induction words using complexesOfWords.induct with
  | case1 re im rest ih =>
    rw [complexesOfWords, List.length_cons, ih, List.length_cons, List.length_cons]
    omega
  | case2 words h =>
    rcases words with _ | ⟨re, _ | ⟨im, rest⟩⟩
    · rfl
    · simp [complexesOfWords]
    · exact (h re im rest rfl).elim

/-- The parts of complex numbers are their words in order, so an interleaved sample shows the words
as they are. -/
theorem flatMap_complexesOfWords {words : List UInt32} (h : words.length % 2 = 0) :
    (complexesOfWords words).flatMap (fun z => [z.re, z.im]) = words.map Single.mk := by
  induction words using complexesOfWords.induct with
  | case1 re im rest ih =>
    rw [List.length_cons, List.length_cons] at h
    rw [complexesOfWords, List.flatMap_cons, ih (by omega)]
    rfl
  | case2 words hshort =>
    rcases words with _ | ⟨re, _ | ⟨im, rest⟩⟩
    · rfl
    · cases h
    · exact (hshort re im rest rfl).elim

namespace Memory

/-- Is there as much to read at every address as in another memory? -/
def Covers (m' m : Memory) : Prop :=
  ∀ address, (m.wordsFrom address).length ≤ (m'.wordsFrom address).length

/-- Memory covers itself, which is what a change leaves that writes nothing. -/
theorem Covers.refl (m : Memory) : m.Covers m := fun _ => Nat.le_refl _

/-- A new block takes no words away from any address that there was before. -/
theorem covers_allocate (m : Memory) (words : List UInt32) : (m.allocate words).1.Covers m := by
  intro address
  cases address with
  | null => exact Nat.le_refl _
  | vacant => exact Nat.le_refl _
  | word number offset =>
    simp only [wordsFrom, block_allocate]
    by_cases hn : number = m.blocks.size
    · have hb : m.block number = [] := by
        rw [hn, block, Array.getElem?_size]
        rfl
      rw [hb, List.drop_nil]
      exact Nat.zero_le _
    · simp only [hn, if_false, Nat.le_refl]

/-- Words that change in place keep their number, so what covered a buffer covers it still. -/
theorem covers_write (m : Memory) (address : Address) (skip : Nat) (words : List UInt32) :
    (m.write address skip words).Covers m := by
  intro other
  cases address with
  | null => exact Nat.le_refl _
  | vacant => exact Nat.le_refl _
  | word number offset =>
    cases other with
    | null => exact Nat.le_refl _
    | vacant => exact Nat.le_refl _
    | word number' offset' =>
      simp only [write, wordsFrom, block, List.length_drop, Array.getElem?_modify]
      split
      · cases m.blocks[number']? with
        | none => exact Nat.le_refl _
        | some old =>
          simp only [Option.map_some, Option.getD_some, length_splice, Nat.le_refl]
      · exact Nat.le_refl _

end Memory

/-- All elements of the buffer lie in memory, and there are not too many of them. -/
structure OwnedBuffer.IsHoused (m : Memory) (b : OwnedBuffer) : Prop where
  /-- The memory at the address is as long as the elements are. -/
  roomy : b.kind.wordsFor b.length ≤ (m.wordsFrom b.address).length
  /-- The number of channels fits into 32 bits. -/
  small : b.length < sizeLimit

/-- The kind of the content is that of the buffer, whatever lies in memory. -/
theorem OwnedBuffer.kind_content (m : Memory) (b : OwnedBuffer) : (b.content m).kind = b.kind := by
  obtain ⟨kind, n, address⟩ := b
  cases kind <;> rfl

/-- A buffer in memory that is no text has as many elements as it says. -/
theorem OwnedBuffer.IsHoused.length_content {m : Memory} {b : OwnedBuffer} (h : b.IsHoused m)
    (hk : b.kind ≠ .text) : (b.content m).length = b.length := by
  obtain ⟨kind, n, address⟩ := b
  have hroomy := h.roomy
  cases kind <;> simp only [BufferKind.wordsFor] at hroomy
  case text => exact absurd rfl hk
  case float64 =>
    change (doublesOfWords ((m.wordsFrom address).take (2 * n))).length = n
    rw [length_doublesOfWords, List.length_take]
    omega
  case complex =>
    change (complexesOfWords ((m.wordsFrom address).take (2 * n))).length = n
    rw [length_complexesOfWords, List.length_take]
    omega
  all_goals
    change (((m.wordsFrom address).take n).map _).length = n
    rw [List.length_map, List.length_take]
    omega

/-- A buffer stays housed in memory that has as much to read at every address as before. -/
theorem OwnedBuffer.IsHoused.covered {m m' : Memory} {b : OwnedBuffer} (h : b.IsHoused m)
    (hm : m'.Covers m) : b.IsHoused m' :=
  ⟨Nat.le_trans h.roomy (hm b.address), h.small⟩

/-- A stored buffer has memory of its own for all its elements, and takes none from the others. -/
theorem isHoused_store (m : Memory) {b : Buffer} (h : b.length < sizeLimit) :
    (store m b).2.IsHoused (store m b).1 ∧ (store m b).1.Covers m := by
  unfold store
  by_cases he : b.isEmpty
  · rw [if_pos he]
    refine ⟨⟨?_, ?_⟩, .refl m⟩
    · simp
    · exact Nat.zero_lt_of_lt h
  · rw [if_neg he]
    refine ⟨⟨?_, h⟩, m.covers_allocate b.words⟩
    change _ ≤ ((m.allocate b.words).1.wordsFrom (m.allocate b.words).2).length
    rw [m.wordsFrom_new]
    exact b.wordsFor_le_length_words

/-- A stored buffer keeps the contract of its descriptor, however many elements it has, and no
other variable loses memory by it. -/
theorem isHeldBy_store (m : Memory) (b : Buffer) :
    (store m b).2.descriptor.IsHeldBy (store m b).1 ∧ (store m b).1.Covers m := by
  unfold store
  by_cases he : b.isEmpty
  · rw [if_pos he]
    refine ⟨?_, .refl m⟩
    have hnone := b.kind.mul_wordsPerElement_le 0
    rwa [BufferKind.wordsFor_zero] at hnone
  · rw [if_neg he]
    refine ⟨?_, m.covers_allocate b.words⟩
    change _ ≤ ((m.allocate b.words).1.wordsFrom (m.allocate b.words).2).length
    rw [m.wordsFrom_new]
    exact Nat.le_trans (b.kind.mul_wordsPerElement_le b.length) b.wordsFor_le_length_words

/-- Does a change leave fewer elements than the limit? -/
def Change.IsSmall : Change → Prop
  | .assign buffer => buffer.length < sizeLimit
  | _ => True

/-- A change in place keeps the buffer in memory and takes no words away. -/
theorem isHoused_applyChange {m : Memory} {b : OwnedBuffer} (hb : b.IsHoused m) {change : Change}
    (hc : change.IsSmall) :
    (applyChange m b change).2.IsHoused (applyChange m b change).1 ∧
      (applyChange m b change).1.Covers m := by
  have hwrite (skip : Nat) (words : List UInt32) :
      b.IsHoused (m.write b.address skip words) ∧ (m.write b.address skip words).Covers m :=
    ⟨hb.covered (m.covers_write b.address skip words), m.covers_write b.address skip words⟩
  have hkeep : b.IsHoused m ∧ m.Covers m := ⟨hb, .refl m⟩
  cases change with
  | fill element =>
    simp only [applyChange]
    split
    · exact hwrite _ _
    · exact hkeep
  | set index element =>
    simp only [applyChange]
    split
    · exact hwrite _ _
    · exact hkeep
  | copy elements =>
    simp only [applyChange]
    split
    · exact hwrite _ _
    · exact hkeep
  | truncate length =>
    have hle : min b.length length ≤ b.length := Nat.min_le_left _ _
    refine ⟨⟨?_, Nat.lt_of_le_of_lt hle hb.small⟩, .refl m⟩
    exact Nat.le_trans (b.kind.wordsFor_mono hle) hb.roomy
  | retag =>
    have hroomy := hb.roomy
    simp only [applyChange]
    cases hk : b.kind <;> rw [hk] at hroomy
    case float32 => exact ⟨⟨hroomy, hb.small⟩, .refl m⟩
    case real => exact ⟨⟨hroomy, hb.small⟩, .refl m⟩
    all_goals exact hkeep
  | assign buffer => exact isHoused_store m hc

end Space

open Space

/-- Every variable of the space is a buffer whose elements all lie in memory. -/
structure Space.IsHoused (s : Space) : Prop where
  /-- The space can be used. -/
  valid : s.valid = true
  /-- The variables are buffers in memory. -/
  housed : ∀ (name : String) (entry : Entry), s.entries[name]? = some entry →
    ∃ b, entry = Entry.owned b ∧ b.IsHoused s.memory

namespace Space

/-- What may happen to a space between two cycles of a bridge. -/
inductive Step (s : Space) : Space → Prop where
  /-- A buffer is put under a name. -/
  | inserted (name : String) (b : Buffer) (h : b.length < sizeLimit) : Step s (s.insert name b)
  /-- A name is taken away. -/
  | removed (name : String) : Step s (s.remove name).2
  /-- A buffer is changed in place or replaced by one of any type and length. -/
  | written (name : String) (change : Change) (h : change.IsSmall) : Step s (s.write name change).2
  /-- The retired buffers are freed. -/
  | collected : Step s s.collectRetired.2
  /-- The buffers are moved: they keep their content, but each of them may lie where it did
  not lie before, also where another one did. -/
  | moved (s' : Space) (hs : s'.IsHoused) (hget : ∀ name, s'.get? name = s.get? name) : Step s s'

/-- A space that was made from one without variables. -/
def Reachable (s : Space) : Prop := Relation.ReflTransGen Step empty s

/-- A space without variables is housed, which is where every history of a space begins. -/
theorem isHoused_empty : empty.IsHoused := by
  refine ⟨rfl, ?_⟩
  intro name entry h
  simp [empty] at h

namespace IsHoused

variable {s : Space}

/-- One variable is put into memory that still covers all the others. -/
theorem put (h : s.IsHoused) {m : Memory} (hm : m.Covers s.memory) {b : OwnedBuffer}
    (hb : b.IsHoused m) (name : String) (retired : List OwnedBuffer) :
    IsHoused ⟨m, s.entries.insert name (.owned b), retired, s.valid⟩ := by
  refine ⟨h.valid, ?_⟩
  intro other entry he
  rw [Std.TreeMap.getElem?_insert] at he
  split at he
  · cases he
    exact ⟨b, rfl, hb⟩
  · obtain ⟨b', rfl, hb'⟩ := h.housed other entry he
    exact ⟨b', rfl, hb'.covered hm⟩

/-- A change of a buffer takes no element out of memory, neither its own nor those of the other
variables. -/
theorem write (h : s.IsHoused) (name : String) {change : Change} (hc : change.IsSmall) :
    (s.write name change).2.IsHoused := by
  unfold Space.write
  cases he : s.entries[name]? with
  | none => exact h
  | some entry =>
    obtain ⟨b, rfl, hb⟩ := h.housed name entry he
    obtain ⟨hchanged, hcovers⟩ := isHoused_applyChange hb hc
    exact h.put hcovers hchanged name s.retired

/-- To take a name away leaves the other variables where they are, with all their elements in
memory. -/
theorem remove (h : s.IsHoused) (name : String) : (s.remove name).2.IsHoused := by
  refine ⟨h.valid, ?_⟩
  intro other entry he
  simp only [Space.remove, Std.TreeMap.getElem?_erase] at he
  split at he
  · cases he
  · exact h.housed other entry he

/-- No step takes an element of a variable out of memory, wherever it lets buffers be moved. -/
theorem step (h : s.IsHoused) {s' : Space} (hs : Step s s') : s'.IsHoused := by
  cases hs with
  | inserted name b hb =>
    obtain ⟨hstored, hcovers⟩ := isHoused_store s.memory hb
    exact h.put hcovers hstored name (s.retiredWith name)
  | removed name => exact h.remove name
  | written name change hc => exact h.write name hc
  | collected => exact ⟨h.valid, h.housed⟩
  | moved s' hs _ => exact hs

end IsHoused

/-- Every space that was made step by step is housed, by induction on the steps. -/
theorem Reachable.isHoused {s : Space} (h : s.Reachable) : s.IsHoused := by
  induction h with
  | refl => exact isHoused_empty
  | tail _ hs ih => exact ih.step hs

/-- A look-up succeeds in a space that can be used, for the names that it has. -/
theorem lookup_eq_ok_iff {s : Space} {name : String} {d : Descriptor} :
    s.lookup name = .ok d ↔
      s.valid = true ∧ ∃ entry, s.entries[name]? = some entry ∧ entry.descriptor = d := by
  unfold lookup
  by_cases hvalid : s.valid = true
  · cases hentry : s.entries[name]? <;> simp [hvalid]
  · simp [hvalid]

/-- Every sendable variable that the space describes lies in memory with all its elements. This
is what a bridge has to rely on before it reads. -/
def HoldsVariables (s : Space) : Prop :=
  ∀ (name : String) (d : Descriptor), s.lookup name = .ok d → d.IsHeldBy s.memory

/-- A space without variables describes none that is not in memory. -/
theorem holdsVariables_empty : empty.HoldsVariables := by
  intro name d h
  simp [lookup, empty] at h

/-- A space goes on to hold its variables when a buffer is inserted: the new one gets memory for
all its elements, and the memory of the others stays. -/
theorem HoldsVariables.insert {s : Space} (h : s.HoldsVariables) (name : String) (b : Buffer) :
    (s.insert name b).HoldsVariables := by
  obtain ⟨hstored, hcovers⟩ := isHeldBy_store s.memory b
  intro other d hd
  obtain ⟨hvalid, entry, hentry, rfl⟩ := lookup_eq_ok_iff.mp hd
  change (s.entries.insert name (.owned (store s.memory b).2))[other]? = some entry at hentry
  rw [Std.TreeMap.getElem?_insert] at hentry
  split at hentry
  · cases hentry
    exact hstored
  · have hd' : s.lookup other = .ok entry.descriptor :=
      lookup_eq_ok_iff.mpr ⟨hvalid, entry, hentry, rfl⟩
    exact Nat.le_trans (h other entry.descriptor hd') (hcovers entry.descriptor.address)

end Space

end VariableBridge
