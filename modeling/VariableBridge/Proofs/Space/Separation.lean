import VariableBridge.Proofs.Space.Content

/-!
# Separate buffers

A space whose buffers were all made by the space has them in different blocks.
Main statements: in such a space a buffer that is put under one name, or changed in
place, leaves the content of all other variables as it was; a variable has the
content that was put there; and a buffer that is overwritten as a whole has the new
content at the old address.
-/

namespace VariableBridge.Space

open Number (Single Double)

/-- Do the addresses lie in different blocks, or is there nothing at one of them? -/
def Address.Apart (a a' : Address) : Prop :=
  ∀ block offset offset', a = .word block offset → a' ≠ .word block offset'

/-- Does the address lie in a block that there is, if it lies in a block? -/
def Memory.Knows (m : Memory) (a : Address) : Prop :=
  ∀ block offset, a = .word block offset → block < m.blocks.size

namespace Memory

variable {m : Memory} {a a' : Address}

/-- A new block is none of those that there are, so addresses that were known before lie apart from
it. -/
theorem Knows.apart (h : m.Knows a) (offset : Nat) : a.Apart (.word m.blocks.size offset) := by
  intro block offset₁ offset₂ ha hblock
  have hlt := h block offset₁ ha
  cases hblock
  omega

/-- A new block changes nothing at the addresses that were known before. -/
theorem wordsFrom_allocate (h : m.Knows a) (words : List UInt32) :
    (m.allocate words).1.wordsFrom a = m.wordsFrom a := by
  cases a with
  | null => rfl
  | vacant => rfl
  | word block offset =>
    have hlt := h block offset rfl
    have hne : block ≠ m.blocks.size := by omega
    simp only [wordsFrom, block_allocate, if_neg hne]

/-- Words that change in one block stay in all others, so a write is seen at its own address
only. -/
theorem wordsFrom_write_of_apart (h : a.Apart a') (skip : Nat) (words : List UInt32) :
    (m.write a skip words).wordsFrom a' = m.wordsFrom a' := by
  cases a with
  | null => rfl
  | vacant => rfl
  | word block offset =>
    cases a' with
    | null => rfl
    | vacant => rfl
    | word block' offset' =>
      have hne : block ≠ block' := by
        rintro rfl
        exact h block offset offset' rfl rfl
      simp only [wordsFrom, Memory.block, write, Array.getElem?_modify, if_neg hne]

/-- Where a list was spliced, the new words stand, if there was room for all of them. -/
theorem take_drop_splice {old new : List UInt32} {position : Nat}
    (h : position + new.length ≤ old.length) :
    ((splice old position new).drop position).take new.length = new := by
  have hfront : (old.take position).length = position := by
    rw [List.length_take]
    omega
  have hwhole : splice old position new =
      old.take position ++ (new ++ old.drop (position + new.length)) := by
    unfold splice
    rw [List.append_assoc, List.take_of_length_le]
    simp only [List.length_append, List.length_take, List.length_drop]
    omega
  rw [hwhole, List.drop_left' hfront, List.take_left' rfl]

/-- What is written at an address is read there, if there is room for it. -/
theorem read_write {words : List UInt32} (h : words.length ≤ (m.wordsFrom a).length) :
    (m.write a 0 words).read a words.length = words := by
  cases a with
  | null => simpa [wordsFrom] using h
  | vacant => simpa [wordsFrom] using h
  | word block offset =>
    cases words with
    | nil => simp [read]
    | cons w rest =>
      rw [wordsFrom, List.length_drop, List.length_cons] at h
      -- there is a block, since something can be read in it
      cases hb : m.blocks[block]? with
      | none =>
        unfold Memory.block at h
        rw [hb, Option.getD_none, List.length_nil] at h
        omega
      | some old =>
        have hold : m.block block = old := by
          unfold Memory.block
          rw [hb, Option.getD_some]
        have hblock : (m.write (.word block offset) 0 (w :: rest)).block block =
            splice old offset (w :: rest) := by
          unfold Memory.block
          simp only [write, Array.getElem?_modify, if_true, Nat.add_zero, hb, Option.map_some,
            Option.getD_some]
        rw [hold] at h
        rw [read, wordsFrom, hblock]
        exact take_drop_splice (by rw [List.length_cons]; omega)

end Memory

/-- A buffer that is no text is made of the words that its elements take. -/
theorem Buffer.ofWords_take {kind : BufferKind} (hk : kind ≠ .text) (n : Nat)
    (words : List UInt32) :
    ofWords kind n (words.take (kind.wordsFor n)) = ofWords kind n words := by
  cases kind with
  | text => exact absurd rfl hk
  | _ => simp only [ofWords, BufferKind.wordsFor, List.take_take, Nat.min_self]

/-- A buffer that is no text is made of its own words, so memory holds all that there is to know of
it. -/
theorem Buffer.ofWords_words {b : Buffer} (hk : b.kind ≠ .text) :
    ofWords b.kind b.length b.words = b := by
  have hall : b.words.take (b.kind.wordsFor b.length) = b.words := by
    rw [← length_words hk, List.take_length]
  cases b with
  | text content => exact absurd rfl hk
  | int32 elements =>
    have hall : (elements.map Int32.toUInt32).take elements.length = _ := hall
    simp only [ofWords, kind, length, words, hall, List.map_map]
    congr 1
    exact List.map_id elements
  | float32 elements =>
    have hall : (elements.map Single.bits).take elements.length = _ := hall
    simp only [ofWords, kind, length, words, hall, List.map_map]
    congr 1
    exact List.map_id elements
  | float64 elements =>
    have hall : (elements.flatMap wordsOfDouble).take (2 * elements.length) = _ := hall
    simp only [ofWords, kind, length, words, hall, doublesOfWords_flatMap]
  | real elements =>
    have hall : (elements.map Single.bits).take elements.length = _ := hall
    simp only [ofWords, kind, length, words, hall, List.map_map]
    congr 1
    exact List.map_id elements
  | complex elements =>
    have hall : (elements.flatMap fun z => [z.re.bits, z.im.bits]).take (2 * elements.length) =
      _ := hall
    simp only [ofWords, kind, length, words, hall, complexesOfWords_flatMap]

namespace OwnedBuffer

variable {m m' : Memory} {b : OwnedBuffer}

/-- The content is what lies at the address, so memories that agree there give the same content. -/
theorem content_congr (h : m'.wordsFrom b.address = m.wordsFrom b.address) :
    b.content m' = b.content m := by
  unfold content
  rw [h]

/-- A buffer that is overwritten as a whole has the new content. -/
theorem content_write (hb : b.IsHoused m) {new : Buffer} (hkind : new.kind = b.kind)
    (hlength : new.length = b.length) (hk : b.kind ≠ .text) :
    b.content (m.write b.address 0 new.words) = new := by
  rw [← hkind] at hk
  have hwords := Buffer.length_words hk
  have hroom : new.words.length ≤ (m.wordsFrom b.address).length := by
    rw [hwords, hkind, hlength]
    exact hb.roomy
  unfold content
  rw [← hkind, ← hlength, ← Buffer.ofWords_take hk, ← hwords]
  have hread : ((m.write b.address 0 new.words).wordsFrom b.address).take new.words.length =
      new.words := Memory.read_write hroom
  rw [hread, Buffer.ofWords_words hk]

end OwnedBuffer

variable (m : Memory) {b : Buffer}

/-- A buffer keeps its content where it is stored, unless it is a text. -/
theorem content_store (hk : b.kind ≠ .text) : (store m b).2.content (store m b).1 = b := by
  unfold store
  by_cases he : b.isEmpty
  · have hlength : b.length = 0 := by simpa [Buffer.isEmpty] using he
    have hwords : b.words = [] := by
      have hnone := Buffer.length_words hk
      rw [hlength, BufferKind.wordsFor_zero] at hnone
      exact List.eq_nil_of_length_eq_zero hnone
    have hwhole := Buffer.ofWords_words hk
    rw [hlength, hwords] at hwhole
    rw [if_pos he]
    exact hwhole
  · rw [if_neg he]
    change Buffer.ofWords b.kind b.length
      ((m.allocate b.words).1.wordsFrom (m.allocate b.words).2) = b
    rw [m.wordsFrom_new]
    exact Buffer.ofWords_words hk

/-- A buffer is stored with its kind, whether it needs memory or not. -/
theorem kind_store (b : Buffer) : (store m b).2.kind = b.kind := by
  unfold store
  split <;> rfl

/-- A buffer is stored with its length, also the empty one, which gets no memory. -/
theorem length_store (b : Buffer) : (store m b).2.length = b.length := by
  unfold store Buffer.isEmpty
  split
  next he => exact (beq_iff_eq.mp he).symm
  next => rfl

/-- A buffer is stored in a new block, or nowhere if it is empty. -/
theorem address_store (b : Buffer) :
    (store m b).2.address = if b.length = 0 then .vacant else .word m.blocks.size 0 := by
  unfold store Buffer.isEmpty
  simp only [beq_iff_eq]
  split <;> rfl

/-- To store a buffer adds a block or none, so that the addresses from before still lie in blocks
that there are. -/
theorem size_store_le (b : Buffer) : m.blocks.size ≤ (store m b).1.blocks.size := by
  unfold store
  split
  · exact Nat.le_refl _
  · simp [Memory.allocate]

/-- What is stored lies in a block that there is, or at no place if it is empty. -/
theorem knows_store (b : Buffer) : (store m b).1.Knows (store m b).2.address := by
  intro block offset ha
  unfold store at ha ⊢
  by_cases he : b.isEmpty
  · rw [if_pos he] at ha
    cases ha
  · rw [if_neg he] at ha ⊢
    cases ha
    simp [Memory.allocate]

/-- What is stored lies apart from all that was known before. -/
theorem apart_store {m : Memory} {a : Address} (ha : m.Knows a) (b : Buffer) :
    a.Apart (store m b).2.address := by
  rw [address_store]
  split
  · intro block offset offset' _ hvacant
    cases hvacant
  · exact ha.apart 0

/-- Storing changes nothing at the addresses that were known before. -/
theorem wordsFrom_store {m : Memory} {a : Address} (ha : m.Knows a) (b : Buffer) :
    (store m b).1.wordsFrom a = m.wordsFrom a := by
  unfold store
  split
  · rfl
  · exact Memory.wordsFrom_allocate ha b.words

end VariableBridge.Space

namespace VariableBridge

open Space

/-- All buffers of the space lie in blocks that there are, each in one of its own. -/
structure Space.IsSeparate (s : Space) : Prop where
  /-- There are the blocks. -/
  known : ∀ {name : String} {b : OwnedBuffer}, s.entries[name]? = some (.owned b) →
    s.memory.Knows b.address
  /-- No two variables share one. -/
  apart : ∀ {x y : String} {b c : OwnedBuffer}, x ≠ y → s.entries[x]? = some (.owned b) →
    s.entries[y]? = some (.owned c) → b.address.Apart c.address

namespace Space

/-- If one address lies apart from another, the other lies apart from it, so that pairs need be
compared once only. -/
theorem Address.Apart.symm {a a' : Address} (h : a.Apart a') : a'.Apart a := by
  intro block offset offset' ha ha'
  exact h block offset' offset ha' ha

/-- A space without variables has no two of them that could share a block. -/
theorem isSeparate_empty : empty.IsSeparate := by
  constructor <;> intros <;> simp_all [empty]

/-- What is found after one variable was put into a space: that one under its name, and the others
as before. -/
theorem getElem?_insert_entry (entries : Std.TreeMap String Entry) (name x : String)
    (entry : Entry) :
    (entries.insert name entry)[x]? = if name = x then some entry else entries[x]? := by
  rw [Std.TreeMap.getElem?_insert]
  by_cases hx : name = x
  · rw [if_pos hx, if_pos (Std.compare_eq_iff_eq.mpr hx)]
  · rw [if_neg hx, if_neg]
    intro he
    exact hx (Std.LawfulEqOrd.eq_of_compare he)

/-- After a buffer was put under a name, the name has the stored buffer and all other names have
what they had. -/
theorem entry_insert (s : Space) (name x : String) (b : Buffer) :
    (s.insert name b).entries[x]? =
      if name = x then some (.owned (store s.memory b).2) else s.entries[x]? :=
  getElem?_insert_entry s.entries name x (.owned (store s.memory b).2)

namespace IsSeparate

variable {s : Space} {name x : String}

/-- One variable is put apart from all the others, and the space stays separate. -/
theorem put (h : s.IsSeparate) {m : Memory} (hm : s.memory.blocks.size ≤ m.blocks.size)
    {b : OwnedBuffer} (hb : m.Knows b.address)
    (hothers : ∀ (y : String) (c : OwnedBuffer), name ≠ y → s.entries[y]? = some (.owned c) →
      c.address.Apart b.address) (retired : List OwnedBuffer) :
    IsSeparate ⟨m, s.entries.insert name (.owned b), retired, s.valid⟩ where
  known := by
    intro x c hc
    rw [getElem?_insert_entry] at hc
    split at hc
    · cases hc
      exact hb
    · intro block offset ha
      exact Nat.lt_of_lt_of_le (h.known hc block offset ha) hm
  apart := by
    intro x y c d hne hc hd
    rw [getElem?_insert_entry] at hc hd
    split at hc <;> split at hd
    next hx hy => exact absurd (hx.symm.trans hy) hne
    next hx hy =>
      cases hc
      exact (hothers y d hy hd).symm
    next hx hy =>
      cases hd
      exact hothers x c hx hc
    next hx hy => exact h.apart hne hc hd

/-- A buffer that is inserted gets a block of its own, so that no two variables come to share
one. -/
theorem insert (h : s.IsSeparate) (name : String) (b : Buffer) : (s.insert name b).IsSeparate :=
  h.put (size_store_le s.memory b) (knows_store s.memory b)
    (fun _ _ _ hc => apart_store (h.known hc) b) (s.retiredWith name)

/-- Freeing the retired buffers takes no variable away and brings none together with another. -/
theorem collectRetired (h : s.IsSeparate) : s.collectRetired.2.IsSeparate := ⟨h.known, h.apart⟩

/-- The other variables keep their content when a buffer is put under a name. -/
theorem get?_insert_of_ne (h : s.IsSeparate) (hx : name ≠ x) (b : Buffer) :
    (s.insert name b).get? x = s.get? x := by
  unfold get?
  rw [entry_insert, if_neg hx]
  cases he : s.entries[x]? with
  | none => rfl
  | some entry =>
    cases entry with
    | foreign d => rfl
    | owned c => exact congrArg some (OwnedBuffer.content_congr (wordsFrom_store (h.known he) b))

end IsSeparate

/-- The variable has the content that was put there, whatever was under its name before. -/
theorem get?_insert_self (s : Space) (name : String) {b : Buffer} (hk : b.kind ≠ .text) :
    (s.insert name b).get? name = some b := by
  unfold get?
  rw [entry_insert, if_pos rfl]
  exact congrArg some (content_store s.memory hk)

/-- Does the change put new content into all the memory of the buffer? -/
structure Change.Overwrites (change : Change) (b : OwnedBuffer) (new : Buffer) : Prop where
  /-- The types agree. -/
  kind : new.kind = b.kind
  /-- There is as much memory as content. -/
  length : new.length = b.length
  /-- The words of the new content are written. -/
  written : ∀ m, applyChange m b change = (m.write b.address 0 new.words, b)

/-- To copy as many fitting elements as the buffer has overwrites all of its memory with their
words. -/
theorem overwrites_copy {b : OwnedBuffer} {elements : List Element} {new : Buffer}
    (hkind : new.kind = b.kind) (hlength : new.length = b.length)
    (hfits : ∀ element ∈ elements, element.fits b.kind = true)
    (hn : elements.length = b.length) (hwords : elements.flatMap Element.words = new.words) :
    (Change.copy elements).Overwrites b new where
  kind := hkind
  length := hlength
  written := by
    intro m
    have hall : elements.all (·.fits b.kind) = true := List.all_eq_true.mpr hfits
    simp only [applyChange, hall, hn, and_self, if_true, hwords]

/-- A list of 32-bit floats is overwritten by another one of its length. -/
theorem overwrites_singles {b : OwnedBuffer} (hk : b.kind = .float32)
    {values : List Number.Single} (hn : values.length = b.length) :
    (Change.copy (values.map Element.single)).Overwrites b (.float32 values) := by
  refine overwrites_copy hk.symm hn ?_ (by rw [List.length_map]; exact hn) ?_
  · intro element he
    obtain ⟨x, _, rfl⟩ := List.mem_map.mp he
    rw [hk]
    rfl
  · rw [List.flatMap_map]
    exact List.map_eq_flatMap.symm

/-- A list of complex numbers is overwritten by another one of its length. -/
theorem overwrites_complexes {b : OwnedBuffer} (hk : b.kind = .complex)
    {values : List Complex} (hn : values.length = b.length) :
    (Change.copy (values.map Element.complex)).Overwrites b (.complex values) := by
  refine overwrites_copy hk.symm hn ?_ (by rw [List.length_map]; exact hn) ?_
  · intro element he
    obtain ⟨x, _, rfl⟩ := List.mem_map.mp he
    rw [hk]
    rfl
  · rw [List.flatMap_map]
    rfl

/-- A single integer is overwritten when it is set: the new content is that integer. -/
theorem overwrites_integer {b : OwnedBuffer} (hk : b.kind = .int32) (hn : b.length = 1)
    (value : Int32) : (Change.set 0 (.int32 value)).Overwrites b (.int32 [value]) where
  kind := hk.symm
  length := hn.symm
  written := by
    intro m
    have hfits : (Element.int32 value).fits b.kind = true := by
      rw [hk]
      rfl
    have hin : 0 < b.length := by omega
    simp only [applyChange, hfits, hin, and_self, if_true, Nat.zero_mul]
    rfl

variable {s : Space} {name : String} {b : OwnedBuffer} {change : Change} {new : Buffer}

/-- A change that overwrites a buffer leaves it where it is and writes the new words there. -/
theorem write_of_overwrites (he : s.entries[name]? = some (.owned b))
    (ho : change.Overwrites b new) :
    (s.write name change).2 = { s with
      memory := s.memory.write b.address 0 new.words
      entries := s.entries.insert name (.owned b) } := by
  unfold write
  simp only [he, ho.written]

/-- No variable moves or changes its type or its size when a buffer is overwritten. -/
theorem entry_write (he : s.entries[name]? = some (.owned b)) (ho : change.Overwrites b new)
    (x : String) : (s.write name change).2.entries[x]? = s.entries[x]? := by
  rw [write_of_overwrites he ho]
  change (s.entries.insert name (.owned b))[x]? = _
  rw [getElem?_insert_entry]
  split
  next hx => rw [← hx, he]
  next => rfl

/-- An overwritten buffer has the new content, and it still lies where it was. -/
theorem get?_write_self (hs : s.IsHoused) (he : s.entries[name]? = some (.owned b))
    (ho : change.Overwrites b new) (hk : b.kind ≠ .text) :
    (s.write name change).2.get? name = some new := by
  obtain ⟨c, hc, hhoused⟩ := hs.housed name _ he
  obtain rfl : b = c := Entry.owned.inj hc
  unfold get?
  rw [entry_write he ho, he, write_of_overwrites he ho]
  exact congrArg some (OwnedBuffer.content_write hhoused ho.kind ho.length hk)

namespace IsSeparate

/-- The other variables keep their content when a buffer is overwritten. -/
theorem get?_write_of_ne (h : s.IsSeparate) (he : s.entries[name]? = some (.owned b))
    (ho : change.Overwrites b new) {x : String} (hx : name ≠ x) :
    (s.write name change).2.get? x = s.get? x := by
  unfold get?
  rw [entry_write he ho, write_of_overwrites he ho]
  cases hc : s.entries[x]? with
  | none => rfl
  | some entry =>
    cases entry with
    | foreign d => rfl
    | owned c =>
      have happart := h.apart hx he hc
      exact congrArg some
        (OwnedBuffer.content_congr (Memory.wordsFrom_write_of_apart happart 0 new.words))

/-- A buffer that is overwritten stays in its block, and so all variables stay separate. -/
theorem overwritten (h : s.IsSeparate) (he : s.entries[name]? = some (.owned b))
    (ho : change.Overwrites b new) : (s.write name change).2.IsSeparate := by
  have hsize : (s.memory.write b.address 0 new.words).blocks.size = s.memory.blocks.size := by
    cases b.address with
    | null => rfl
    | vacant => rfl
    | word block offset => simp [Memory.write]
  rw [write_of_overwrites he ho]
  refine h.put (Nat.le_of_eq hsize.symm) ?_ (fun y c hy hc => h.apart hy.symm hc he) s.retired
  intro block offset ha
  rw [hsize]
  exact h.known he block offset ha

end IsSeparate

end Space

end VariableBridge
