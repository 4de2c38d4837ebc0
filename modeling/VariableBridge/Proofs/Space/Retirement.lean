import Mathlib.Data.List.Induction
import VariableBridge.Proofs.Space.Separation

/-!
# Retired buffers

Whatever calls are made on a space, memory that it has handed out stays with it. Main
statements: a buffer stays under its name, at its address and with its length, until it
is displaced, and is retired from then on, with the content that it had, until the
retired buffers are collected; no two buffers share memory; and the retired buffers are
exactly those that were displaced since they were collected last.
-/

namespace VariableBridge

open Space

namespace Space

/-- A call on a space. -/
inductive Operation where
  /-- Put a buffer under a name. -/
  | insert (name : String) (buffer : Buffer)
  /-- Put a foreign variable under a name. -/
  | insertDescriptor (name : String) (descriptor : Descriptor)
  /-- Take a name away. -/
  | remove (name : String)
  /-- Change a buffer. -/
  | write (name : String) (change : Change)
  /-- Change one word of a buffer in its place, of whatever type the buffer is. -/
  | edit (name : String) (index : Nat) (word : UInt32)
  /-- Ask what a variable looks like. -/
  | lookup (name : String)
  /-- Ask for the content of a variable. -/
  | get (name : String)
  /-- Free the retired buffers. -/
  | collectRetired
  deriving DecidableEq, Repr

namespace Operation

/-- The name that a call is about, if it is about one. -/
def name? : Operation → Option String
  | .insert name _ => some name
  | .insertDescriptor name _ => some name
  | .remove name => some name
  | .write name _ => some name
  | .edit name _ _ => some name
  | .lookup name => some name
  | .get name => some name
  | .collectRetired => none

/-- The buffer that a call displaces, if it does. -/
def displaced? (s : Space) : Operation → Option OwnedBuffer
  | .insert name _ => s.entries[name]?.bind Entry.buffer?
  | .insertDescriptor name _ => s.entries[name]?.bind Entry.buffer?
  | .remove name => s.entries[name]?.bind Entry.buffer?
  | _ => none

/-- Does a call leave the buffer that it changes where it is, and as long as it is? -/
def KeepsBuffer (s : Space) : Operation → Prop
  | .write name change => ∀ b, s.entries[name]? = some (.owned b) →
    (applyChange s.memory b change).2.address = b.address ∧
      (applyChange s.memory b change).2.length = b.length
  | _ => True

end Operation

/-- Change one word of a buffer of the space in its place. -/
def edit (s : Space) (name : String) (index : Nat) (word : UInt32) : Space :=
  match s.entries[name]? with
  | some (.owned b) => s.poke b.address index word
  | _ => s

/-- The space after a call. -/
def perform (s : Space) : Operation → Space
  | .insert name buffer => s.insert name buffer
  | .insertDescriptor name descriptor => s.insertDescriptor name descriptor
  | .remove name => (s.remove name).2
  | .write name change => (s.write name change).2
  | .edit name index word => s.edit name index word
  | .lookup _ => s
  | .get _ => s
  | .collectRetired => s.collectRetired.2

/-- The space after some calls. -/
def after (s : Space) (operations : List Operation) : Space := operations.foldl perform s

/-- Does every one of some calls leave the buffer that it changes where it is? -/
def KeepsBuffers (s : Space) : List Operation → Prop
  | [] => True
  | op :: rest => op.KeepsBuffer s ∧ (s.perform op).KeepsBuffers rest

/-- Some calls, each with the space before it. -/
def journal (s : Space) : List Operation → List (Space × Operation)
  | [] => []
  | op :: rest => (s, op) :: (s.perform op).journal rest

/-- The buffers that were displaced after the last call that freed the retired ones. -/
def displacedSinceCollected (s : Space) (operations : List Operation) : List OwnedBuffer :=
  ((s.journal operations).reverse.takeWhile (·.2 ≠ .collectRetired)).reverse.filterMap
    fun moment => moment.2.displaced? moment.1

/-- Only a buffer of the space is written. A foreign variable or an unknown name leaves all as it
was. -/
theorem write_cases (s : Space) (name : String) (change : Change) :
    (∃ b, s.entries[name]? = some (.owned b) ∧ (s.write name change).2 = { s with
        memory := (applyChange s.memory b change).1
        entries := s.entries.insert name (.owned (applyChange s.memory b change).2) }) ∨
      (s.write name change).2 = s := by
  unfold Space.write
  split
  next b hb => exact .inl ⟨b, hb, rfl⟩
  next => exact .inr rfl

/-- To edit a word either changes it in the memory of an owned buffer, or does nothing, where the
name has none. -/
theorem edit_cases (s : Space) (name : String) (index : Nat) (word : UInt32) :
    (∃ b, s.entries[name]? = some (.owned b) ∧
        s.edit name index word = s.poke b.address index word) ∨
      s.edit name index word = s := by
  unfold edit
  split
  next b hb => exact .inl ⟨b, hb, rfl⟩
  next => exact .inr rfl

/-- A call changes no entry but that of its name, and a call without a name changes none. -/
theorem entry_perform_of_ne (s : Space) {op : Operation} {x : String} (hx : op.name? ≠ some x) :
    (s.perform op).entries[x]? = s.entries[x]? := by
  have hinsert (name : String) (entry : Entry) (hne : name ≠ x) :
      (s.entries.insert name entry)[x]? = s.entries[x]? := by
    rw [getElem?_insert_entry, if_neg hne]
  cases op with
  | insert name buffer => exact hinsert name _ fun h => hx (congrArg some h)
  | insertDescriptor name descriptor => exact hinsert name _ fun h => hx (congrArg some h)
  | remove name =>
    have hne : ¬compare name x = .eq := by
      intro heq
      exact hx (congrArg some (Std.LawfulEqOrd.eq_of_compare heq))
    change (s.entries.erase name)[x]? = _
    rw [Std.TreeMap.getElem?_erase, if_neg hne]
  | write name change =>
    change (s.write name change).2.entries[x]? = _
    rcases s.write_cases name change with ⟨b, _, hw⟩ | hw
    · rw [hw]
      exact hinsert name _ fun h => hx (congrArg some h)
    · rw [hw]
  | edit name index word =>
    change (s.edit name index word).entries[x]? = _
    rcases s.edit_cases name index word with ⟨b, _, he⟩ | he
    · rw [he]
      rfl
    · rw [he]
  | lookup name => rfl
  | get name => rfl
  | collectRetired => rfl

/-- No call makes a space usable or unusable, so that a look-up that could be answered before can be
answered after it. -/
theorem valid_perform (s : Space) (op : Operation) : (s.perform op).valid = s.valid := by
  cases op with
  | write name change =>
    change (s.write name change).2.valid = _
    rcases s.write_cases name change with ⟨b, _, hw⟩ | hw <;> rw [hw]
  | edit name index word =>
    change (s.edit name index word).valid = _
    rcases s.edit_cases name index word with ⟨b, _, he⟩ | he
    · rw [he]
      rfl
    · rw [he]
  | _ => rfl

/-- A call on one name changes nothing that is reported for another one. -/
theorem lookup_perform_of_ne (s : Space) {op : Operation} {x : String} (hx : op.name? ≠ some x) :
    (s.perform op).lookup x = s.lookup x := by
  unfold Space.lookup
  rw [valid_perform, entry_perform_of_ne s hx]

/-- A buffer that has elements lies in a block. -/
def OwnedBuffer.HasMemory (b : OwnedBuffer) : Prop :=
  0 < b.length → ∃ block offset, b.address = .word block offset

/-- Buffers in different blocks that have elements do not lie at one address. -/
theorem OwnedBuffer.HasMemory.address_ne {b c : OwnedBuffer} (hb : b.HasMemory)
    (hn : 0 < b.length) (h : b.address.Apart c.address) : b.address ≠ c.address := by
  obtain ⟨block, offset, ha⟩ := hb hn
  intro heq
  exact h block offset offset ha (heq ▸ ha)

/-- A buffer that is stored with elements lies in a block; only an empty one lies nowhere. -/
theorem hasMemory_store (m : Memory) (buffer : Buffer) : (store m buffer).2.HasMemory := by
  intro hn
  rw [length_store] at hn
  refine ⟨m.blocks.size, 0, ?_⟩
  rw [address_store, if_neg (by omega)]

/-- All buffers of the space, in use and retired, lie in blocks that there are, each in one of
its own. -/
structure IsTidy (s : Space) : Prop where
  /-- The buffers in use do. -/
  separate : s.IsSeparate
  /-- They have memory for their elements. -/
  housed : ∀ {name : String} {b : OwnedBuffer}, s.entries[name]? = some (.owned b) → b.HasMemory
  /-- There are the blocks of the retired buffers. -/
  retiredKnown : ∀ b ∈ s.retired, s.memory.Knows b.address
  /-- The retired buffers have memory for their elements. -/
  retiredHoused : ∀ b ∈ s.retired, b.HasMemory
  /-- No two retired buffers share a block. -/
  retiredApart : s.retired.Pairwise fun b c => b.address.Apart c.address
  /-- No retired buffer shares a block with one in use. -/
  apart : ∀ {name : String} {b : OwnedBuffer}, s.entries[name]? = some (.owned b) →
    ∀ c ∈ s.retired, b.address.Apart c.address

/-- A space without variables is tidy: nothing is in use and nothing is retired. -/
theorem isTidy_empty : empty.IsTidy where
  separate := isSeparate_empty
  housed := by simp [empty]
  retiredKnown := by simp [empty]
  retiredHoused := by simp [empty]
  retiredApart := .nil
  apart := by simp [empty]

/-- Only a buffer of the space is displaced by a new entry: foreign memory is never retired. -/
theorem bind_buffer?_eq_some_iff {s : Space} {name : String} {b : OwnedBuffer} :
    s.entries[name]?.bind Entry.buffer? = some b ↔ s.entries[name]? = some (.owned b) := by
  cases s.entries[name]? with
  | none => simp
  | some entry => cases entry <;> simp [Entry.buffer?]

/-- After a variable is displaced, the retired buffers are those from before and the buffer that
stood under the name, if it had one. -/
theorem mem_retiredWith {s : Space} {name : String} {b : OwnedBuffer} :
    b ∈ s.retiredWith name ↔ b ∈ s.retired ∨ s.entries[name]? = some (.owned b) := by
  rw [retiredWith, List.mem_append, Option.mem_toList, bind_buffer?_eq_some_iff]

/-- A block that there was before is there as long as blocks are only added. -/
theorem Memory.Knows.mono {m m' : Memory} {a : Address} (h : m.Knows a)
    (hm : m.blocks.size ≤ m'.blocks.size) : m'.Knows a := by
  intro block offset ha
  exact Nat.lt_of_lt_of_le (h block offset ha) hm

namespace IsTidy

variable {s t : Space} {name : String}

/-- In a tidy space, what is retired with a displaced variable lies in a known block and has memory
for its elements. -/
theorem knows_retiredWith (h : s.IsTidy) {b : OwnedBuffer} (hb : b ∈ s.retiredWith name) :
    s.memory.Knows b.address ∧ b.HasMemory := by
  rcases mem_retiredWith.mp hb with hb | hb
  · exact ⟨h.retiredKnown b hb, h.retiredHoused b hb⟩
  · exact ⟨h.separate.known hb, h.housed hb⟩

/-- The buffers of the other names share no block with a buffer that is retired with a name. -/
theorem apart_retiredWith (h : s.IsTidy) {x : String} (hx : x ≠ name) {b : OwnedBuffer}
    (hb : s.entries[x]? = some (.owned b)) {c : OwnedBuffer} (hc : c ∈ s.retiredWith name) :
    b.address.Apart c.address := by
  rcases mem_retiredWith.mp hc with hc | hc
  · exact h.apart hb c hc
  · exact h.separate.apart hx hb hc

/-- In a tidy space, no two buffers share a block that are retired when a variable is displaced. -/
theorem pairwise_retiredWith (h : s.IsTidy) (name : String) :
    (s.retiredWith name).Pairwise fun b c => b.address.Apart c.address := by
  unfold retiredWith
  refine List.pairwise_append.mpr ⟨h.retiredApart, ?_, ?_⟩
  · cases s.entries[name]?.bind Entry.buffer? with
    | none => exact .nil
    | some b => exact List.pairwise_singleton _ b
  · intro b hb c hc
    have hused := bind_buffer?_eq_some_iff.mp (Option.mem_toList.mp hc)
    exact (h.apart hused b hb).symm

/-- A change under one name keeps the space tidy if what stands there afterwards has memory of
its own, and if no buffer is retired but the one that stood there. -/
theorem changed (h : s.IsTidy) (name : String)
    (hsize : s.memory.blocks.size ≤ t.memory.blocks.size)
    (hothers : ∀ x, x ≠ name → t.entries[x]? = s.entries[x]?)
    (hretired : t.retired.Sublist (s.retiredWith name))
    (hown : ∀ b, t.entries[name]? = some (.owned b) →
      t.memory.Knows b.address ∧ b.HasMemory ∧
      (∀ x c, x ≠ name → s.entries[x]? = some (.owned c) → c.address.Apart b.address) ∧
      ∀ c ∈ t.retired, b.address.Apart c.address) : t.IsTidy where
  separate := by
    constructor
    · intro x b hb
      by_cases hx : x = name
      · subst hx
        exact (hown b hb).1
      · rw [hothers x hx] at hb
        exact (h.separate.known hb).mono hsize
    · intro x y b c hne hb hc
      by_cases hx : x = name
      · subst hx
        have hy : y ≠ x := fun heq => hne heq.symm
        rw [hothers y hy] at hc
        exact ((hown b hb).2.2.1 y c hy hc).symm
      · rw [hothers x hx] at hb
        by_cases hy : y = name
        · subst hy
          exact (hown c hc).2.2.1 x b hx hb
        · rw [hothers y hy] at hc
          exact h.separate.apart hne hb hc
  housed := by
    intro x b hb
    by_cases hx : x = name
    · subst hx
      exact (hown b hb).2.1
    · rw [hothers x hx] at hb
      exact h.housed hb
  retiredKnown := fun b hb => (h.knows_retiredWith (hretired.mem hb)).1.mono hsize
  retiredHoused := fun b hb => (h.knows_retiredWith (hretired.mem hb)).2
  retiredApart := (h.pairwise_retiredWith name).sublist hretired
  apart := by
    intro x b hb c hc
    by_cases hx : x = name
    · subst hx
      exact (hown b hb).2.2.2 c hc
    · rw [hothers x hx] at hb
      exact h.apart_retiredWith hx hb (hretired.mem hc)

/-- A change of a buffer that stays where it is keeps the space tidy. -/
theorem changed_inPlace (h : s.IsTidy) {b b' : OwnedBuffer}
    (hb : s.entries[name]? = some (.owned b)) (haddress : b'.address = b.address)
    (hlength : b'.length ≤ b.length)
    (hsize : t.memory.blocks.size = s.memory.blocks.size)
    (hentry : t.entries[name]? = some (.owned b'))
    (hothers : ∀ x, x ≠ name → t.entries[x]? = s.entries[x]?)
    (hretired : t.retired = s.retired) : t.IsTidy := by
  refine h.changed name (Nat.le_of_eq hsize.symm) hothers ?_ ?_
  · rw [hretired]
    exact List.sublist_append_left _ _
  · intro c hc
    obtain rfl : c = b' := Entry.owned.inj (Option.some.inj (hc.symm.trans hentry))
    refine ⟨?_, ?_, ?_, ?_⟩
    · rw [haddress]
      exact (h.separate.known hb).mono (Nat.le_of_eq hsize.symm)
    · intro hn
      rw [haddress]
      exact h.housed hb (Nat.lt_of_lt_of_le hn hlength)
    · intro x d hx hd
      rw [haddress]
      exact h.separate.apart hx hd hb
    · rw [hretired, haddress]
      exact h.apart hb

/-- A buffer in new memory under a name keeps the space tidy, if what was there is retired or was
foreign. -/
theorem changed_stored (h : s.IsTidy) (name : String) (buffer : Buffer)
    (hmemory : t.memory = (store s.memory buffer).1)
    (hentry : t.entries[name]? = some (.owned (store s.memory buffer).2))
    (hothers : ∀ x, x ≠ name → t.entries[x]? = s.entries[x]?)
    (hretired : t.retired.Sublist (s.retiredWith name)) : t.IsTidy := by
  refine h.changed name (by rw [hmemory]; exact size_store_le s.memory buffer) hothers hretired ?_
  intro b hb
  obtain rfl := Entry.owned.inj (Option.some.inj (hb.symm.trans hentry))
  rw [hmemory]
  refine ⟨knows_store s.memory buffer, hasMemory_store s.memory buffer, ?_, ?_⟩
  · intro x c _ hc
    exact apart_store (h.separate.known hc) buffer
  · intro c hc
    exact (apart_store (h.knows_retiredWith (hretired.mem hc)).1 buffer).symm

end IsTidy

/-- Everything that a change may do: it writes over the buffer, or only takes it for a shorter
one or one of another type, or puts new memory into its place. -/
theorem applyChange_cases (m : Memory) (b : OwnedBuffer) (change : Change) :
    (∃ skip words, applyChange m b change = (m.write b.address skip words, b)) ∨
      (∃ b', applyChange m b change = (m, b') ∧ b'.address = b.address ∧ b'.length ≤ b.length ∧
        (change ≠ .retag → b'.kind = b.kind)) ∨
      ∃ buffer, applyChange m b change = store m buffer := by
  have hnothing : applyChange m b change = (m, b) →
      ∃ b', applyChange m b change = (m, b') ∧ b'.address = b.address ∧ b'.length ≤ b.length ∧
        (change ≠ .retag → b'.kind = b.kind) :=
    fun h => ⟨b, h, rfl, Nat.le_refl _, fun _ => rfl⟩
  cases change with
  | fill element =>
    by_cases hfits : element.fits b.kind = true
    · exact .inl ⟨_, _, if_pos hfits⟩
    · exact .inr (.inl (hnothing (if_neg hfits)))
  | set index element =>
    by_cases hfits : element.fits b.kind = true ∧ index < b.length
    · exact .inl ⟨_, _, if_pos hfits⟩
    · exact .inr (.inl (hnothing (if_neg hfits)))
  | copy elements =>
    by_cases hfits : elements.all (·.fits b.kind) = true ∧ elements.length = b.length
    · exact .inl ⟨_, _, if_pos hfits⟩
    · exact .inr (.inl (hnothing (if_neg hfits)))
  | truncate length => exact .inr (.inl ⟨_, rfl, rfl, Nat.min_le_left _ _, fun _ => rfl⟩)
  | retag =>
    right
    left
    cases hk : b.kind with
    | float32 => exact ⟨{ b with kind := .real }, by simp only [applyChange, hk], rfl,
        Nat.le_refl _, fun hne => absurd rfl hne⟩
    | real => exact ⟨{ b with kind := .float32 }, by simp only [applyChange, hk], rfl,
        Nat.le_refl _, fun hne => absurd rfl hne⟩
    | _ => exact ⟨b, by simp only [applyChange, hk], rfl, Nat.le_refl _, fun _ => hk⟩
  | assign buffer => exact .inr (.inr ⟨buffer, rfl⟩)

/-- To write into memory adds no block and takes none away, whether something is changed or not. -/
theorem size_write (m : Memory) (a : Address) (skip : Nat) (words : List UInt32) :
    (m.write a skip words).blocks.size = m.blocks.size := by
  cases a with
  | null => rfl
  | vacant => rfl
  | word block offset => simp [Memory.write]

/-- A change of a buffer leaves the space tidy: it writes into its own block, or the buffer gets a
new one. -/
theorem IsTidy.write {s : Space} (h : s.IsTidy) (name : String) (change : Change) :
    (s.write name change).2.IsTidy := by
  have hothers (x : String) (hx : x ≠ name) :
      (s.perform (.write name change)).entries[x]? = s.entries[x]? :=
    entry_perform_of_ne s fun heq => hx (Option.some.inj heq).symm
  change ∀ x, x ≠ name → (s.write name change).2.entries[x]? = s.entries[x]? at hothers
  rcases s.write_cases name change with ⟨b, hb, hw⟩ | hw
  · rw [hw] at hothers ⊢
    have hentry : (s.entries.insert name (.owned (applyChange s.memory b change).2))[name]? =
        some (.owned (applyChange s.memory b change).2) := by
      rw [getElem?_insert_entry, if_pos rfl]
    rcases applyChange_cases s.memory b change with
      ⟨skip, words, hc⟩ | ⟨b', hc, haddress, hlength, _⟩ | ⟨buffer, hc⟩
    · rw [hc] at hothers hentry ⊢
      exact h.changed_inPlace hb rfl (Nat.le_refl _) (size_write s.memory b.address skip words)
        hentry hothers rfl
    · rw [hc] at hothers hentry ⊢
      exact h.changed_inPlace hb haddress hlength rfl hentry hothers rfl
    · rw [hc] at hothers hentry ⊢
      exact h.changed_stored name buffer rfl hentry hothers (List.sublist_append_left _ _)
  · rw [hw]
    exact h

/-- A call keeps every buffer in a block of its own, whether held as an entry or retired. -/
theorem IsTidy.perform {s : Space} (h : s.IsTidy) (op : Operation) : (s.perform op).IsTidy := by
  have hothers (name x : String) (hname : op.name? = some name) (hx : x ≠ name) :
      (s.perform op).entries[x]? = s.entries[x]? := by
    refine entry_perform_of_ne s fun heq => hx ?_
    exact (Option.some.inj (hname.symm.trans heq)).symm
  cases op with
  | insert name buffer =>
    refine h.changed_stored name buffer rfl ?_ (fun x => hothers name x rfl)
      (List.Sublist.refl _)
    change (s.insert name buffer).entries[name]? = _
    rw [entry_insert, if_pos rfl]
  | insertDescriptor name descriptor =>
    refine h.changed name (Nat.le_refl _) (fun x => hothers name x rfl)
      (List.Sublist.refl _) fun b hb => ?_
    change (s.entries.insert name (.foreign descriptor))[name]? = _ at hb
    rw [getElem?_insert_entry, if_pos rfl] at hb
    cases hb
  | remove name =>
    refine h.changed name (Nat.le_refl _) (fun x => hothers name x rfl)
      (List.Sublist.refl _) fun b hb => ?_
    change (s.entries.erase name)[name]? = _ at hb
    rw [Std.TreeMap.getElem?_erase_self] at hb
    cases hb
  | write name change => exact h.write name change
  | edit name index word =>
    change (s.edit name index word).IsTidy
    rcases s.edit_cases name index word with ⟨b, hb, he⟩ | he
    · rw [he]
      exact h.changed_inPlace hb rfl (Nat.le_refl _) (size_write s.memory b.address index [word])
        hb (fun x _ => rfl) rfl
    · rw [he]
      exact h
  | lookup name => exact h
  | get name => exact h
  | collectRetired =>
    exact ⟨h.separate.collectRetired, h.housed, fun _ hb => absurd hb List.not_mem_nil,
      fun _ hb => absurd hb List.not_mem_nil, .nil, fun _ _ hc => absurd hc List.not_mem_nil⟩

/-- A call changes no words that lie apart from all buffers in use. -/
theorem wordsFrom_perform {s : Space} {a : Address} (hknown : s.memory.Knows a)
    (hapart : ∀ {name : String} {b : OwnedBuffer}, s.entries[name]? = some (.owned b) →
      b.address.Apart a) (op : Operation) :
    (s.perform op).memory.wordsFrom a = s.memory.wordsFrom a := by
  cases op with
  | insert name buffer => exact wordsFrom_store hknown buffer
  | write name change =>
    change (s.write name change).2.memory.wordsFrom a = _
    rcases s.write_cases name change with ⟨b, hb, hw⟩ | hw
    · rw [hw]
      rcases applyChange_cases s.memory b change with
        ⟨skip, words, hc⟩ | ⟨b', hc, _⟩ | ⟨buffer, hc⟩
      · rw [hc]
        exact Memory.wordsFrom_write_of_apart (hapart hb) skip words
      · rw [hc]
      · rw [hc]
        exact wordsFrom_store hknown buffer
    · rw [hw]
  | edit name index word =>
    change (s.edit name index word).memory.wordsFrom a = _
    rcases s.edit_cases name index word with ⟨b, hb, he⟩ | he
    · rw [he]
      exact Memory.wordsFrom_write_of_apart (hapart hb) index [word]
    · rw [he]
  | _ => rfl

/-- A displaced buffer is retired behind the others, until the retired buffers are freed. -/
theorem retired_perform (s : Space) {op : Operation} (hop : op ≠ .collectRetired) :
    (s.perform op).retired = s.retired ++ (op.displaced? s).toList := by
  cases op with
  | collectRetired => exact absurd rfl hop
  | write name change =>
    change (s.write name change).2.retired = s.retired ++ []
    rw [List.append_nil]
    rcases s.write_cases name change with ⟨b, _, hw⟩ | hw <;> rw [hw]
  | edit name index word =>
    change (s.edit name index word).retired = s.retired ++ []
    rw [List.append_nil]
    rcases s.edit_cases name index word with ⟨b, _, he⟩ | he
    · rw [he]
      rfl
    · rw [he]
  | lookup name => exact (List.append_nil _).symm
  | get name => exact (List.append_nil _).symm
  | _ => rfl

/-- A history in two parts ends where its second part leads from the end of the first. -/
theorem after_append (s : Space) (front rest : List Operation) :
    s.after (front ++ rest) = (s.after front).after rest := by
  simp only [after, List.foldl_append]

/-- The journal of a history in two parts is that of the first, and then that of the second from
where the first one ends. -/
theorem journal_append (s : Space) (front rest : List Operation) :
    s.journal (front ++ rest) = s.journal front ++ (s.after front).journal rest := by
  induction front generalizing s with
  | nil => rfl
  | cons op front ih => exact congrArg _ (ih (s.perform op))

/-- The retired buffers are those that were displaced since they were freed last. -/
theorem retired_after {s : Space} (hs : s.retired = []) (operations : List Operation) :
    (s.after operations).retired = s.displacedSinceCollected operations := by
  induction operations using List.reverseRecOn with
  | nil => exact hs
  | append_singleton operations op ih =>
    have hlast : (s.journal (operations ++ [op])).reverse =
        (s.after operations, op) :: (s.journal operations).reverse := by
      rw [journal_append, List.reverse_append]
      rfl
    rw [after_append]
    unfold displacedSinceCollected at ih ⊢
    rw [hlast, List.takeWhile_cons]
    by_cases hop : op = .collectRetired
    · subst hop
      rfl
    · have hgoes : decide (op ≠ .collectRetired) = true := decide_eq_true hop
      change ((s.after operations).perform op).retired = _
      rw [retired_perform _ hop, ih, if_pos hgoes, List.reverse_cons, List.filterMap_append]
      cases hd : op.displaced? (s.after operations) <;> simp [hd]

/-- A tidy space is tidy after any calls, by one call after the other. -/
theorem isTidy_after {s : Space} (h : s.IsTidy) (operations : List Operation) :
    (s.after operations).IsTidy := by
  induction operations generalizing s with
  | nil => exact h
  | cons op operations ih => exact ih (h.perform op)

/-- A retired buffer stays retired with its content until the retired buffers are freed. -/
theorem IsTidy.retained {s : Space} (h : s.IsTidy) {b : OwnedBuffer} (hb : b ∈ s.retired)
    {operations : List Operation} (hn : .collectRetired ∉ operations) :
    b ∈ (s.after operations).retired ∧
      (s.after operations).memory.wordsFrom b.address = s.memory.wordsFrom b.address := by
  induction operations generalizing s with
  | nil => exact ⟨hb, rfl⟩
  | cons op rest ih =>
    obtain ⟨hop, hrest⟩ := not_or.mp (List.mem_cons.not.mp hn)
    have hretired : b ∈ (s.perform op).retired := by
      rw [retired_perform s fun heq => hop heq.symm]
      exact List.mem_append_left _ hb
    obtain ⟨hmem, hwords⟩ := ih (h.perform op) hretired hrest
    refine ⟨hmem, hwords.trans ?_⟩
    exact wordsFrom_perform (h.retiredKnown b hb) (fun hc => h.apart hc b hb) op

/-- Is this still the buffer that stood under a name before some calls? It lies where it lay and
has its length; its type is another one only if it was retagged. -/
structure Continues (name : String) (operations : List Operation) (b b' : OwnedBuffer) : Prop where
  /-- It lies where it lay. -/
  address : b'.address = b.address
  /-- It has as many elements. -/
  length : b'.length = b.length
  /-- It has the same type. -/
  kind : .write name .retag ∉ operations → b'.kind = b.kind

/-- A buffer goes on as itself over any calls if nothing about it has changed. -/
theorem Continues.refl (name : String) (operations : List Operation) (b : OwnedBuffer) :
    Continues name operations b b := ⟨rfl, rfl, fun _ => rfl⟩

/-- A buffer that goes on over one call and then over the rest goes on over all of them; it has
another type only if it was retagged at one of them. -/
theorem Continues.cons {name : String} {op : Operation} {rest : List Operation}
    {b b' b'' : OwnedBuffer} (h : Continues name [op] b b') (h' : Continues name rest b' b'') :
    Continues name (op :: rest) b b'' where
  address := h'.address.trans h.address
  length := h'.length.trans h.length
  kind := by
    intro hn
    obtain ⟨hop, hrest⟩ := not_or.mp (List.mem_cons.not.mp hn)
    exact (h'.kind hrest).trans (h.kind fun hm => hop (List.mem_singleton.mp hm))

/-- Is the buffer that stands under a name still held after some calls? It stands there still,
or it was displaced by one of the calls and was retired until the retired buffers were freed. -/
def HoldsOn (s : Space) (name : String) (b : OwnedBuffer) (operations : List Operation) : Prop :=
  (∃ b', (s.after operations).entries[name]? = some (.owned b') ∧
      Continues name operations b b') ∨
    ∃ front op rest b', operations = front ++ op :: rest ∧
      op.displaced? (s.after front) = some b' ∧
      (s.after front).entries[name]? = some (.owned b') ∧ Continues name front b b' ∧
      (.collectRetired ∉ rest → b' ∈ (s.after operations).retired ∧
        b'.content (s.after operations).memory = b'.content (s.after front).memory)

/-- A buffer that has elements cannot be kept in its place by new memory. -/
theorem continues_applyChange {m : Memory} {b : OwnedBuffer} (hknown : m.Knows b.address)
    (hmemory : b.HasMemory) (hn : 0 < b.length) (name : String) {change : Change}
    (haddress : (applyChange m b change).2.address = b.address)
    (hlength : (applyChange m b change).2.length = b.length) :
    Continues name [.write name change] b (applyChange m b change).2 where
  address := haddress
  length := hlength
  kind := by
    intro hretag
    rcases applyChange_cases m b change with
      ⟨skip, words, hc⟩ | ⟨b', hc, _, _, hkind⟩ | ⟨buffer, hc⟩
    · rw [hc]
    · rw [hc]
      refine hkind fun heq => hretag ?_
      rw [heq]
      exact List.mem_singleton_self _
    · rw [hc] at haddress
      exact absurd haddress.symm (hmemory.address_ne hn (apart_store hknown buffer))

/-- A call displaces the buffer under a name, or leaves it there. -/
theorem displaced?_or_continues {s : Space} (h : s.IsTidy) {name : String} {b : OwnedBuffer}
    (hb : s.entries[name]? = some (.owned b)) (hn : 0 < b.length) {op : Operation}
    (hop : op.KeepsBuffer s) :
    (op.name? = some name ∧ op.displaced? s = some b) ∨
      ∃ b', (s.perform op).entries[name]? = some (.owned b') ∧ Continues name [op] b b' := by
  by_cases hname : op.name? = some name
  · have hdisplaced : s.entries[name]?.bind Entry.buffer? = some b :=
      bind_buffer?_eq_some_iff.mpr hb
    cases op with
    | insert x buffer =>
      obtain rfl := Option.some.inj hname
      exact .inl ⟨rfl, hdisplaced⟩
    | insertDescriptor x descriptor =>
      obtain rfl := Option.some.inj hname
      exact .inl ⟨rfl, hdisplaced⟩
    | remove x =>
      obtain rfl := Option.some.inj hname
      exact .inl ⟨rfl, hdisplaced⟩
    | write x change =>
      obtain rfl := Option.some.inj hname
      right
      obtain ⟨haddress, hlength⟩ := hop b hb
      refine ⟨(applyChange s.memory b change).2, ?_,
        continues_applyChange (h.separate.known hb) (h.housed hb) hn x haddress hlength⟩
      change (s.write x change).2.entries[x]? = _
      unfold Space.write
      simp only [hb]
      rw [getElem?_insert_entry, if_pos rfl]
    | edit x index word =>
      right
      refine ⟨b, ?_, .refl _ _ b⟩
      change (s.edit x index word).entries[name]? = _
      rcases s.edit_cases x index word with ⟨_, _, he⟩ | he
      · rw [he]
        exact hb
      · rw [he]
        exact hb
    | lookup x => exact .inr ⟨b, hb, .refl _ _ b⟩
    | get x => exact .inr ⟨b, hb, .refl _ _ b⟩
    | collectRetired => cases hname
  · right
    exact ⟨b, (entry_perform_of_ne s hname).trans hb, .refl _ _ b⟩

/-- A call that displaces a buffer changes no words that there are. -/
theorem wordsFrom_of_displaced {s : Space} {op : Operation} {b : OwnedBuffer}
    (hd : op.displaced? s = some b) {a : Address} (hknown : s.memory.Knows a) :
    (s.perform op).memory.wordsFrom a = s.memory.wordsFrom a := by
  cases op with
  | insert name buffer => exact wordsFrom_store hknown buffer
  | insertDescriptor name descriptor => rfl
  | remove name => rfl
  | _ => cases hd

/-- A buffer that has elements is held on to, whatever calls are made. -/
theorem IsTidy.holdsOn {s : Space} (h : s.IsTidy) {name : String} {b : OwnedBuffer}
    (hb : s.entries[name]? = some (.owned b)) (hn : 0 < b.length) {operations : List Operation}
    (hk : s.KeepsBuffers operations) : s.HoldsOn name b operations := by
  induction operations generalizing s b with
  | nil => exact .inl ⟨b, hb, .refl name [] b⟩
  | cons op rest ih =>
    obtain ⟨hop, hrest⟩ := hk
    rcases displaced?_or_continues h hb hn hop with ⟨_, hdisplaced⟩ | ⟨b₁, hb₁, hfirst⟩
    · -- the first call displaces the buffer, which is retired from then on
      right
      refine ⟨[], op, rest, b, rfl, hdisplaced, hb, .refl name [] b, fun hnot => ?_⟩
      have hne : op ≠ .collectRetired := by
        rintro rfl
        cases hdisplaced
      have hretired : b ∈ (s.perform op).retired := by
        rw [retired_perform s hne, hdisplaced]
        exact List.mem_append_right _ (List.mem_singleton_self b)
      obtain ⟨hmem, hwords⟩ := (h.perform op).retained hretired hnot
      have hfirst := wordsFrom_of_displaced hdisplaced (h.separate.known hb)
      exact ⟨hmem, OwnedBuffer.content_congr (hwords.trans hfirst)⟩
    · rcases ih (h.perform op) hb₁ (by rw [hfirst.length]; exact hn) hrest with
        ⟨b', hb', hcontinues⟩ | ⟨front, op', rest', b', hsplit, hdisplaced, hb', hcontinues, hheld⟩
      · exact .inl ⟨b', hb', hfirst.cons hcontinues⟩
      · right
        refine ⟨op :: front, op', rest', b', ?_, hdisplaced, hb', hfirst.cons hcontinues, hheld⟩
        rw [hsplit, List.cons_append]

/-- The space is never made unusable by these calls, so its variables can be looked up after all of
them. -/
theorem valid_after (s : Space) (operations : List Operation) :
    (s.after operations).valid = s.valid := by
  induction operations generalizing s with
  | nil => rfl
  | cons op rest ih => exact (ih (s.perform op)).trans (valid_perform s op)

/-- In a tidy space a buffer that has elements shares its address with no other one. -/
theorem IsTidy.address_ne {s : Space} (h : s.IsTidy) {name : String} {b : OwnedBuffer}
    (hb : s.entries[name]? = some (.owned b)) (hn : 0 < b.length) :
    (∀ c ∈ s.retired, b.address ≠ c.address) ∧
      ∀ x c, x ≠ name → s.entries[x]? = some (.owned c) → b.address ≠ c.address := by
  refine ⟨fun c hc => ?_, fun x c hx hc => ?_⟩
  · exact (h.housed hb).address_ne hn (h.apart hb c hc)
  · exact (h.housed hb).address_ne hn (h.separate.apart hx.symm hb hc)

/-- Retired buffers with elements lie at different addresses, because each of them lies in a block
of its own. -/
theorem IsTidy.retired_address_ne {s : Space} (h : s.IsTidy) :
    s.retired.Pairwise fun b c => 0 < b.length → b.address ≠ c.address := by
  refine h.retiredApart.imp_of_mem ?_
  intro b c hb _ happart hn
  exact (h.retiredHoused b hb).address_ne hn happart

/-- Memory that was handed out stays readable. At every moment, each buffer in use that has
elements is reported, and is held on to whatever calls follow that leave buffers where they are;
it shares its address with no other buffer in use and with no retired one, and no two retired
ones share theirs; the retired buffers are those that were displaced since they were freed last,
and freeing gives their number, frees just them and changes no variable; and a call on one name
changes nothing that is reported for another. -/
theorem reported_memory_stays_readable (before : List Operation) :
    let s := empty.after before
    (∀ name b, s.entries[name]? = some (.owned b) → 0 < b.length →
        s.lookup name = .ok b.descriptor ∧
        (∀ during, s.KeepsBuffers during → s.HoldsOn name b during) ∧
        (∀ c ∈ s.retired, b.address ≠ c.address) ∧
        ∀ x c, x ≠ name → s.entries[x]? = some (.owned c) → b.address ≠ c.address) ∧
      s.retired.Pairwise (fun b c => 0 < b.length → b.address ≠ c.address) ∧
      s.retired = empty.displacedSinceCollected before ∧
      s.retiredCount = s.retired.length ∧
      s.collectRetired.1 = s.retired.length ∧
      s.collectRetired.2.retired = [] ∧
      s.collectRetired.2.names = s.names ∧
      (∀ x, s.collectRetired.2.entries[x]? = s.entries[x]? ∧
        s.collectRetired.2.lookup x = s.lookup x) ∧
      ∀ op x, op.name? ≠ some x → (s.perform op).lookup x = s.lookup x := by
  intro s
  have h : s.IsTidy := isTidy_after isTidy_empty before
  have hvalid : s.valid = true := valid_after empty before
  refine ⟨?_, h.retired_address_ne, retired_after rfl before, rfl, rfl, rfl, rfl,
    fun x => ⟨rfl, rfl⟩, fun op x hx => lookup_perform_of_ne s hx⟩
  intro name b hb hn
  refine ⟨?_, fun during hk => h.holdsOn hb hn hk, h.address_ne hb hn⟩
  unfold Space.lookup
  simp only [hvalid, hb, if_true]
  rfl

/-- A level that is written, replaced and removed after it was reported can be read until the
retired buffers are freed: it has the content that it had when it was replaced. -/
theorem displaced_level_stays_readable :
    let before : List Operation := [.insert "level" (.float32 [⟨1⟩, ⟨2⟩])]
    let during : List Operation := [.write "level" (.fill (.single ⟨5⟩)),
      .insert "level" (.float32 [⟨3⟩]), .lookup "level", .remove "level"]
    let b : OwnedBuffer := ⟨.float32, 2, .word 0 0⟩
    let s := empty.after before
    s.lookup "level" = .ok b.descriptor ∧ s.KeepsBuffers during ∧ s.HoldsOn "level" b during ∧
      (s.after during).retired = [b, ⟨.float32, 1, .word 1 0⟩] ∧
      b.content (s.after during).memory = .float32 [⟨5⟩, ⟨5⟩] := by
  intro before during b s
  have hb : s.entries["level"]? = some (.owned b) := by
    unfold s before b
    decide +kernel
  have hkeeps : s.KeepsBuffers during := by
    refine ⟨fun c hc => ?_, trivial, trivial, trivial, trivial⟩
    obtain rfl := Entry.owned.inj (Option.some.inj (hc.symm.trans hb))
    unfold s before b
    decide +kernel
  obtain ⟨hlookup, hheld, _⟩ :=
    (reported_memory_stays_readable before).1 "level" b hb (by decide)
  refine ⟨hlookup, hkeeps, hheld during hkeeps, ?_, ?_⟩
  · unfold s before during b
    decide +kernel
  · unfold s before during b
    decide +kernel

end Space

end VariableBridge
