/-!
# Memory

Memory is made of blocks of 32-bit words. A block is never reused by the operations
of a space: memory that has been given up keeps its number, and a new block gets a
number of its own. That a new buffer may lie where a freed one lay is allowed by the
steps that move buffers (`Space.Step.moved`), under which a space is looked at between
two cycles. Reading what lies outside of a block gives nothing.
-/

namespace VariableBridge.Space

/-- Where the elements of a variable begin. -/
inductive Address where
  /-- Nowhere: the variable has no memory. -/
  | null
  /-- The place of every buffer that was made empty; no memory belongs to it. -/
  | vacant
  /-- A word of a block. -/
  | word (block offset : Nat)
  deriving DecidableEq, Repr, Inhabited

/-- The address some words further on in its block. -/
def Address.advance : Address → Nat → Address
  | .word block offset, distance => .word block (offset + distance)
  | address, _ => address

/-- All blocks, by number. -/
structure Memory where
  /-- The words of each block. -/
  blocks : Array (List UInt32)
  deriving Repr, Inhabited

namespace Memory

/-- Memory without blocks. -/
def empty : Memory := ⟨#[]⟩

/-- The words of a block; none if there is no such block. -/
def block (m : Memory) (number : Nat) : List UInt32 := m.blocks[number]?.getD []

/-- A new block with these words, and its address. -/
def allocate (m : Memory) (words : List UInt32) : Memory × Address :=
  (⟨m.blocks.push words⟩, .word m.blocks.size 0)

/-- All words from an address to the end of its block. -/
def wordsFrom (m : Memory) : Address → List UInt32
  | .null => []
  | .vacant => []
  | .word number offset => (m.block number).drop offset

/-- The first words at an address. -/
def read (m : Memory) (address : Address) (count : Nat) : List UInt32 :=
  (m.wordsFrom address).take count

/-- Replace words of a list from a position on; the list keeps its length. -/
def splice (old : List UInt32) (position : Nat) (new : List UInt32) : List UInt32 :=
  (old.take position ++ new ++ old.drop (position + new.length)).take old.length

/-- Change words in place, `skip` words behind an address. -/
def write (m : Memory) (address : Address) (skip : Nat) (words : List UInt32) : Memory :=
  match address with
  | .null => m
  | .vacant => m
  | .word number offset => ⟨m.blocks.modify number (splice · (offset + skip) words)⟩

/-- Memory without blocks has no words at any number, so that nothing can be read from it. -/
@[simp] theorem block_empty (number : Nat) : empty.block number = [] := by
  simp [block, empty]

/-- A new block holds its words, and all other blocks are as before. -/
theorem block_allocate (m : Memory) (words : List UInt32) (number : Nat) :
    (m.allocate words).1.block number =
      if number = m.blocks.size then words else m.block number := by
  simp only [block, allocate, Array.getElem?_push]
  split <;> simp

/-- A new block begins at its first word and has the number that comes after those of all blocks
before it. -/
@[simp] theorem allocate_address (m : Memory) (words : List UInt32) :
    (m.allocate words).2 = .word m.blocks.size 0 := rfl

/-- At the address of a new block its words are read, from the first to the last. -/
theorem wordsFrom_new (m : Memory) (words : List UInt32) :
    (m.allocate words).1.wordsFrom (m.allocate words).2 = words := by
  simp only [allocate_address, wordsFrom, block_allocate, if_true, List.drop_zero]

/-- Nothing is read from nowhere, however many words are asked for, so that no reader has to look at
the address first. -/
@[simp] theorem read_null (m : Memory) (count : Nat) : m.read .null count = [] := by
  simp [read, wordsFrom]

/-- Nothing is read at the place of the empty buffers, however many words are asked for, since no
memory belongs to it. -/
@[simp] theorem read_vacant (m : Memory) (count : Nat) : m.read .vacant count = [] := by
  simp [read, wordsFrom]

/-- Replacing words keeps the number of words: a block neither grows nor shrinks by a change in
place, even by one past its end. -/
@[simp] theorem length_splice (old : List UInt32) (position : Nat) (new : List UInt32) :
    (splice old position new).length = old.length := by
  simp only [splice, List.length_take, List.length_append, List.length_drop]
  omega

end Memory

end VariableBridge.Space
