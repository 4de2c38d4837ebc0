import Std.Data.TreeMap
import VariableBridge.Space.Buffer
import VariableBridge.Space.Descriptor

/-!
# The variable space

A space maps names to variables. Most variables are buffers that the space
owns; a foreign variable is only a descriptor of memory elsewhere. Replacing or
removing a variable does not free its buffer: the buffer is retired and stays
readable until the retired buffers are collected. Names are listed in
ascending order.
-/

namespace VariableBridge.Space

/-- A buffer that a space owns. -/
structure OwnedBuffer where
  /-- Kind of the elements. -/
  kind : BufferKind
  /-- Number of elements; of a text, the number of bytes. -/
  length : Nat
  /-- Where the elements lie. -/
  address : Address
  deriving DecidableEq, Repr, Inhabited

namespace OwnedBuffer

/-- The content of the buffer. -/
def content (m : Memory) (b : OwnedBuffer) : Buffer :=
  .ofWords b.kind b.length (m.wordsFrom b.address)

/-- What the buffer looks like. -/
def descriptor (b : OwnedBuffer) : Descriptor := ⟨b.kind.tag, reportedCount b.length, b.address⟩

end OwnedBuffer

/-- A variable of a space. -/
inductive Entry where
  /-- A buffer of the space. -/
  | owned (buffer : OwnedBuffer)
  /-- A variable whose memory lies elsewhere. -/
  | foreign (descriptor : Descriptor)
  deriving DecidableEq, Repr, Inhabited

/-- What a variable looks like. -/
def Entry.descriptor : Entry → Descriptor
  | .owned buffer => buffer.descriptor
  | .foreign descriptor => descriptor

/-- The buffer that is to be retired with a displaced variable. -/
def Entry.buffer? : Entry → Option OwnedBuffer
  | .owned buffer => some buffer
  | .foreign _ => none

/-- Why a variable was not found. -/
inductive LookupFailure where
  /-- There is no such name. -/
  | notFound
  /-- The space cannot be used. -/
  | invalidHandle
  deriving DecidableEq, Repr

/-- The text of a failed look-up. -/
def LookupFailure.message : LookupFailure → String
  | .notFound => "no such variable"
  | .invalidHandle => "variable space handle is invalid"

/-- Why the names were not listed. -/
inductive ListingFailure where
  /-- The names do not fit into the given size. -/
  | bufferTooSmall
  /-- The space cannot be used. -/
  | invalidHandle
  deriving DecidableEq, Repr

/-- The text of a failed listing. -/
def ListingFailure.message : ListingFailure → String
  | .bufferTooSmall => "listing buffer too small"
  | .invalidHandle => "variable space handle is invalid"

/-- A change of a buffer in its place. -/
inductive Change where
  /-- Give every element this value. -/
  | fill (element : Element)
  /-- Give one element this value. -/
  | set (index : Nat) (element : Element)
  /-- Give all elements these values, if there is one for each. -/
  | copy (elements : List Element)
  /-- Keep only the first elements; the memory stays where it is. -/
  | truncate (length : Nat)
  /-- Exchange the two types of 32-bit floats over the same memory. -/
  | retag
  /-- Give up the memory and put another buffer into its place. -/
  | assign (buffer : Buffer)
  deriving DecidableEq, Repr

end Space

open Space

/-- A variable space with the memory that its descriptors point into. -/
structure Space where
  /-- All memory, also that of foreign variables. -/
  memory : Memory
  /-- The variables by name. -/
  entries : Std.TreeMap String Entry
  /-- Displaced buffers that are still readable, the oldest first. -/
  retired : List OwnedBuffer
  /-- Can the space be used? -/
  valid : Bool

namespace Space

/-- A space without variables. -/
def empty : Space := ⟨.empty, ∅, [], true⟩

instance : Inhabited Space := ⟨empty⟩

/-- Give a buffer memory of its own. An empty buffer needs none. -/
def store (m : Memory) (b : Buffer) : Memory × OwnedBuffer :=
  if b.isEmpty then (m, ⟨b.kind, 0, .vacant⟩)
  else
    let (m', address) := m.allocate b.words
    (m', ⟨b.kind, b.length, address⟩)

/-- Retire the buffer of the variable with this name, if it has one. -/
def retiredWith (s : Space) (name : String) : List OwnedBuffer :=
  s.retired ++ (s.entries[name]?.bind Entry.buffer?).toList

/-- Put a new buffer under a name; what was there is retired. -/
def insert (s : Space) (name : String) (b : Buffer) : Space :=
  let (memory, buffer) := store s.memory b
  { s with
    memory
    entries := s.entries.insert name (.owned buffer)
    retired := s.retiredWith name }

/-- Put a foreign variable under a name; what was there is retired. -/
def insertDescriptor (s : Space) (name : String) (d : Descriptor) : Space :=
  { s with entries := s.entries.insert name (.foreign d), retired := s.retiredWith name }

/-- Take a name away and retire its buffer. Also says whether the name was there. -/
def remove (s : Space) (name : String) : Bool × Space :=
  (s.entries.contains name,
    { s with entries := s.entries.erase name, retired := s.retiredWith name })

/-- Apply a change to a buffer. An element of another type, or one past the end, changes nothing. -/
def applyChange (m : Memory) (b : OwnedBuffer) : Change → Memory × OwnedBuffer
  | .fill element =>
    if element.fits b.kind then
      (m.write b.address 0 (List.replicate b.length element.words).flatten, b)
    else (m, b)
  | .set index element =>
    if element.fits b.kind ∧ index < b.length then
      (m.write b.address (index * element.words.length) element.words, b)
    else (m, b)
  | .copy elements =>
    if elements.all (·.fits b.kind) ∧ elements.length = b.length then
      (m.write b.address 0 (elements.flatMap Element.words), b)
    else (m, b)
  | .truncate length => (m, { b with length := min b.length length })
  | .retag =>
    match b.kind with
    | .float32 => (m, { b with kind := .real })
    | .real => (m, { b with kind := .float32 })
    | _ => (m, b)
  | .assign buffer => store m buffer

/-- Change a buffer of the space in its place. Says whether there is such a buffer. -/
def write (s : Space) (name : String) (change : Change) : Bool × Space :=
  match s.entries[name]? with
  | some (.owned buffer) =>
    let (memory, changed) := applyChange s.memory buffer change
    (true, { s with memory, entries := s.entries.insert name (.owned changed) })
  | _ => (false, s)

/-- The content of a buffer of the space. -/
def get? (s : Space) (name : String) : Option Buffer :=
  match s.entries[name]? with
  | some (.owned buffer) => some (buffer.content s.memory)
  | _ => none

/-- Free the retired buffers. Also gives their number. -/
def collectRetired (s : Space) : Nat × Space := (s.retired.length, { s with retired := [] })

/-- Number of variables. -/
def size (s : Space) : Nat := s.entries.size

/-- Is there no variable? -/
def isEmpty (s : Space) : Bool := s.entries.isEmpty

/-- Number of retired buffers. -/
def retiredCount (s : Space) : Nat := s.retired.length

/-- The names in ascending order. -/
def names (s : Space) : List String := s.entries.keys

/-- Make the space unusable for good. -/
def invalidate (s : Space) : Space := { s with valid := false }

/-- What the variable with this name looks like now. -/
def lookup (s : Space) (name : String) : Except LookupFailure Descriptor :=
  if s.valid then
    match s.entries[name]? with
    | some entry => .ok entry.descriptor
    | none => .error .notFound
  else .error .invalidHandle

/-- Bytes that the listing takes: every name ends with one more byte, and an empty
listing still needs one. -/
def listingSize (s : Space) : Nat :=
  max 1 (s.names.foldr (fun name rest => name.utf8ByteSize + 1 + rest) 0)

/-- The names in one text, separated by spaces, if they fit into the capacity. -/
def listing (s : Space) (capacity : Nat) : Except ListingFailure String :=
  if s.valid then
    if s.listingSize ≤ capacity then .ok (" ".intercalate s.names) else .error .bufferTooSmall
  else .error .invalidHandle

/-- A new block of memory that belongs to no variable of the space. -/
def lend (s : Space) (words : List UInt32) : Space × Address :=
  let (memory, address) := s.memory.allocate words
  ({ s with memory }, address)

/-- Change one word of such a block. -/
def poke (s : Space) (address : Address) (index : Nat) (word : UInt32) : Space :=
  { s with memory := s.memory.write address index [word] }

end Space

end VariableBridge
