import VariableBridge.Number.Binary
import VariableBridge.Space.Memory
import VariableBridge.TypeTag

/-!
# Buffers

A buffer is the content of a variable: a list of elements of one type. In
memory every element is a fixed number of words, the low half of a 64-bit
number first and the real part of a complex number first. A text takes one word
for each character, and its size is counted in bytes.
-/

namespace VariableBridge.Space

open Number (Single Double)

/-- A complex number with 32-bit parts. -/
structure Complex where
  /-- Real part. -/
  re : Single
  /-- Imaginary part. -/
  im : Single
  deriving DecidableEq, Repr, Inhabited

/-- The content of a variable. -/
inductive Buffer where
  /-- Signed integers. -/
  | int32 (elements : List Int32)
  /-- 32-bit floats. -/
  | float32 (elements : List Single)
  /-- 64-bit floats. -/
  | float64 (elements : List Double)
  /-- 32-bit floats over a real domain. -/
  | real (elements : List Single)
  /-- Complex numbers. -/
  | complex (elements : List Complex)
  /-- A text. -/
  | text (content : String)
  deriving DecidableEq, Repr, Inhabited

/-- The element types that a buffer can have. -/
inductive BufferKind where
  /-- Signed integers. -/
  | int32
  /-- 32-bit floats. -/
  | float32
  /-- 64-bit floats. -/
  | float64
  /-- 32-bit floats over a real domain. -/
  | real
  /-- Complex numbers. -/
  | complex
  /-- Text. -/
  | text
  deriving DecidableEq, Repr, Inhabited

/-- The type tag of a kind of buffer. -/
def BufferKind.tag : BufferKind → TypeTag
  | .int32 => .int32
  | .float32 => .float32
  | .float64 => .float64
  | .real => .real
  | .complex => .complex
  | .text => .text

/-- A 64-bit number as two words, the low half first. -/
def wordsOfDouble (x : Double) : List UInt32 :=
  [UInt32.ofNat (x.bits.toNat % UInt32.size), UInt32.ofNat (x.bits.toNat / UInt32.size)]

/-- The 64-bit number of two words. -/
def doubleOfWords (low high : UInt32) : Double :=
  ⟨UInt64.ofNat (high.toNat * UInt32.size + low.toNat)⟩

/-- The two words of a 64-bit number give the number back, bit for bit, also where it is a NaN or a
zero with a sign. -/
theorem doubleOfWords_wordsOfDouble (x : Double) :
    doubleOfWords (UInt32.ofNat (x.bits.toNat % UInt32.size))
        (UInt32.ofNat (x.bits.toNat / UInt32.size)) =
      x := by
  cases x with
  | mk bits =>
    have h := bits.toNat_lt
    simp only [doubleOfWords, Double.mk.injEq]
    apply UInt64.toNat.inj
    simp only [UInt64.toNat_ofNat', UInt32.toNat_ofNat', UInt32.size]
    omega

/-- Numbers of pairs of words; a single word at the end is left out. -/
def doublesOfWords : List UInt32 → List Double
  | low :: high :: rest => doubleOfWords low high :: doublesOfWords rest
  | _ => []

/-- Complex numbers of pairs of words; a single word at the end is left out. -/
def complexesOfWords : List UInt32 → List Complex
  | re :: im :: rest => ⟨⟨re⟩, ⟨im⟩⟩ :: complexesOfWords rest
  | _ => []

/-- The words of some 64-bit numbers, one after the other, are read back as these numbers in the
same order. -/
@[simp] theorem doublesOfWords_flatMap (xs : List Double) :
    doublesOfWords (xs.flatMap wordsOfDouble) = xs := by
  induction xs with
  | nil => rfl
  | cons x rest ih =>
    simpa [wordsOfDouble, doublesOfWords, ih] using doubleOfWords_wordsOfDouble x

/-- The words of some complex numbers, the real part in front of the imaginary one, are read back as
these numbers in the same order. -/
@[simp] theorem complexesOfWords_flatMap (xs : List Complex) :
    complexesOfWords (xs.flatMap fun z => [z.re.bits, z.im.bits]) = xs := by
  induction xs with
  | nil => rfl
  | cons x rest ih => simp [complexesOfWords, ih]

/-- The longest start of a text that has at most this many bytes. -/
def charsWithin : Nat → List Char → List Char
  | _, [] => []
  | bytes, c :: rest =>
    if c.utf8Size ≤ bytes then c :: charsWithin (bytes - c.utf8Size) rest else []

namespace Buffer

/-- The kind of a buffer. -/
def kind : Buffer → BufferKind
  | .int32 _ => .int32
  | .float32 _ => .float32
  | .float64 _ => .float64
  | .real _ => .real
  | .complex _ => .complex
  | .text _ => .text

/-- The type tag of a buffer. -/
def tag (b : Buffer) : TypeTag := b.kind.tag

/-- Number of elements; of a text, the number of bytes. -/
def length : Buffer → Nat
  | .int32 elements => elements.length
  | .float32 elements => elements.length
  | .float64 elements => elements.length
  | .real elements => elements.length
  | .complex elements => elements.length
  | .text content => content.utf8ByteSize

/-- Is there no element? -/
def isEmpty (b : Buffer) : Bool := b.length == 0

/-- The words of a buffer in memory. -/
def words : Buffer → List UInt32
  | .int32 elements => elements.map Int32.toUInt32
  | .float32 elements => elements.map Single.bits
  | .float64 elements => elements.flatMap wordsOfDouble
  | .real elements => elements.map Single.bits
  | .complex elements => elements.flatMap fun z => [z.re.bits, z.im.bits]
  | .text content => content.toList.map Char.val

/-- The buffer of a kind and a length whose memory begins with these words. -/
def ofWords (kind : BufferKind) (length : Nat) (words : List UInt32) : Buffer :=
  match kind with
  | .int32 => .int32 ((words.take length).map UInt32.toInt32)
  | .float32 => .float32 ((words.take length).map Single.mk)
  | .float64 => .float64 (doublesOfWords (words.take (2 * length)))
  | .real => .real ((words.take length).map Single.mk)
  | .complex => .complex (complexesOfWords (words.take (2 * length)))
  | .text => .text (String.ofList (charsWithin length (words.map fun w => Char.ofNat w.toNat)))

end Buffer

/-- One element that can be written into a buffer. -/
inductive Element where
  /-- A signed integer. -/
  | int32 (value : Int32)
  /-- A 32-bit float. -/
  | single (value : Single)
  /-- A 64-bit float. -/
  | double (value : Double)
  /-- A complex number. -/
  | complex (value : Complex)
  deriving DecidableEq, Repr

namespace Element

/-- Can the element stand in a buffer of this kind? -/
def fits : Element → BufferKind → Bool
  | .int32 _, .int32 => true
  | .single _, .float32 => true
  | .single _, .real => true
  | .double _, .float64 => true
  | .complex _, .complex => true
  | _, _ => false

/-- The words of the element. -/
def words : Element → List UInt32
  | .int32 value => [value.toUInt32]
  | .single value => [value.bits]
  | .double value => wordsOfDouble value
  | .complex value => [value.re.bits, value.im.bits]

end Element

end VariableBridge.Space
