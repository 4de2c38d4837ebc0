import VariableBridge.Error
import VariableBridge.Space.Basic
import VariableBridge.Text.Blank

/-!
# The catalogue

A catalogue is what a bridge sees of a variable space: it looks names up and
asks for a listing of all names. The size of the listing is not known before,
so discovery offers growing buffers and gives up at a limit. Nothing is assumed
of the answers: a space may answer differently at every query and may leave
any text in a buffer that it refuses.
-/

namespace VariableBridge

open Space

/-- The answer to one listing query. -/
structure ListingAnswer where
  /-- What stands in the buffer afterwards. -/
  written : String
  /-- Did the listing fit? -/
  outcome : Except ListingFailure Unit

/-- What a bridge sees of a variable space. -/
structure Catalogue where
  /-- What the variable with a name looks like now. -/
  lookup : String → Except LookupFailure Descriptor
  /-- The answer to the query with this number, counted from zero, with this capacity. -/
  listing : Nat → Nat → ListingAnswer

namespace Catalogue

/-- The catalogue of a space at one moment. -/
def ofSpace (s : Space) : Catalogue where
  lookup := s.lookup
  listing _ capacity :=
    match s.listing capacity with
    | .ok text => ⟨text, .ok ()⟩
    | .error failure => ⟨"", .error failure⟩

/-- What the variable with this name looks like now. -/
def resolve (c : Catalogue) (name : String) : Except BridgeError Descriptor :=
  match c.lookup name with
  | .ok descriptor => .ok descriptor
  | .error .notFound => .error (.noSuchVariable name)
  | .error .invalidHandle => .error .invalidHandle

/-- Bytes of the largest buffer that is offered for a listing. -/
def listingLimit : Nat := 1048576

/-- Bytes of the first buffer that is offered for a listing. -/
def firstCapacity : Nat := 1024

/-- Number of buffers that are offered before discovery gives up. -/
def listingAttempts : Nat := 11

/-- Offer a buffer of this capacity at the query with this number, and twice the
capacity at each of the queries that are left. -/
def discoverFrom (c : Catalogue) : Nat → Nat → Nat → Except BridgeError (List String)
  | 0, _, _ => .error (.discoveryOverflow listingLimit)
  | left + 1, query, capacity =>
    let answer := c.listing query capacity
    match answer.outcome with
    | .ok () => .ok (Text.words answer.written)
    | .error .bufferTooSmall => discoverFrom c left (query + 1) (2 * capacity)
    | .error .invalidHandle => .error .invalidHandle

/-- The names of all variables. -/
def discover (c : Catalogue) : Except BridgeError (List String) :=
  c.discoverFrom listingAttempts 0 firstCapacity

/-- The last buffer offered has the size of the limit, so nothing that fits into the limit is
refused. -/
theorem lastCapacity : firstCapacity <<< (listingAttempts - 1) = listingLimit := by decide

end Catalogue

end VariableBridge
