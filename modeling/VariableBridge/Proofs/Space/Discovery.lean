import Mathlib.Algebra.BigOperators.Group.List.Basic
import Mathlib.Algebra.Order.Ring.Nat
import VariableBridge.Bridge.Settings
import VariableBridge.Proofs.Text.ByteOrder
import VariableBridge.Proofs.Text.Joining
import VariableBridge.Space.Catalogue

/-!
# Discovery of the names of a space

Main statements: discovery gives the names of a usable space in the order of their bytes, if
their listing does not exceed the limit; it gives only names that the settings accept; and it
ends after at most eleven queries, whatever is asked and however it answers.
-/

namespace VariableBridge

open Space

namespace Space

/-- A name is listed if there is a variable with this name, and no other names are listed. -/
theorem mem_names_iff {s : Space} {name : String} :
    name ∈ s.names ↔ s.entries.contains name = true := by
  rw [Std.TreeMap.contains_iff_mem, names, Std.TreeMap.mem_keys]

/-- The names are listed in the order of their bytes, each of them once. -/
theorem pairwise_names (s : Space) : s.names.Pairwise (Text.bytes · < Text.bytes ·) := by
  refine (Std.TreeMap.ordered_keys (t := s.entries)).imp fun {a b} h => ?_
  exact Text.bytes_lt (compareOfLessAndEq_eq_lt.mp h)

/-- A listing fits into a capacity if all names do, each with one more byte. -/
theorem listingSize_le_iff {s : Space} {capacity : Nat} (hpos : 0 < capacity) :
    s.listingSize ≤ capacity ↔ (s.names.map (·.utf8ByteSize + 1)).sum ≤ capacity := by
  have hsum : ∀ names : List String,
      names.foldr (fun name rest => name.utf8ByteSize + 1 + rest) 0 =
        (names.map (·.utf8ByteSize + 1)).sum := by
    intro names
    induction names with
    | nil => rfl
    | cons name names ih => rw [List.foldr_cons, ih, List.map_cons, List.sum_cons]
  rw [listingSize, hsum]
  omega

end Space

namespace Catalogue

/-- A query with a large enough buffer is the last one, and its words are the names of the space. -/
theorem discoverFrom_of_fits {s : Space} (hvalid : s.valid = true) {capacity : Nat}
    (hfits : s.listingSize ≤ capacity) (left query : Nat) :
    (ofSpace s).discoverFrom (left + 1) query capacity =
      .ok (Text.words (" ".intercalate s.names)) := by
  rw [discoverFrom]
  simp only [ofSpace, Space.listing, hvalid, hfits, if_true]

/-- After a query with a smaller buffer, one twice as large is offered. -/
theorem discoverFrom_of_exceeds {s : Space} (hvalid : s.valid = true) {capacity : Nat}
    (hexceeds : ¬s.listingSize ≤ capacity) (left query : Nat) :
    (ofSpace s).discoverFrom (left + 1) query capacity =
      (ofSpace s).discoverFrom left (query + 1) (2 * capacity) := by
  rw [discoverFrom]
  simp only [ofSpace, Space.listing, hvalid, hexceeds, if_true, if_false]

/-- Buffers that double from a capacity hold a listing if the last of them does. -/
theorem discoverFrom_ofSpace {s : Space} (hvalid : s.valid = true) (left query capacity : Nat) :
    (ofSpace s).discoverFrom (left + 1) query capacity =
      if s.listingSize ≤ capacity <<< left then .ok (Text.words (" ".intercalate s.names))
      else .error (.discoveryOverflow listingLimit) := by
  induction left generalizing query capacity with
  | zero =>
    rw [Nat.shiftLeft_zero]
    by_cases hfits : s.listingSize ≤ capacity
    · rw [if_pos hfits, discoverFrom_of_fits hvalid hfits]
    · rw [if_neg hfits, discoverFrom_of_exceeds hvalid hfits]
      rfl
  | succ left ih =>
    rw [Nat.shiftLeft_succ_inside]
    by_cases hfits : s.listingSize ≤ capacity
    · have hlast : s.listingSize ≤ (2 * capacity) <<< left :=
        calc s.listingSize ≤ 2 * capacity := by omega
          _ ≤ (2 * capacity) <<< left := Nat.le_shiftLeft
      rw [if_pos hlast, discoverFrom_of_fits hvalid hfits]
    · rw [discoverFrom_of_exceeds hvalid hfits, ih]

/-- A usable space is discovered if its listing does not exceed the limit. -/
theorem discover_ofSpace {s : Space} (hvalid : s.valid = true) :
    (ofSpace s).discover =
      if s.listingSize ≤ listingLimit then .ok (Text.words (" ".intercalate s.names))
      else .error (.discoveryOverflow listingLimit) := by
  rw [← lastCapacity]
  exact discoverFrom_ofSpace hvalid _ 0 firstCapacity

/-- The names come from the text of an accepted query, so they are words without blanks. -/
theorem exists_words_of_discoverFrom {c : Catalogue} {left query capacity : Nat}
    {names : List String} (h : c.discoverFrom left query capacity = .ok names) :
    ∃ text, names = Text.words text := by
  induction left generalizing query capacity with
  | zero => cases h
  | succ left ih =>
    rw [discoverFrom] at h
    split at h
    · exact ⟨_, (Except.ok.inj h).symm⟩
    · exact ih h
    · cases h

/-- A name can stand in a listing if it is not empty and holds no blank. -/
theorem isListable_iff {name : String} :
    Settings.isListable name = true ↔
      name ≠ "" ∧ ∀ c ∈ name.toList, Text.isBlank c = false := by
  simp [Settings.isListable]

/-- Whatever is discovered can stand in the settings: no name is empty, and none repeats. -/
theorem checkNames_of_discover {c : Catalogue} {names : List String}
    (h : c.discover = .ok names) : Settings.checkNames names = .ok () := by
  obtain ⟨text, rfl⟩ := exists_words_of_discoverFrom h
  refine Settings.checkNames_eq_ok_iff.mpr fun name hname => ?_
  exact isListable_iff.mpr
    ⟨Text.ne_empty_of_mem_words hname, Text.not_isBlank_of_mem_words hname⟩

end Catalogue

/-- An implementation of a space, with whatever it keeps between the queries. -/
structure Lister (σ : Type) where
  /-- What the variable with a name looks like. -/
  lookup : σ → String → Except LookupFailure Descriptor
  /-- The answer to a query with a buffer of this content and this capacity. -/
  query : σ → String → Nat → ListingAnswer × σ

/-- One query of a discovery. -/
structure ListingQuery where
  /-- The capacity that was offered. -/
  capacity : Nat
  /-- The answer. -/
  answer : ListingAnswer

/-- What a discovery asks and what it gives. -/
structure Enumeration where
  /-- The queries in order. -/
  queries : List ListingQuery
  /-- The names, or why there are none. -/
  result : Except BridgeError (List String)

namespace Lister

open Catalogue

variable {σ : Type}

/-- Double the capacity and ask, until an answer is final or the capacity exceeds the limit. -/
def enumerateFrom (l : Lister σ) (capacity : Nat) (hpos : 0 < capacity) (state : σ) :
    Enumeration :=
  if 2 * capacity > listingLimit then ⟨[], .error (.discoveryOverflow listingLimit)⟩
  else
    -- the buffer is cleared, whatever the attempt before left in it
    let (answer, state') := l.query state "" (2 * capacity)
    let asked : ListingQuery := ⟨2 * capacity, answer⟩
    match answer.outcome with
    | .ok () => ⟨[asked], .ok (Text.words answer.written)⟩
    | .error .bufferTooSmall =>
      let rest := enumerateFrom l (2 * capacity) (Nat.mul_pos Nat.two_pos hpos) state'
      ⟨asked :: rest.queries, rest.result⟩
    | .error .invalidHandle => ⟨[asked], .error .invalidHandle⟩
termination_by listingLimit - capacity

/-- Half of the first capacity is doubled before the first query. -/
def enumerate (l : Lister σ) (state : σ) : Enumeration :=
  l.enumerateFrom 512 (by decide) state

/-- The state before the query with this number, if those before it were refused. -/
def stateAt (l : Lister σ) (state : σ) : Nat → σ
  | 0 => state
  | i + 1 => (l.query (l.stateAt state i) "" (firstCapacity <<< i)).2

/-- The answers of an implementation to the queries of one discovery. -/
def catalogue (l : Lister σ) (state : σ) : Catalogue where
  lookup := l.lookup state
  listing i capacity := (l.query (l.stateAt state i) "" capacity).1

end Lister

namespace Enumeration

open Catalogue

/-- A discovery that begins with the query of this number and has so many left. -/
structure IsOrderly (e : Enumeration) (c : Catalogue) (left i : Nat) : Prop where
  /-- It gives what the bridge discovers. -/
  result_eq : e.result = c.discoverFrom left i (firstCapacity <<< i)
  /-- It does not ask more often. -/
  length_le : e.queries.length ≤ left
  /-- Every capacity is twice the one before. -/
  capacities : e.queries.map (·.capacity) =
    (List.range' i e.queries.length).map (firstCapacity <<< ·)
  /-- Names are the words of what the last query wrote; all queries before it were refused. -/
  accepted : ∀ names, e.result = .ok names → ∃ refused last,
    e.queries = refused ++ [last] ∧
      (∀ q ∈ refused, q.answer.outcome = .error .bufferTooSmall) ∧
      last.answer.outcome = .ok () ∧ names = Text.words last.answer.written

variable {c : Catalogue} {left i : Nat} {q : ListingQuery}

/-- A refused query, then a discovery that goes on with twice the capacity, is an orderly discovery
again. -/
theorem IsOrderly.cons {e : Enumeration} (h : e.IsOrderly c left (i + 1))
    (hcapacity : q.capacity = firstCapacity <<< i)
    (hrefused : q.answer.outcome = .error .bufferTooSmall)
    (hdiscover : c.discoverFrom (left + 1) i (firstCapacity <<< i) =
      c.discoverFrom left (i + 1) (firstCapacity <<< (i + 1))) :
    IsOrderly ⟨q :: e.queries, e.result⟩ c (left + 1) i where
  result_eq := h.result_eq.trans hdiscover.symm
  length_le := Nat.succ_le_succ h.length_le
  capacities := congrArg₂ List.cons hcapacity h.capacities
  accepted names hnames := by
    obtain ⟨refused, last, hqueries, hall, haccepted⟩ := h.accepted names hnames
    exact ⟨q :: refused, last, congrArg (List.cons q) hqueries,
      List.forall_mem_cons.mpr ⟨hrefused, hall⟩, haccepted⟩

/-- A query with a final answer, accepted or an error, is an orderly discovery by itself. -/
theorem IsOrderly.single {result : Except BridgeError (List String)}
    (hcapacity : q.capacity = firstCapacity <<< i)
    (hdiscover : c.discoverFrom (left + 1) i (firstCapacity <<< i) = result)
    (haccepted : ∀ names, result = .ok names →
      q.answer.outcome = .ok () ∧ names = Text.words q.answer.written) :
    IsOrderly ⟨[q], result⟩ c (left + 1) i where
  result_eq := hdiscover.symm
  length_le := Nat.succ_le_succ left.zero_le
  capacities := congrArg (fun n => [n]) hcapacity
  accepted names hnames := ⟨[], q, rfl, List.forall_mem_nil _, haccepted names hnames⟩

end Enumeration

namespace Lister

open Catalogue

variable {σ : Type}

/-- What discovery does with the answer to the query of this number. -/
theorem discoverFrom_catalogue (l : Lister σ) (state : σ) (left i : Nat) {capacity : Nat}
    (h : capacity = firstCapacity <<< i) :
    (l.catalogue state).discoverFrom (left + 1) i (firstCapacity <<< i) =
      match (l.query (l.stateAt state i) "" capacity).1.outcome with
      | .ok () => .ok (Text.words (l.query (l.stateAt state i) "" capacity).1.written)
      | .error .bufferTooSmall =>
        (l.catalogue state).discoverFrom left (i + 1) (firstCapacity <<< (i + 1))
      | .error .invalidHandle => .error .invalidHandle := by
  rw [discoverFrom, ← Nat.shiftLeft_succ, h]
  rfl

/-- No capacity that discovery offers exceeds the limit, since it is doubled only so many times. -/
theorem firstCapacity_shiftLeft_le {i : Nat} (h : i < listingAttempts) :
    firstCapacity <<< i ≤ listingLimit := by
  rw [← lastCapacity, Nat.shiftLeft_eq, Nat.shiftLeft_eq]
  exact Nat.mul_le_mul_left _ (Nat.pow_le_pow_right Nat.two_pos (by omega))

/-- The loop asks what discovery asks, and its answers are those of the catalogue. -/
theorem isOrderly_enumerateFrom (l : Lister σ) (state : σ) {left i capacity : Nat}
    (h : left + i = listingAttempts) (hcapacity : 2 * capacity = firstCapacity <<< i)
    (hpos : 0 < capacity) :
    (l.enumerateFrom capacity hpos (l.stateAt state i)).IsOrderly (l.catalogue state) left i := by
  induction left generalizing i capacity with
  | zero =>
    have hover : 2 * capacity > listingLimit := by
      obtain rfl : i = listingAttempts := by omega
      rw [hcapacity]
      decide
    rw [enumerateFrom, if_pos hover]
    exact ⟨rfl, Nat.le_refl 0, rfl, fun _ hnames => nomatch hnames⟩
  | succ left ih =>
    have hfits : ¬2 * capacity > listingLimit := by
      rw [hcapacity]
      exact Nat.not_lt.mpr (firstCapacity_shiftLeft_le (by omega))
    have hnext : 2 * (2 * capacity) = firstCapacity <<< (i + 1) := by
      rw [Nat.shiftLeft_succ, hcapacity]
    have hrest := ih (by omega) hnext (by omega)
    have hdiscover := l.discoverFrom_catalogue state left i hcapacity
    rw [stateAt, ← hcapacity] at hrest
    rw [enumerateFrom, if_neg hfits]
    generalize hasked : l.query (l.stateAt state i) "" (2 * capacity) = asked at hdiscover hrest
    obtain ⟨⟨written, outcome⟩, state'⟩ := asked
    dsimp only at hdiscover hrest ⊢
    match outcome with
    | .ok () =>
      exact .single hcapacity hdiscover fun names hnames => ⟨rfl, (Except.ok.inj hnames).symm⟩
    | .error .bufferTooSmall => exact hrest.cons hcapacity rfl hdiscover
    | .error .invalidHandle => exact .single hcapacity hdiscover fun _ hnames => nomatch hnames

/-- A discovery over any implementation of a space is orderly from its first query on, with all its
attempts left. -/
theorem isOrderly_enumerate (l : Lister σ) (state : σ) :
    (l.enumerate state).IsOrderly (l.catalogue state) listingAttempts 0 := by
  have hattempts : listingAttempts + 0 = listingAttempts := rfl
  have hfirst : 2 * 512 = firstCapacity <<< 0 := rfl
  exact l.isOrderly_enumerateFrom state hattempts hfirst (by decide)

end Lister

/-- Discovery is exact and ends. The names of a usable space that can stand in a listing are given
in the order of their bytes if they take no more than the limit, each with one more byte; else
discovery fails. Whatever it gives passes the check of the settings. And for any implementation
of a space it asks at most eleven times, with capacities that double from the first one, and
gives the words of what the accepted query wrote. -/
theorem Catalogue.discovery_is_exact_and_ends :
    (∀ s : Space, s.valid = true →
      (∀ name ∈ s.names, name ≠ "" ∧ ∀ c ∈ name.toList, Text.isBlank c = false) →
      (ofSpace s).discover =
          (if (s.names.map (·.utf8ByteSize + 1)).sum ≤ listingLimit then .ok s.names
          else .error (.discoveryOverflow listingLimit)) ∧
        (∀ name, name ∈ s.names ↔ s.entries.contains name = true) ∧
        s.names.Pairwise (Text.bytes · < Text.bytes ·)) ∧
    (∀ (c : Catalogue) (names : List String),
      c.discover = .ok names → Settings.checkNames names = .ok ()) ∧
    ∀ (σ : Type) (l : Lister σ) (state : σ),
      (l.enumerate state).result = (l.catalogue state).discover ∧
      (l.enumerate state).queries.length ≤ 11 ∧
      (l.enumerate state).queries.map (·.capacity) =
        (List.range (l.enumerate state).queries.length).map (1024 <<< ·) ∧
      ∀ names, (l.enumerate state).result = .ok names → ∃ refused last,
        (l.enumerate state).queries = refused ++ [last] ∧
          (∀ q ∈ refused, q.answer.outcome = .error .bufferTooSmall) ∧
          last.answer.outcome = .ok () ∧ names = Text.words last.answer.written := by
  refine ⟨?_, fun c names => checkNames_of_discover, ?_⟩
  · intro s hvalid hnames
    have hwords : Text.words (" ".intercalate s.names) = s.names :=
      Text.words_intercalate rfl (by decide) (fun name hname => (hnames name hname).1)
        fun name hname => (hnames name hname).2
    refine ⟨?_, fun name => Space.mem_names_iff, s.pairwise_names⟩
    rw [discover_ofSpace hvalid, hwords]
    exact if_congr (Space.listingSize_le_iff (by decide)) rfl rfl
  · intro σ l state
    have h := l.isOrderly_enumerate state
    refine ⟨h.result_eq, h.length_le, ?_, h.accepted⟩
    rw [List.range_eq_range']
    exact h.capacities

/-- A space with a name of two bytes, put in before one that is listed first. -/
def Space.accented : Space :=
  (Space.empty.insert "é" (.int32 [])).insert "b" (.int32 [])

/-- Names are listed in the order of their bytes, so that a letter with an accent comes after a
plain one that was put in later. -/
theorem Catalogue.accented_names_are_discovered :
    (ofSpace Space.accented).discover = .ok ["b", "é"] := by
  have hnames : Space.accented.names = ["b", "é"] := by decide +kernel
  have hlistable : ∀ name ∈ Space.accented.names, Settings.isListable name = true := by
    rw [hnames]
    decide +kernel
  have hexact := (discovery_is_exact_and_ends.1 Space.accented rfl
    fun name hname => isListable_iff.mp (hlistable name hname)).1
  rw [hexact, hnames]
  rfl

end VariableBridge
