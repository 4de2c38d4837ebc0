/-!
# Instants

An instant is a number of seconds since the start of 1970 in universal time and
a number of nanoseconds. A leap second is the last second of a minute with a
billion nanoseconds or more.
-/

namespace VariableBridge.Time

/-- A moment in universal time. -/
structure Instant where
  /-- Seconds since the start of 1970. -/
  seconds : Int
  /-- Nanoseconds after that second; in a leap second they are a billion or more. -/
  nanoseconds : Nat
  deriving DecidableEq, Repr, Inhabited

/-- Nanoseconds of one second. -/
def nanosecondsPerSecond : Nat := 1000000000

/-- The start of 1970. -/
def Instant.epoch : Instant := ⟨0, 0⟩

end VariableBridge.Time
