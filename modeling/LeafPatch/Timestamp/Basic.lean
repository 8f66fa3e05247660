import LeafPatch.Timestamp.Date

/-!
# Timestamps

A timestamp is an instant in universal time, to the nanosecond, given by its
calendar date and its time of day.  The extra second that ends a minute with a
leap second is second 59 with a thousand million nanoseconds or more.
-/

namespace LeafPatch

/-- How many nanoseconds a second has. -/
def nanosPerSecond : Nat :=
  1000000000

/-- An instant in universal time. -/
structure Timestamp where
  date : Date
  hour : Nat
  minute : Nat
  second : Nat
  nanos : Nat
  hour_lt : hour < 24
  minute_lt : minute < 60
  second_lt : second < 60
  nanos_lt : nanos < 2 * nanosPerSecond
  leap : nanosPerSecond ≤ nanos → second = 59
  deriving DecidableEq

namespace Timestamp

/-- The timestamp with the given fields, if they are in range. -/
def of?
    (date : Date)
    (hour minute second nanos : Nat) :
    Option Timestamp :=
  if bounds :
      hour < 24 ∧ minute < 60 ∧ second < 60
        ∧ nanos < 2 * nanosPerSecond
        ∧ (nanosPerSecond ≤ nanos → second = 59)
  then
    some ⟨date, hour, minute, second, nanos, bounds.1, bounds.2.1,
      bounds.2.2.1, bounds.2.2.2.1, bounds.2.2.2.2⟩
  else
    none

/--
The timestamp that many seconds and nanoseconds after the start of 1970; with a
thousand million nanoseconds or more it is in the leap second that follows.
-/
def ofUnix? (seconds : Int) (nanos : Nat) : Option Timestamp := do
  let date ← Date.ofUnixDay? (seconds / 86400)
  let rest := (seconds % 86400).toNat
  of? date (rest / 3600) (rest / 60 % 60) (rest % 60) nanos

end Timestamp

end LeafPatch
