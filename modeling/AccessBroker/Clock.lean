import AccessBroker.Json.Tree

/-! # Time

The clock counts microseconds since the epoch, and a calendar of half a million
years bounds it; what is stored is whole seconds, rounded down, in the signed
64-bit range.
-/

namespace AccessBroker

/-- Seconds since the epoch, in the signed 64-bit range. -/
structure Timestamp where
  seconds : Int
  lower : -9223372036854775808 ≤ seconds
  upper : seconds < 9223372036854775808

namespace Timestamp

theorem eq_of_seconds_eq {a b : Timestamp} (h : a.seconds = b.seconds) : a = b := by
  cases a
  cases b
  cases h
  rfl

instance : DecidableEq Timestamp := fun a b =>
  decidable_of_iff (a.seconds = b.seconds) ⟨eq_of_seconds_eq, congrArg seconds⟩

/-- The timestamp nearest to a number of seconds. -/
def clamp (seconds : Int) : Timestamp where
  seconds := max (-9223372036854775808) (min seconds 9223372036854775807)
  lower := by omega
  upper := by omega

instance : Inhabited Timestamp := ⟨clamp 0⟩

instance : LE Timestamp := ⟨fun a b => a.seconds ≤ b.seconds⟩
instance : LT Timestamp := ⟨fun a b => a.seconds < b.seconds⟩
instance (a b : Timestamp) : Decidable (a ≤ b) := inferInstanceAs (Decidable (a.seconds ≤ b.seconds))
instance (a b : Timestamp) : Decidable (a < b) := inferInstanceAs (Decidable (a.seconds < b.seconds))

theorem seconds_clamp {s : Int} (lower : -9223372036854775808 ≤ s) (upper : s < 9223372036854775808) :
    (clamp s).seconds = s := by
  simp only [clamp]
  omega

/-- The seconds from `earlier` to `t`, at most what 64 bits hold. -/
def since (t earlier : Timestamp) : Int :=
  (clamp (t.seconds - earlier.seconds)).seconds

/-- The moment some seconds later, at most the last one that 64 bits hold. -/
def plus (t : Timestamp) (seconds : Int) : Timestamp :=
  clamp (t.seconds + seconds)

def toTree (t : Timestamp) : Json.Tree :=
  .whole ⟨t.seconds, t.lower, by have := t.upper; omega⟩

end Timestamp

/-- A reading of the clock, from the first microsecond of the year -262143 to the last one of the
year 262142. -/
structure Instant where
  micros : Int
  earliest : -8334601228800000000 ≤ micros
  latest : micros < 8210266876800000000

namespace Instant

instance : Inhabited Instant := ⟨⟨0, by decide, by decide⟩⟩

/-- The instant of a number of microseconds, if the clock can show it. -/
def ofMicros? (micros : Int) : Option Instant :=
  if h : -8334601228800000000 ≤ micros ∧ micros < 8210266876800000000 then
    some ⟨micros, h.1, h.2⟩
  else none

/-- The instant some microseconds later, if the clock can show it. -/
def later? (i : Instant) (distance : Int) : Option Instant :=
  ofMicros? (i.micros + distance)

/-- The whole second that the instant lies in. -/
def timestamp (i : Instant) : Timestamp where
  seconds := i.micros / 1000000
  lower := by have := i.earliest; omega
  upper := by have := i.latest; omega

end Instant

end AccessBroker
