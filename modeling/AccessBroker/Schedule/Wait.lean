/-! # Waits

A program waits for as long as it is asked to, but for no longer than thirty
years at a time.  All times are milliseconds.
-/

namespace AccessBroker.Wait

/-- Thirty years of 365 days. -/
def longest : Nat := 946080000000

/-- How long a wait lasts that is to last for `asked`. -/
def lasting (asked : Nat) : Nat :=
  min asked longest

theorem lasting_eq_self {asked : Nat} (h : asked ≤ longest) : lasting asked = asked :=
  Nat.min_eq_left h

end AccessBroker.Wait
