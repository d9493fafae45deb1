import AccessBroker.Json.Value

/-! # Numbers as they are written

A number without point and exponent is an integer if 64 bits hold it.  All
others become doubles from their leading digits, as many as fit 64 bits; a
number too large for a double has no value.
-/

namespace AccessBroker.Json

/-- The value of a number: an integer of 64 bits or a double. -/
inductive Number where
  | whole (value : Whole)
  | double (value : Double)
deriving DecidableEq

def Number.toJson : Number → Json
  | .whole w => .whole w
  | .double d => .double d

/-- The parts of a written number: sign, digits before the point, digits after it, and the sign
and digits of the exponent. -/
structure NumberText where
  negative : Bool
  whole : List Char
  fraction : Option (List Char)
  exponent : Option (Bool × List Char)
deriving DecidableEq

namespace NumberText

/-- Appends digits to a number while it stays below `bound`; the digits left over are returned. -/
def absorb (bound : Nat) (n : Nat) : List Char → Nat × List Char
  | [] => (n, [])
  | d :: ds =>
    let next := n * 10 + Text.digitValue d
    if next < bound then absorb bound next ds else (n, d :: ds)

/-- The largest exponent that is counted; beyond it only its sign matters. -/
def exponentBound : Nat := 2147483648

/-- The digits as far as 64 bits hold them, with the power of ten that the rest amounts to. -/
def significand (n : NumberText) : Nat × Int :=
  let (head, excess) := absorb 18446744073709551616 0 n.whole
  match n.fraction with
  | none => (head, excess.length)
  | some digits =>
    let (all, unread) := absorb 18446744073709551616 head digits
    (all, (excess.length : Int) - (digits.length - unread.length : Nat))

/-- The double that the number writes, if it is not too large. -/
def double? (n : NumberText) : Option Double :=
  let (digits, power) := n.significand
  match n.exponent with
  | none => Double.ofParts n.negative digits power
  | some (below, written) =>
    match absorb exponentBound 0 written with
    | (e, []) => Double.ofParts n.negative digits (if below then power - e else power + e)
    | (_, _ :: _) =>
      if digits ≠ 0 ∧ !below then none else Double.ofParts n.negative 0 0

/-- The integer that the number writes, if it is written as one and 64 bits hold it. -/
def whole? (n : NumberText) : Option Whole :=
  match n.fraction, n.exponent with
  | none, none =>
    let digits := Text.digitsValue n.whole
    if n.negative then
      if digits = 0 then none
      else if h : digits ≤ 9223372036854775808 then some ⟨-digits, by omega, by omega⟩
      else none
    else if h : digits < 18446744073709551616 then some ⟨digits, by omega, by omega⟩
    else none
  | _, _ => none

/-- The value of a number, if it is not too large for a double. -/
def value? (n : NumberText) : Option Number :=
  match n.whole? with
  | some w => some (.whole w)
  | none => n.double?.map .double

end NumberText

end AccessBroker.Json
