import AccessBroker.Text.Decimal

/-! # Double precision numbers in JSON text

A finite double is held by its bits.  `Double.ofParts` is the rule by which
decimal text becomes a double: the leading digits, as many as fit 64 bits, are
scaled by one power of ten at a time, and every step rounds.  `Double.chars` is
the shortest text that names the double among its neighbours.
-/

namespace AccessBroker.Json

/-- How many fractions a double can have: two to the 52nd power. -/
def fractionCount : Nat := 4503599627370496

/-- The exponent in the bits of a double, above the fraction and below the sign. -/
def exponentField (bits : UInt64) : Nat :=
  bits.toNat / fractionCount % 2048

/-- A finite double precision number. -/
structure Double where
  bits : UInt64
  finite : exponentField bits ≠ 2047
deriving DecidableEq

namespace Double

def toFloat (d : Double) : Float :=
  Float.ofBits d.bits

/-- The float as a double, if it is a number and not infinite. -/
def ofFloat? (f : Float) : Option Double :=
  if h : exponentField f.toBits ≠ 2047 then some ⟨f.toBits, h⟩ else none

/-- Positive and negative zero are the same number. -/
def isZero (d : Double) : Bool :=
  d.bits.toNat % 9223372036854775808 == 0

/-- Equality of numbers, which does not see the sign of zero. -/
def sameNumber (a b : Double) : Bool :=
  a.bits == b.bits || (a.isZero && b.isZero)

def negative (d : Double) : Bool :=
  9223372036854775808 ≤ d.bits.toNat

/-! ## From decimal parts -/

/-- The largest power of ten that is a double. -/
def maxPower : Nat := 308

def powerOfTen (k : Nat) : Float :=
  Float.ofScientific 1 false k

/-- The product of `f` and ten to the `exponent`; none when it is too large. -/
def scale (f : Float) (exponent : Int) : Option Float :=
  if exponent.natAbs ≤ maxPower then
    if 0 ≤ exponent then
      let scaled := f * powerOfTen exponent.natAbs
      if scaled.isInf then none else some scaled
    else
      some (f / powerOfTen exponent.natAbs)
  else if f == 0 then some f
  else if 0 ≤ exponent then none
  else scale (f / powerOfTen maxPower) (exponent + maxPower)
termination_by exponent.natAbs
decreasing_by
  simp only [maxPower] at *
  omega

/-- The double for a sign, the leading digits and a decimal exponent. -/
def ofParts (isNegative : Bool) (significand : Nat) (exponent : Int) : Option Double :=
  match scale (UInt64.ofNat significand).toFloat exponent with
  | some f => ofFloat? (if isNegative then -f else f)
  | none => none

/-! ## Shortest text -/

/-- A positive value `mantissa * 2 ^ exponent`, with the interval of reals that round to it: in
units of a quarter of the last place, `below` under it and `above` over it. -/
structure Span where
  mantissa : Nat
  exponent : Int
  below : Nat
  above : Nat

/-- The magnitude of a double. -/
def span (d : Double) : Span :=
  let field := exponentField d.bits
  let fraction := d.bits.toNat % fractionCount
  if field = 0 then ⟨fraction, -1074, 2, 2⟩
  else
    let atPower := fraction = 0 ∧ 1 < field
    ⟨fractionCount + fraction, (field : Int) - 1075, if atPower then 1 else 2, 2⟩

namespace Span

/-- Whether `digits * 10 ^ power` lies in the interval, whose ends belong to it when the mantissa
is even. -/
def holds (s : Span) (digits : Nat) (power : Int) : Bool :=
  let twos := s.exponent - 2
  let point := digits * Nat.pow 10 power.toNat * Nat.pow 2 (-twos).toNat
  let unit := Nat.pow 10 (-power).toNat * Nat.pow 2 twos.toNat
  let low := (4 * s.mantissa - s.below) * unit
  let high := (4 * s.mantissa + s.above) * unit
  if s.mantissa % 2 = 0 then low ≤ point && point ≤ high else low < point && point < high

/-- The largest multiple of `10 ^ power` that is at most the value, in units of `10 ^ power`, and
whether the next multiple is strictly nearer. -/
def floorDigits (s : Span) (power : Int) : Nat × Bool :=
  let num := s.mantissa * Nat.pow 2 s.exponent.toNat * Nat.pow 10 (-power).toNat
  let den := Nat.pow 2 (-s.exponent).toNat * Nat.pow 10 power.toNat
  let low := num / den
  let twice := 2 * (num % den)
  (low, den < twice || (twice == den && low % 2 == 1))

/-- A decimal of the grid `10 ^ power` inside the interval, the nearer one if there are two. -/
def onGrid (s : Span) (power : Int) : Option Nat :=
  let (low, upNearer) := s.floorDigits power
  match s.holds low power, s.holds (low + 1) power with
  | true, true => some (if upNearer then low + 1 else low)
  | true, false => some low
  | false, true => some (low + 1)
  | false, false => none

/-- Tries the grids from `10 ^ power` down to finer ones. -/
def search (s : Span) (power : Int) : Nat → Nat × Int
  | 0 => ((s.floorDigits power).1, power)
  | tries + 1 =>
    match s.onGrid power with
    | some digits => if digits = 0 then search s (power - 1) tries else (digits, power)
    | none => search s (power - 1) tries

/-- The largest power of ten that can be at most the value, by the length of its binary form. -/
def topPower (s : Span) : Int :=
  (((Nat.log2 s.mantissa : Int) + s.exponent + 1) * 30103).fdiv 100000 + 1

end Span

/-- Drops the zeros at the end of a number and counts them into the power. -/
def dropZeros (digits : Nat) (power : Int) : Nat → Nat × Int
  | 0 => (digits, power)
  | tries + 1 =>
    if digits % 10 = 0 ∧ digits ≠ 0 then dropZeros (digits / 10) (power + 1) tries
    else (digits, power)

/-- The fewest digits, and their power of ten, that lie nearest to this double among all doubles. -/
def shortest (d : Double) : Nat × Int :=
  let s := d.span
  let (digits, power) := s.search s.topPower 20
  dropZeros digits power 20

/-- Digits with their power of ten: positional below `10 ^ 16` and from `10 ^ -5` on, and always
with a point; otherwise one digit before the point and a signed exponent. -/
def layout (digits : List Char) (power : Int) : List Char :=
  let point : Int := digits.length + power
  if 0 ≤ power ∧ point ≤ 16 then
    digits ++ List.replicate power.toNat '0' ++ ['.', '0']
  else if 0 < point ∧ point ≤ 16 then
    digits.take point.toNat ++ '.' :: digits.drop point.toNat
  else if -5 < point ∧ point ≤ 0 then
    '0' :: '.' :: List.replicate (-point).toNat '0' ++ digits
  else
    let exponent := point - 1
    let sign := if 0 ≤ exponent then '+' else '-'
    let tail := 'e' :: sign :: Text.natChars exponent.natAbs
    match digits with
    | [] => tail
    | [d] => d :: tail
    | d :: more => d :: '.' :: more ++ tail

/-- The shortest text that reads back. -/
def chars (d : Double) : List Char :=
  let body :=
    if d.isZero then ['0', '.', '0']
    else
      let (digits, power) := d.shortest
      layout (Text.natChars digits) power
  if d.negative then '-' :: body else body

end Double

end AccessBroker.Json
