import AccessBroker.Text.Decimal

/-! # Integers of a bounded range

A text of decimal digits with an optional sign.  A minus sign is only a sign if
the range has negative numbers.  Leading zeros are allowed.  The digits are
read from the left, and the first fault counts.
-/

namespace AccessBroker.Text

structure IntegerRange where
  low : Int
  high : Int
deriving DecidableEq, Repr

namespace IntegerRange

def natural (bits : Nat) : IntegerRange := ⟨0, .ofNat (Nat.pow 2 bits - 1)⟩

/-- The integers of some bits, in two's complement. -/
def signed (bits : Nat) : IntegerRange :=
  ⟨-.ofNat (Nat.pow 2 (bits - 1)), .ofNat (Nat.pow 2 (bits - 1) - 1)⟩

def contains (range : IntegerRange) (i : Int) : Bool :=
  range.low ≤ i && i ≤ range.high

end IntegerRange

/-- Why a text is not an integer of a range. -/
inductive IntegerFault where
  | empty
  | invalidDigit
  | tooLarge
  | tooSmall
deriving DecidableEq, Repr

def IntegerFault.message : IntegerFault → String
  | empty => "cannot parse integer from empty string"
  | invalidDigit => "invalid digit found in string"
  | tooLarge => "number too large to fit in target type"
  | tooSmall => "number too small to fit in target type"

/-- Reads digits that make a number of at most `bound`. -/
def readDigits (bound : Nat) (tooFar : IntegerFault) (cs : List Char) : Except IntegerFault Nat :=
  let digits := cs.takeWhile Char.isDigit
  if bound < digitsValue digits then .error tooFar
  else if digits.isEmpty || digits.length < cs.length then .error .invalidDigit
  else .ok (digitsValue digits)

def readInteger (range : IntegerRange) (cs : List Char) : Except IntegerFault Int :=
  match cs with
  | [] => .error .empty
  | '-' :: digits =>
    if range.low < 0 then
      (readDigits range.low.natAbs .tooSmall digits).map fun n => -(n : Int)
    else .error .invalidDigit
  | '+' :: digits => (readDigits range.high.toNat .tooLarge digits).map Int.ofNat
  | digits => (readDigits range.high.toNat .tooLarge digits).map Int.ofNat

def integer (range : IntegerRange) (s : String) : Except IntegerFault Int :=
  readInteger range s.toList

/-- The natural number of some bits that a text writes. -/
def natural (bits : Nat) (s : String) : Except IntegerFault Nat :=
  (integer (.natural bits) s).map Int.toNat

end AccessBroker.Text
