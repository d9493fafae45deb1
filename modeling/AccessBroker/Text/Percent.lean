/-! # Percent encoding

A byte is written as a percent sign and two hexadecimal digits, in either case.
A percent sign that two digits do not follow stands for itself, and so does
every other byte.  What comes out may or may not be text.
-/

namespace AccessBroker.Text

def hexDigit? (b : UInt8) : Option UInt8 :=
  if 0x30 ≤ b ∧ b ≤ 0x39 then some (b - 0x30)
  else if 0x41 ≤ b ∧ b ≤ 0x46 then some (b - 0x37)
  else if 0x61 ≤ b ∧ b ≤ 0x66 then some (b - 0x57)
  else none

def hexByte? (high low : UInt8) : Option UInt8 := do
  return (← hexDigit? high) * 16 + (← hexDigit? low)

/-- The bytes that percent-encoded bytes stand for. -/
def percentDecode : List UInt8 → List UInt8
  | [] => []
  | 0x25 :: high :: low :: rest =>
    match hexByte? high low with
    | some b => b :: percentDecode rest
    | none => 0x25 :: percentDecode (high :: low :: rest)
  | b :: rest => b :: percentDecode rest

def bytes (s : String) : List UInt8 :=
  s.toUTF8.data.toList

/-- The text that bytes write in UTF-8, if they do. -/
def ofBytes? (bs : List UInt8) : Option String :=
  String.fromUTF8? ⟨bs.toArray⟩

/-- The text that a percent-encoded text stands for, if it stands for one. -/
def percentDecoded? (s : String) : Option String :=
  ofBytes? (percentDecode (bytes s))

end AccessBroker.Text
