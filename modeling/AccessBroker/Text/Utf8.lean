/-! # Reading bytes that may not be text

Bytes are read as UTF-8.  Each longest beginning of a character that breaks off,
and each byte that begins none, becomes one replacement character.
-/

namespace AccessBroker.Text

/-- What stands for bytes that are no text. -/
def replacement : Char := '\ufffd'

/-- A character of which some bytes were read: how many bytes are missing, between which bounds
the next one lies, and the bits so far. -/
structure Opening where
  missing : Nat
  low : UInt8
  high : UInt8
  bits : Nat

/-- Reads a byte that begins a character. -/
def openChar (b : UInt8) : List Char × Option Opening :=
  let n := b.toNat
  if b < 0x80 then ([Char.ofNat n], none)
  else if 0xc2 ≤ b ∧ b ≤ 0xdf then ([], some ⟨1, 0x80, 0xbf, n - 0xc0⟩)
  else if 0xe0 ≤ b ∧ b ≤ 0xef then
    ([], some ⟨2, if b = 0xe0 then 0xa0 else 0x80, if b = 0xed then 0x9f else 0xbf, n - 0xe0⟩)
  else if 0xf0 ≤ b ∧ b ≤ 0xf4 then
    ([], some ⟨3, if b = 0xf0 then 0x90 else 0x80, if b = 0xf4 then 0x8f else 0xbf, n - 0xf0⟩)
  else ([replacement], none)

/-- Reads a byte after those of an opening. -/
def continueChar (o : Opening) (b : UInt8) : List Char × Option Opening :=
  if o.low ≤ b ∧ b ≤ o.high then
    let bits := o.bits * 64 + (b.toNat - 0x80)
    if o.missing ≤ 1 then ([Char.ofNat bits], none)
    else ([], some ⟨o.missing - 1, 0x80, 0xbf, bits⟩)
  else
    let (cs, next) := openChar b
    (replacement :: cs, next)

/-- The characters that bytes stand for, after an opening. -/
def readLossy : Option Opening → List UInt8 → List Char
  | none, [] => []
  | some _, [] => [replacement]
  | opening, b :: bs =>
    let (cs, next) :=
      match opening with
      | none => openChar b
      | some o => continueChar o b
    cs ++ readLossy next bs

/-- The text that bytes stand for. -/
def lossy (bs : List UInt8) : String :=
  String.ofList (readLossy none bs)

end AccessBroker.Text
