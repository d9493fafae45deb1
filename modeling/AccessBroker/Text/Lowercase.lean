import AccessBroker.Text.Blank
import AccessBroker.Text.CaseTable

/-! # Lower case and normal names

`lower` is the full lower case of Unicode: one character may become two
(U+0130), and a capital sigma becomes the final form when it ends a word.
`normalize`, trimming and then lower case, is the form in which names are
stored and compared everywhere.
-/

namespace AccessBroker.Text

/-- The lower case of one character where that is a single character. -/
def lowerChar (c : Char) : Char :=
  if c.toNat < 0x80 then
    if c.isUpper then Char.ofNat (c.toNat + 0x20) else c
  else
    match lowerRuns.find? (·.covers c.toNat) with
    | some r => Char.ofNat (r.target + (c.toNat - r.first))
    | none => c

def isCased (c : Char) : Bool :=
  inRanges casedRanges c.toNat

def isCaseIgnorable (c : Char) : Bool :=
  inRanges caseIgnorableRanges c.toNat

/-- Whether the first character that is not case-ignorable is a cased one. -/
def startsCased (cs : List Char) : Bool :=
  match cs.dropWhile isCaseIgnorable with
  | c :: _ => isCased c
  | [] => false

/-- Capital sigma, the one letter whose lower case depends on its place in the word. -/
def capitalSigma : Char := 'Σ'

/-- A sigma is final when a letter comes before it and none after it. -/
def lowerSigma (before after : List Char) : Char :=
  if startsCased before && !startsCased after then 'ς' else 'σ'

/-- Lower case of `cs`, which stands after the characters `before` (nearest first). -/
def lowerFrom (before : List Char) : List Char → List Char
  | [] => []
  | c :: rest =>
    let tail := lowerFrom (c :: before) rest
    if c = capitalSigma then lowerSigma before rest :: tail
    else if c = 'İ' then 'i' :: '\u0307' :: tail
    else lowerChar c :: tail

def lower (s : String) : String :=
  String.ofList (lowerFrom [] s.toList)

/-- The form in which names are stored and compared. -/
def normalize (s : String) : String :=
  lower (trim s)

theorem normalize_trim (s : String) : normalize (trim s) = normalize s := by
  rw [normalize, trim_trim, normalize]

/-- Lower case of the letters A to Z only. -/
def lowerAscii (s : String) : String :=
  s.map fun c => if c.isUpper then Char.ofNat (c.toNat + 0x20) else c

/-- Equality up to the case of the letters A to Z. -/
def sameAscii (s t : String) : Bool :=
  lowerAscii s == lowerAscii t

end AccessBroker.Text
