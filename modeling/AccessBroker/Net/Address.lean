import AccessBroker.Text.Decimal

/-! # Internet addresses

Four octets written in decimal and joined by dots, or eight groups of sixteen
bits written in hexadecimal and joined by colons.  One run of zero groups may
be left out, and the last two groups may be written as four octets.
-/

namespace AccessBroker

inductive Address where
  /-- Four numbers below 256. -/
  | v4 (octets : List Nat)
  /-- Eight numbers below 65536. -/
  | v6 (groups : List Nat)
deriving DecidableEq, Repr

namespace Address

def hexValue? (c : Char) : Option Nat :=
  if c.isDigit then some (c.toNat - 0x30)
  else if 'a' ≤ c ∧ c ≤ 'f' then some (c.toNat - 0x57)
  else if 'A' ≤ c ∧ c ≤ 'F' then some (c.toNat - 0x37)
  else none

/-- Reads an octet: up to three digits, and no zero before another digit. -/
def readOctet (cs : List Char) : Option (Nat × List Char) :=
  let digits := cs.takeWhile Char.isDigit
  let value := Text.digitsValue digits
  if digits.isEmpty || 3 < digits.length || 255 < value then none
  else if digits.head? = some '0' ∧ 1 < digits.length then none
  else some (value, cs.dropWhile Char.isDigit)

/-- Reads a group: up to four hexadecimal digits. -/
def readGroup (cs : List Char) : Option (Nat × List Char) :=
  let digits := cs.takeWhile fun c => (hexValue? c).isSome
  if digits.isEmpty || 4 < digits.length then none
  else
    some (digits.foldl (fun n c => n * 16 + (hexValue? c).getD 0) 0,
      cs.dropWhile fun c => (hexValue? c).isSome)

def readSign (sign : Char) : List Char → Option (List Char)
  | c :: cs => if c = sign then some cs else none
  | [] => none

def readOctets (cs : List Char) : Option (List Nat × List Char) := do
  let (a, cs) ← readOctet cs
  let (b, cs) ← readOctet (← readSign '.' cs)
  let (c, cs) ← readOctet (← readSign '.' cs)
  let (d, cs) ← readOctet (← readSign '.' cs)
  return ([a, b, c, d], cs)

/-- The two groups that four octets make. -/
def groupsOf : List Nat → List Nat
  | [a, b, c, d] => [a * 256 + b, c * 256 + d]
  | _ => []

/-- What was read of the groups: the groups, whether octets ended them, and the rest. -/
structure Groups where
  groups : List Nat
  byOctets : Bool
  rest : List Char

/-- Reads up to `limit` groups, with a colon before each but the first. -/
def readGroups (first : Bool) : (limit : Nat) → List Char → Groups
  | 0, cs => ⟨[], false, cs⟩
  | limit + 1, cs =>
    match if first then some cs else readSign ':' cs with
    | none => ⟨[], false, cs⟩
    | some start =>
      match if 0 < limit then readOctets start else none with
      | some (octets, rest) => ⟨groupsOf octets, true, rest⟩
      | none =>
        match readGroup start with
        | none => ⟨[], false, cs⟩
        | some (group, rest) =>
          let more := readGroups false limit rest
          { more with groups := group :: more.groups }

/-- Reads eight groups, of which a run of zeros may be left out. -/
def readV6 (cs : List Char) : Option (List Nat × List Char) := do
  let head := readGroups true 8 cs
  if head.groups.length = 8 then return (head.groups, head.rest)
  if head.byOctets then none
  let cs ← readSign ':' (← readSign ':' head.rest)
  let tail := readGroups true (7 - head.groups.length) cs
  let zeros := 8 - head.groups.length - tail.groups.length
  return (head.groups ++ List.replicate zeros 0 ++ tail.groups, tail.rest)

def parse? (s : String) : Option Address :=
  match readOctets s.toList with
  | some (octets, []) => some (.v4 octets)
  | some _ => none
  | none =>
    match readV6 s.toList with
    | some (groups, []) => some (.v6 groups)
    | _ => none

structure ZeroRun where
  start : Nat
  length : Nat

/-- The first of the longest runs of zero groups; `here` is the run that ends before `position`. -/
def longestZeros : (groups : List Nat) → (position : Nat) → (here best : ZeroRun) → ZeroRun
  | [], _, _, best => best
  | g :: groups, position, here, best =>
    if g = 0 then
      let here := if here.length = 0 then ⟨position, 1⟩ else ⟨here.start, here.length + 1⟩
      longestZeros groups (position + 1) here (if best.length < here.length then here else best)
    else longestZeros groups (position + 1) ⟨0, 0⟩ best

def octetsText (octets : List Nat) : String :=
  ".".intercalate (octets.map Text.natText)

def groupsText (groups : List Nat) : String :=
  ":".intercalate (groups.map fun g => String.ofList (Nat.toDigits 16 g))

/-- Eight groups with the longest run of at least two zeros left out.  A mapped address shows its
octets. -/
def v6Text (groups : List Nat) : String :=
  match groups with
  | [0, 0, 0, 0, 0, 0xffff, high, low] =>
    "::ffff:" ++ octetsText [high / 256, high % 256, low / 256, low % 256]
  | groups =>
    let zeros := longestZeros groups 0 ⟨0, 0⟩ ⟨0, 0⟩
    if 1 < zeros.length then
      groupsText (groups.take zeros.start) ++ "::" ++
        groupsText (groups.drop (zeros.start + zeros.length))
    else groupsText groups

def socketText (a : Address) (port : Nat) : String :=
  match a with
  | .v4 octets => octetsText octets ++ ":" ++ Text.natText port
  | .v6 groups => "[" ++ v6Text groups ++ "]:" ++ Text.natText port

end Address

end AccessBroker
