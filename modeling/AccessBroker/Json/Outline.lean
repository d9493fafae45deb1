import AccessBroker.Json.Number

/-! # Outlines of JSON texts

An outline is all that can be told of a text before its meaning matters: the
brackets, the strings, the numbers as written, and the place where the text
stops being JSON.  A reader of records takes from it what it needs, in the
order of the text, so that a fault of form and a fault of content are told
apart by which comes first.
-/

namespace AccessBroker.Json

/-- A JSON text as far as it is well formed.  A number without value is too large for a double; a
string or a name without text holds half of a surrogate pair.  A list that is not closed is
followed by something that is not JSON. -/
inductive Outline where
  | null
  | bool (value : Bool)
  | number (value : Option Number)
  | string (value : Option String)
  | array (items : List Outline) (closed : Bool)
  | object (members : List (Option String × Outline)) (closed : Bool)
  | broken
deriving Inhabited

/-- What is left of a text after something was read from it. -/
abbrev Rest (cs : List Char) := { r : List Char // r.length < cs.length }

namespace Rest

/-- What is left of the tail is also left of the whole. -/
def later {cs ds : List Char} (h : cs.length ≤ ds.length) (r : Rest cs) : Rest ds :=
  ⟨r.1, Nat.lt_of_lt_of_le r.2 h⟩

end Rest

def isSpace (c : Char) : Bool :=
  c == ' ' || c == '\n' || c == '\t' || c == '\r'

def skipSpace (cs : List Char) : List Char :=
  cs.dropWhile isSpace

theorem length_skipSpace_le (cs : List Char) : (skipSpace cs).length ≤ cs.length :=
  (List.dropWhile_sublist _).length_le

theorem length_of_skipSpace {cs r : List Char} {c : Char} (h : skipSpace cs = c :: r) :
    r.length < cs.length := by
  have := length_skipSpace_le cs
  rw [h, List.length_cons] at this
  omega

/-! ## Strings -/

def hexValue? (c : Char) : Option Nat :=
  if '0' ≤ c ∧ c ≤ '9' then some (c.toNat - 0x30)
  else if 'a' ≤ c ∧ c ≤ 'f' then some (c.toNat - 0x57)
  else if 'A' ≤ c ∧ c ≤ 'F' then some (c.toNat - 0x37)
  else none

/-- The number that four hexadecimal digits write. -/
def hexQuad? (a b c d : Char) : Option Nat :=
  match hexValue? a, hexValue? b, hexValue? c, hexValue? d with
  | some a, some b, some c, some d => some (((a * 16 + b) * 16 + c) * 16 + d)
  | _, _, _, _ => none

/-- The character that a one-letter escape stands for. -/
def shortEscape? (c : Char) : Option Char :=
  match c with
  | '"' => some '"'
  | '\\' => some '\\'
  | '/' => some '/'
  | 'b' => some '\x08'
  | 'f' => some '\x0c'
  | 'n' => some '\n'
  | 'r' => some '\r'
  | 't' => some '\t'
  | _ => none

/-- The body of a string, escapes unread, and what follows its closing quote. -/
def scanString (read : List Char) : List Char → Option (List Char × List Char)
  | [] => none
  | '"' :: rest => some (read.reverse, rest)
  | '\\' :: 'u' :: a :: b :: c :: d :: rest =>
    if (hexQuad? a b c d).isSome then
      scanString (d :: c :: b :: a :: 'u' :: '\\' :: read) rest
    else none
  | '\\' :: e :: rest =>
    if (shortEscape? e).isSome then scanString (e :: '\\' :: read) rest else none
  | c :: rest => if c = '\\' ∨ c.toNat < 0x20 then none else scanString (c :: read) rest

theorem length_of_scanString {read cs body rest : List Char}
    (h : scanString read cs = some (body, rest)) : rest.length < cs.length := by
  fun_induction scanString read cs <;> simp_all <;> omega

/-- The text that the body of a string stands for; none when it holds half a surrogate pair. -/
def unescape (read : List Char) : List Char → Option (List Char)
  | [] => some read.reverse
  | '\\' :: 'u' :: a :: b :: c :: d :: rest =>
    match hexQuad? a b c d with
    | none => none
    | some n =>
      if 0xdc00 ≤ n ∧ n ≤ 0xdfff then none
      else if 0xd800 ≤ n ∧ n ≤ 0xdbff then
        match rest with
        | '\\' :: 'u' :: e :: f :: g :: h :: rest =>
          match hexQuad? e f g h with
          | none => none
          | some m =>
            if 0xdc00 ≤ m ∧ m ≤ 0xdfff then
              unescape (Char.ofNat (0x10000 + (n - 0xd800) * 0x400 + (m - 0xdc00)) :: read) rest
            else none
        | _ => none
      else unescape (Char.ofNat n :: read) rest
  | '\\' :: e :: rest =>
    match shortEscape? e with
    | some c => unescape (c :: read) rest
    | none => none
  | c :: rest => unescape (c :: read) rest

def bodyText? (body : List Char) : Option String :=
  (unescape [] body).map String.ofList

/-! ## Numbers -/

/-- The exponent of a number; none if it has a mark but no digits. -/
def scanExponent (cs : List Char) : Option (Option (Bool × List Char) × List Char) :=
  let digits (below : Bool) (cs : List Char) :=
    match cs.takeWhile Char.isDigit with
    | [] => none
    | ds => some (some (below, ds), cs.dropWhile Char.isDigit)
  match cs with
  | c :: rest =>
    if c = 'e' ∨ c = 'E' then
      match rest with
      | '+' :: rest => digits false rest
      | '-' :: rest => digits true rest
      | _ => digits false rest
    else some (none, cs)
  | [] => some (none, [])

/-- The digits after the point of a number; none if it has a point but no digits. -/
def scanFraction (cs : List Char) : Option (Option (List Char) × List Char) :=
  match cs with
  | '.' :: rest =>
    match rest.takeWhile Char.isDigit with
    | [] => none
    | ds => some (some ds, rest.dropWhile Char.isDigit)
  | _ => some (none, cs)

/-- The digits before the point; a zero stands alone. -/
def scanWhole (cs : List Char) : Option (List Char × List Char) :=
  match cs.takeWhile Char.isDigit with
  | [] => none
  | '0' :: _ :: _ => none
  | ds => some (ds, cs.dropWhile Char.isDigit)

def scanUnsigned (negative : Bool) (cs : List Char) : Option (NumberText × List Char) :=
  match scanWhole cs with
  | none => none
  | some (whole, rest) =>
    match scanFraction rest with
    | none => none
    | some (fraction, rest) =>
      match scanExponent rest with
      | none => none
      | some (exponent, rest) => some (⟨negative, whole, fraction, exponent⟩, rest)

def scanNumber (cs : List Char) : Option (NumberText × List Char) :=
  match cs with
  | '-' :: rest => scanUnsigned true rest
  | _ => scanUnsigned false cs

theorem length_of_scanExponent {cs rest : List Char} {e : Option (Bool × List Char)}
    (h : scanExponent cs = some (e, rest)) : rest.length ≤ cs.length := by
  have drop (ds : List Char) : (ds.dropWhile Char.isDigit).length ≤ ds.length :=
    (List.dropWhile_sublist _).length_le
  simp only [scanExponent] at h
  grind

theorem length_of_scanFraction {cs rest : List Char} {f : Option (List Char)}
    (h : scanFraction cs = some (f, rest)) : rest.length ≤ cs.length := by
  have drop (ds : List Char) : (ds.dropWhile Char.isDigit).length ≤ ds.length :=
    (List.dropWhile_sublist _).length_le
  simp only [scanFraction] at h
  grind

theorem length_of_scanWhole {cs ds rest : List Char} (h : scanWhole cs = some (ds, rest)) :
    rest.length < cs.length := by
  have both : (cs.takeWhile Char.isDigit ++ cs.dropWhile Char.isDigit).length = cs.length := by
    rw [List.takeWhile_append_dropWhile]
  simp only [scanWhole] at h
  simp only [List.length_append] at both
  split at h
  · simp at h
  · simp at h
  · rename_i taken nonempty _
    obtain ⟨rfl, rfl⟩ := by simpa using h
    have := List.length_pos_iff.2 nonempty
    omega

theorem length_of_scanUnsigned {negative : Bool} {cs rest : List Char} {n : NumberText}
    (h : scanUnsigned negative cs = some (n, rest)) : rest.length < cs.length := by
  simp only [scanUnsigned] at h
  split at h
  · simp at h
  · rename_i hw
    split at h
    · simp at h
    · rename_i hf
      split at h
      · simp at h
      · rename_i he
        obtain ⟨rfl, rfl⟩ := by simpa using h
        have := length_of_scanWhole hw
        have := length_of_scanFraction hf
        have := length_of_scanExponent he
        omega

theorem length_of_scanNumber {cs rest : List Char} {n : NumberText}
    (h : scanNumber cs = some (n, rest)) : rest.length < cs.length := by
  simp only [scanNumber] at h
  split at h
  · have := length_of_scanUnsigned h
    simp
    omega
  · exact length_of_scanUnsigned h

/-! ## Values -/

/-- A word read whole, or nothing. -/
def readWord (word : List Char) (value : Outline) (cs : List Char) : Outline × Option (Rest cs) :=
  if word.isPrefixOf cs then
    if h : (cs.drop word.length).length < cs.length then (value, some ⟨_, h⟩) else (.broken, none)
  else (.broken, none)

mutual

/-- The value at the start of a text, and what follows it unless the text breaks off. -/
def readValue (cs : List Char) : Outline × Option (Rest cs) :=
  match cs with
  | [] => (.broken, none)
  | '"' :: tail =>
    match h : scanString [] tail with
    | some (body, rest) =>
      (.string (bodyText? body), some ⟨rest, by have := length_of_scanString h; simp; omega⟩)
    | none => (.broken, none)
  | '[' :: tail =>
    match h : skipSpace tail with
    | ']' :: rest =>
      (.array [] true, some ⟨rest, by have := length_of_skipSpace h; simp; omega⟩)
    | _ =>
      let (items, rest) := readItems tail
      (.array items rest.isSome, rest.map (·.later (by simp)))
  | '\x7b' :: tail =>
    match h : skipSpace tail with
    | '\x7d' :: rest =>
      (.object [] true, some ⟨rest, by have := length_of_skipSpace h; simp; omega⟩)
    | _ =>
      let (members, rest) := readMembers tail
      (.object members rest.isSome, rest.map (·.later (by simp)))
  | 'n' :: tail => readWord ['n', 'u', 'l', 'l'] .null ('n' :: tail)
  | 't' :: tail => readWord ['t', 'r', 'u', 'e'] (.bool true) ('t' :: tail)
  | 'f' :: tail => readWord ['f', 'a', 'l', 's', 'e'] (.bool false) ('f' :: tail)
  | c :: tail =>
    match h : scanNumber (c :: tail) with
    | some (number, rest) => (.number number.value?, some ⟨rest, length_of_scanNumber h⟩)
    | none => (.broken, none)
termination_by 2 * cs.length

/-- The items of an array from the next one on, and what follows the closing bracket. -/
def readItems (cs : List Char) : List Outline × Option (Rest cs) :=
  have start := length_skipSpace_le cs
  match readValue (skipSpace cs) with
  | (item, none) => ([item], none)
  | (item, some rest) =>
    match h : skipSpace rest.1 with
    | ']' :: after =>
      ([item], some ⟨after, by have := length_of_skipSpace h; have := rest.2; omega⟩)
    | ',' :: after =>
      have shorter : after.length < cs.length := by
        have := length_of_skipSpace h
        have := rest.2
        omega
      let (items, rest) := readItems after
      (item :: items, rest.map (·.later (Nat.le_of_lt shorter)))
    | _ => ([item], none)
termination_by 2 * cs.length + 1

/-- The members of an object from the next one on, and what follows the closing brace. -/
def readMembers (cs : List Char) : List (Option String × Outline) × Option (Rest cs) :=
  match h : skipSpace cs with
  | '"' :: tail =>
    match h₁ : scanString [] tail with
    | none => ([], none)
    | some (body, afterName) =>
      match h₂ : skipSpace afterName with
      | ':' :: beforeValue =>
        have shorter : (skipSpace beforeValue).length < cs.length := by
          have := length_of_skipSpace h
          have := length_of_scanString h₁
          have := length_of_skipSpace h₂
          have := length_skipSpace_le beforeValue
          omega
        match readValue (skipSpace beforeValue) with
        | (value, none) => ([(bodyText? body, value)], none)
        | (value, some rest) =>
          match h₃ : skipSpace rest.1 with
          | '\x7d' :: after =>
            ([(bodyText? body, value)],
              some ⟨after, by have := length_of_skipSpace h₃; have := rest.2; omega⟩)
          | ',' :: after =>
            have shorter : after.length < cs.length := by
              have := length_of_skipSpace h₃
              have := rest.2
              omega
            let (members, rest) := readMembers after
            ((bodyText? body, value) :: members, rest.map (·.later (Nat.le_of_lt shorter)))
          | _ => ([(bodyText? body, value)], none)
      | _ => ([(bodyText? body, .broken)], none)
  | _ => ([], none)
termination_by 2 * cs.length + 1

end

/-- The outline of the value that a text starts with, and whether only space follows it. -/
def outline (cs : List Char) : Outline × Bool :=
  match readValue (skipSpace cs) with
  | (value, some rest) => (value, (skipSpace rest.1).isEmpty)
  | (value, none) => (value, false)

namespace Outline

mutual
/-- Whether the outline is of well-formed text throughout. -/
def complete : Outline → Bool
  | .broken => false
  | .array items closed => closed && completeItems items
  | .object members closed => closed && completeMembers members
  | _ => true
def completeItems : List Outline → Bool
  | [] => true
  | x :: rest => x.complete && completeItems rest
def completeMembers : List (Option String × Outline) → Bool
  | [] => true
  | (_, x) :: rest => x.complete && completeMembers rest
end

mutual
/-- The value of an outline that nests at most `room` levels deep; none for text that breaks off,
half a surrogate pair, or a number too large. -/
def value? (room : Nat) : Outline → Option Json
  | .null => some .null
  | .bool b => some (.bool b)
  | .number n => n.map Number.toJson
  | .string s => s.map .string
  | .array items closed =>
    match room with
    | 0 => none
    | room + 1 => if closed then (values? room items).map .array else none
  | .object members closed =>
    match room with
    | 0 => none
    | room + 1 => if closed then (memberValues? room members).map .object else none
  | .broken => none
def values? (room : Nat) : List Outline → Option (List Json)
  | [] => some []
  | x :: rest =>
    match value? room x with
    | none => none
    | some v => (values? room rest).map (v :: ·)
def memberValues? (room : Nat) :
    List (Option String × Outline) → Option (List (String × Json))
  | [] => some []
  | (none, _) :: _ => none
  | (some name, x) :: rest =>
    match value? room x with
    | none => none
    | some v => (memberValues? room rest).map ((name, v) :: ·)
end

mutual
def ofTree : Tree → Outline
  | .null => .null
  | .bool b => .bool b
  | .whole w => .number (some (.whole w))
  | .double d => .number (some (.double d))
  | .string s => .string (some s)
  | .array items => .array (ofTrees items) true
  | .object members => .object (ofMembers members) true
def ofTrees : List Tree → List Outline
  | [] => []
  | x :: rest => ofTree x :: ofTrees rest
def ofMembers : List (String × Tree) → List (Option String × Outline)
  | [] => []
  | (name, x) :: rest => (some name, ofTree x) :: ofMembers rest
end

end Outline

/-- The deepest nesting that a reader follows. -/
def maxDepth : Nat := 127

def parse (s : String) : Option Json :=
  match outline s.toList with
  | (value, true) => value.value? maxDepth
  | (_, false) => none

end AccessBroker.Json
