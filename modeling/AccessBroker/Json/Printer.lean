import AccessBroker.Json.Value

/-! # Printing JSON

The compact form: no spaces, members in the order in which the tree has them.
Each function puts its text in front of the text `rest`, so that a whole
document is written in one pass.
-/

namespace AccessBroker.Json

def hexDigit (n : Nat) : Char :=
  if n < 10 then Char.ofNat (0x30 + n) else Char.ofNat (0x57 + n)

/-- One character inside a string: quotes, backslashes and control characters are escaped. -/
def escape (c : Char) : List Char :=
  if c = '"' then ['\\', '"']
  else if c = '\\' then ['\\', '\\']
  else if c.toNat < 0x20 then
    match c.toNat with
    | 0x08 => ['\\', 'b']
    | 0x09 => ['\\', 't']
    | 0x0a => ['\\', 'n']
    | 0x0c => ['\\', 'f']
    | 0x0d => ['\\', 'r']
    | n => ['\\', 'u', '0', '0', hexDigit (n / 16), hexDigit (n % 16)]
  else [c]

/-- The characters of a string, escaped. -/
def writeChars : List Char → List Char → List Char
  | [], rest => rest
  | c :: cs, rest => escape c ++ writeChars cs rest

/-- A string between its quotes. -/
def writeString (s : String) (rest : List Char) : List Char :=
  '"' :: writeChars s.toList ('"' :: rest)

namespace Tree

mutual
/-- The tree in front of `rest`. -/
def write : Tree → List Char → List Char
  | .null, rest => 'n' :: 'u' :: 'l' :: 'l' :: rest
  | .bool true, rest => 't' :: 'r' :: 'u' :: 'e' :: rest
  | .bool false, rest => 'f' :: 'a' :: 'l' :: 's' :: 'e' :: rest
  | .whole w, rest => Text.intChars w.val ++ rest
  | .double d, rest => d.chars ++ rest
  | .string s, rest => writeString s rest
  | .array [], rest => '[' :: ']' :: rest
  | .array (x :: items), rest => '[' :: x.write (writeItems items rest)
  | .object [], rest => '\x7b' :: '\x7d' :: rest
  | .object ((name, x) :: members), rest =>
    '\x7b' :: writeString name (':' :: x.write (writeMembers members rest))
/-- The items after the first, up to the closing bracket. -/
def writeItems : List Tree → List Char → List Char
  | [], rest => ']' :: rest
  | x :: items, rest => ',' :: x.write (writeItems items rest)
/-- The members after the first, up to the closing brace. -/
def writeMembers : List (String × Tree) → List Char → List Char
  | [], rest => '\x7d' :: rest
  | (name, x) :: members, rest =>
    ',' :: writeString name (':' :: x.write (writeMembers members rest))
end

def text (t : Tree) : String :=
  String.ofList (t.write [])

end Tree

/-- The compact text of a value, members in ascending order. -/
def print (j : Json) : String :=
  j.tree.text

end AccessBroker.Json
