import AccessBroker.Text.Unprintable

/-! # Quoted texts

A text in double quotes, in which a backslash marks what would not show: the
quote and the backslash themselves, line ends, tabs and the null character by a
letter, and everything else that shows nothing of its own by its number.
-/

namespace AccessBroker.Text

/-- The hexadecimal digits of a number, most significant first. -/
def hexText (n : Nat) : String :=
  String.ofList (Nat.toDigits 16 n)

/-- A character as it stands in a quoted text. -/
def quotedChar (c : Char) : String :=
  match c with
  | '"' => "\\\""
  | '\\' => "\\\\"
  | '\n' => "\\n"
  | '\r' => "\\r"
  | '\t' => "\\t"
  | '\x00' => "\\0"
  | c => if isUnprintable c then "\\u\x7b" ++ hexText c.toNat ++ "\x7d" else c.toString

def quoted (s : String) : String :=
  "\"" ++ String.join (s.toList.map quotedChar) ++ "\""

end AccessBroker.Text
