import AccessBroker.Http.Header
import AccessBroker.Text.Split

/-! # Media types

A type and a subtype, both tokens, with a slash between them; then parameters,
each after a semicolon.  A value of a parameter is a token or is quoted.
-/

namespace AccessBroker.Http

/-- Drops a token that is not empty and the character after it. -/
def dropToken (stop : Char) (cs : List Char) : Option (List Char) :=
  if (cs.takeWhile fun c => isTokenChar c && c ≠ stop).isEmpty then none
  else
    match cs.dropWhile fun c => isTokenChar c && c ≠ stop with
    | c :: rest => if c = stop then some rest else none
    | [] => none

/-- Drops the blanks after a quoted value, and the semicolon after them. -/
def afterQuoted (cs : List Char) : Option (List Char) :=
  match cs.dropWhile (· = ' ') with
  | [] => some []
  | ';' :: rest => some rest
  | _ => none

def isQuotedChar (c : Char) : Bool :=
  !Header.isControl c && c ≠ '\t'

/-- Drops the value of a parameter and the semicolon after it.  A quoted value has one character
at least, and a quote that comes first is that character. -/
def dropValue (cs : List Char) : Option (List Char) :=
  match cs with
  | ['"'] => none
  | '"' :: first :: quoted =>
    if isQuotedChar first then
      match quoted.dropWhile fun c => c ≠ '"' && isQuotedChar c with
      | '"' :: rest => afterQuoted rest
      | _ => none
    else none
  | cs =>
    match cs.dropWhile isTokenChar with
    | [] => some []
    | ';' :: rest => if cs.head? = some ';' then none else some rest
    | _ => none

/-- Whether a list of characters is a list of parameters; `fuel` bounds their number. -/
def areParameters (fuel : Nat) (cs : List Char) : Bool :=
  match fuel, cs.dropWhile (· = ' ') with
  | _, [] => true
  | 0, _ => false
  | fuel + 1, cs =>
    match (dropToken '=' cs).bind dropValue with
    | some rest => areParameters fuel rest
    | none => false

/-- Whether a subtype is JSON or a format written in JSON. -/
def isJsonSubtype (cs : List Char) : Bool :=
  let last := Text.afterLast '+' cs
  let first := (cs.take (cs.length - last.length)).dropLast
  if first.isEmpty then cs = "json".toList else first = "json".toList || last = "json".toList

/-- Whether a text names JSON, perhaps with parameters. -/
def namesJson (s : String) : Bool :=
  match Text.cut '/' (Text.lowerAscii s).toList with
  | none => false
  | some (type, rest) =>
    let subtype := rest.takeWhile (· ≠ ';')
    type = "application".toList && subtype.all isTokenChar && isJsonSubtype subtype &&
      areParameters rest.length (rest.drop (subtype.length + 1))

end AccessBroker.Http
