import AccessBroker.Http.Query
import AccessBroker.Net.Address
import AccessBroker.Text.Lowercase

/-! # Locators

A scheme, an authority that may be missing, a path, a query and a fragment.
Reading is lenient: margins and line ends are dropped, and steps of a path that
lead nowhere or back are taken.  These are the rules for the schemes that have
no rules of their own.
-/

namespace AccessBroker

/-- Who is to be asked. -/
inductive Host where
  | named (name : String)
  /-- An address of eight groups. -/
  | address (groups : List Nat)
deriving DecidableEq, Repr

namespace Host

def isNameChar (c : Char) : Bool :=
  !"\x00 #/:<>?@[\\]^|".toList.contains c

/-- The host that a list of characters names; an address stands in brackets. -/
def parse? (cs : List Char) : Option Host :=
  match cs with
  | '[' :: rest =>
    if rest.getLast? = some ']' then
      match Address.parse? (String.ofList rest.dropLast) with
      | some (.v6 groups) => some (.address groups)
      | _ => none
    else none
  | cs => if !cs.isEmpty && cs.all isNameChar then some (.named (String.ofList cs)) else none

/-- Whether every host is meant, not one. -/
def isWildcard : Host → Bool
  | named name => name = "0.0.0.0"
  | address groups => groups.all (· = 0)

end Host

structure Url where
  /-- In lower case. -/
  scheme : String
  /-- The user and the password, still encoded. -/
  credentials : List String
  host : Option Host
  /-- The segments of the path, if it begins at the root. -/
  segments : Option (List String)
  query : Http.Query
deriving DecidableEq, Repr

namespace Url

/-- Tabs and line ends, which are dropped wherever they stand. -/
def isDropped (c : Char) : Bool :=
  c = '\t' || c = '\n' || c = '\r'

/-- Blanks and controls, which are dropped at both ends. -/
def isMargin (c : Char) : Bool :=
  c.toNat ≤ 0x20

/-- The characters that count. -/
def tidy (cs : List Char) : List Char :=
  ((cs.dropWhile isMargin).reverse.dropWhile isMargin).reverse.filter (!isDropped ·)

/-- The scheme, in lower case, and what comes after its colon. -/
def cutScheme? (cs : List Char) : Option (String × List Char) :=
  match Text.cut ':' cs with
  | some (c :: scheme, rest) =>
    if c.isAlpha && scheme.all fun c => c.isAlphanum || "+-.".toList.contains c then
      some (Text.lowerAscii (String.ofList (c :: scheme)), rest)
    else none
  | _ => none

/-- Cuts a host from the port after it; a colon in brackets belongs to the host. -/
def cutHost (inBrackets : Bool) : List Char → List Char × List Char
  | [] => ([], [])
  | c :: cs =>
    if c = ':' && !inBrackets then ([], c :: cs)
    else
      let (host, port) := cutHost (c = '[' || (inBrackets && c ≠ ']')) cs
      (c :: host, port)

/-- Whether nothing follows a host, or a colon and a port; the port may be left out. -/
def isPort (cs : List Char) : Bool :=
  match cs with
  | [] => true
  | c :: digits => c = ':' && digits.all Char.isDigit && Text.digitsValue digits < 65536

/-- The credentials and the host of an authority. -/
def parseAuthority? (cs : List Char) : Option (List String × Host) :=
  let located := Text.afterLast '@' cs
  let user := cs.take (cs.length - located.length - 1)
  let credentials :=
    match Text.cut ':' user with
    | some (user, password) => [String.ofList user, String.ofList password]
    | none => [String.ofList user]
  let (host, port) := cutHost false located
  if isPort port then (Host.parse? host).map fun host => (credentials, host) else none

/-- Whether a segment stays where it is. -/
def isHere (segment : String) : Bool :=
  [".", "%2e"].contains (Text.lowerAscii segment)

/-- Whether a segment leads back. -/
def isBack (segment : String) : Bool :=
  ["..", ".%2e", "%2e.", "%2e%2e"].contains (Text.lowerAscii segment)

/-- Takes the steps of a path, after those in `taken` (latest first). -/
def walk (taken : List String) : List String → List String
  | [] => taken.reverse
  | segment :: rest =>
    if isBack segment then walk taken.tail rest
    else if isHere segment then walk taken rest
    else walk (segment :: taken) rest

/-- The steps of a path that begins at the root. -/
def stepsOf? (path : List Char) : Option (List String) :=
  match path with
  | '/' :: rest => some (walk [] ((Text.pieces '/' rest).map String.ofList))
  | _ => none

def parse? (s : String) : Option Url := do
  let (scheme, rest) ← cutScheme? (tidy s.toList)
  let rest := rest.takeWhile (· ≠ '#')
  let place := rest.takeWhile (· ≠ '?')
  let query := Http.Query.parse (rest.drop (place.length + 1))
  match place with
  | '/' :: '/' :: place =>
    let authority := place.takeWhile (· ≠ '/')
    let segments := stepsOf? (place.drop authority.length)
    if authority.isEmpty then return ⟨scheme, [], none, segments, query⟩
    let (credentials, host) ← parseAuthority? authority
    return ⟨scheme, credentials, some host, segments, query⟩
  | place => return ⟨scheme, [], none, stepsOf? place, query⟩

end Url

end AccessBroker
