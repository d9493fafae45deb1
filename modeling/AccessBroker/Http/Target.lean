import AccessBroker.Http.Query

/-! # Targets of requests

A target is a path with a query, or a whole locator: a scheme, an authority,
and then the path and the query.  An asterisk or an authority alone is a target
as well, but has no path.
-/

namespace AccessBroker.Http

/-- What a request asks for: the segments of a path, still encoded, and a query.  A target without
a path has no segments. -/
structure Target where
  segments : List String
  query : Query
deriving DecidableEq, Repr

namespace Target

/-- The bytes of the longest target. -/
def longest : Nat := 65534

/-! ## Paths and queries -/

def isPathChar (c : Char) : Bool :=
  0x21 ≤ c.toNat && !"<>\x60\x7f".toList.contains c

def isQueryChar (c : Char) : Bool :=
  0x21 ≤ c.toNat && !"\"<>\x7f".toList.contains c

def endsAuthority (c : Char) : Bool :=
  c = '/' || c = '?' || c = '#'

/-- The target of a path, perhaps with a query and a fragment.  The root may be left out. -/
def ofPath? (cs : List Char) : Option Target :=
  let cs := cs.takeWhile (· ≠ '#')
  let path := cs.takeWhile (· ≠ '?')
  let query := cs.drop (path.length + 1)
  if path.all isPathChar && query.all isQueryChar then
    some ⟨(Text.pieces '/' (path.drop 1)).map String.ofList, .parse query⟩
  else none

/-! ## Authorities -/

/-- What was seen of an authority: colons and percent signs count from the last at sign or
bracketed address on. -/
structure AuthoritySeen where
  colons : Nat
  encoded : Bool
  opened : Bool
  closed : Bool

namespace AuthoritySeen

def nothing : AuthoritySeen := ⟨0, false, false, false⟩

/-- The characters of an authority that have no meaning of their own there. -/
def isPlain (c : Char) : Bool :=
  c.isAlphanum || "!$&'()*+,-.;=_~".toList.contains c

/-- What was seen after one more character, if it may stand there. -/
def next? (seen : AuthoritySeen) (c : Char) : Option AuthoritySeen :=
  match c with
  | ':' => if seen.colons < 8 then some { seen with colons := seen.colons + 1 } else none
  | '[' => if seen.encoded || seen.opened then none else some { seen with opened := true }
  | ']' =>
    if seen.opened && !seen.closed then
      some { seen with colons := 0, encoded := false, closed := true }
    else none
  | '@' => some { seen with colons := 0, encoded := false }
  | '%' => some { seen with encoded := true }
  | c => if isPlain c then some seen else none

/-- Whether the authority may end here. -/
def isComplete (seen : AuthoritySeen) : Bool :=
  seen.opened == seen.closed && seen.colons ≤ 1 && !seen.encoded

end AuthoritySeen

/-- Whether a list of characters is an authority: a host, perhaps after credentials and before a
port.  Only credentials and a bracketed address may be encoded. -/
def isAuthority (cs : List Char) : Bool :=
  match cs.foldlM AuthoritySeen.next? .nothing with
  | some seen => !cs.isEmpty && seen.isComplete && cs.getLast? ≠ some '@'
  | none => false

/-! ## Schemes -/

def isSchemeChar (c : Char) : Bool :=
  c.isAlphanum || "+-.~".toList.contains c

/-- The scheme of a locator and what comes after the two slashes. -/
def cutScheme? (cs : List Char) : Option (List Char × List Char) :=
  let scheme := cs.takeWhile isSchemeChar
  (Text.after? "://".toList (cs.drop scheme.length)).map fun rest => (scheme, rest)

def longestScheme : Nat := 64

/-- The target of a text that does not begin with a path. -/
def ofLocator? (cs : List Char) : Option Target :=
  match cutScheme? cs with
  | some (scheme, rest) =>
    let authority := rest.takeWhile (!endsAuthority ·)
    if scheme.length ≤ longestScheme && isAuthority authority then
      ofPath? (rest.drop authority.length)
    else none
  | none => if isAuthority cs then some ⟨[], []⟩ else none

def parse? (s : String) : Option Target :=
  if longest < s.utf8ByteSize then none
  else
    match s.toList with
    | '/' :: rest => ofPath? ('/' :: rest)
    | cs => ofLocator? cs

end Target

end AccessBroker.Http
