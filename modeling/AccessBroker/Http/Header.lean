import AccessBroker.Text.Lowercase

/-! # Header fields -/

namespace AccessBroker.Http

def isTokenChar (c : Char) : Bool :=
  c.isAlphanum || "!#$%&'*+-.^_\x60|~".toList.contains c

/-- A header field; its name is in lower case. -/
structure Header where
  name : String
  value : String
deriving DecidableEq, Repr

namespace Header

/-- Control characters, the tab apart. -/
def isControl (c : Char) : Bool :=
  (c.toNat < 0x20 && c ≠ '\t') || c.toNat = 0x7f

/-- A header field of a name that is a token and a value without control characters. -/
def of? (name value : String) : Option Header :=
  if !name.isEmpty && name.toList.all isTokenChar && !value.toList.any isControl then
    some ⟨Text.lowerAscii name, value⟩
  else none

/-- The value, if it is all printable ASCII and tabs. -/
def readable? (h : Header) : Option String :=
  if h.value.toList.all fun c => c = '\t' ∨ (0x20 ≤ c.toNat ∧ c.toNat < 0x7f) then some h.value
  else none

end Header

def header? (headers : List Header) (name : String) : Option Header :=
  headers.find? (·.name = name)

def readableValues (headers : List Header) (name : String) : List String :=
  (headers.filter (·.name = name)).filterMap Header.readable?

end AccessBroker.Http
