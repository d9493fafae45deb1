import AccessBroker.Text.Integer
import AccessBroker.Text.Percent
import AccessBroker.Text.Split
import AccessBroker.Text.Utf8

/-! # Queries

Fields between ampersands, each a name and a value around the first equals
sign.  A plus sign is a space, and other characters may be percent-encoded.  A
field that is asked for may occur once; other fields are passed over.
-/

namespace AccessBroker.Http

/-- The fields of a query, in order. -/
abbrev Query := List (String × String)

namespace Query

/-- The text that an encoded name or value stands for. -/
def decode (cs : List Char) : String :=
  let spaced := cs.map fun c => if c = '+' then ' ' else c
  Text.lossy (Text.percentDecode (Text.bytes (String.ofList spaced)))

def ofField (cs : List Char) : String × String :=
  match Text.cut '=' cs with
  | some (name, value) => (decode name, decode value)
  | none => (decode cs, "")

def parse (cs : List Char) : Query :=
  ((Text.pieces '&' cs).filter (!·.isEmpty)).map ofField

/-- What a query says of a field: the field is repeated, or it has a value or none. -/
inductive Mention where
  | repeated
  | once (value : String)
  | missing

def mention (q : Query) (name : String) : Mention :=
  match q.filter (·.1 = name) with
  | [] => .missing
  | [(_, value)] => .once value
  | _ => .repeated

/-- A field that has to be there. -/
def text? (q : Query) (name : String) : Option String :=
  match q.mention name with
  | .once value => some value
  | _ => none

/-- A field that is `true` or `false`; false if it is missing. -/
def flag? (q : Query) (name : String) : Option Bool :=
  match q.mention name with
  | .missing => some false
  | .once "true" => some true
  | .once "false" => some false
  | _ => none

/-- A field that is a natural number of 64 bits, or else a default. -/
def naturalOr? (q : Query) (name : String) (default : Nat) : Option Nat :=
  match q.mention name with
  | .missing => some default
  | .once value => (Text.natural 64 value).toOption
  | .repeated => none

end Query

end AccessBroker.Http
