import AccessBroker.Http.MediaType
import AccessBroker.Http.Target
import AccessBroker.Json.Tree

/-! # Requests and responses -/

namespace AccessBroker.Http

structure Request where
  method : String
  target : Target
  headers : List Header
  body : String
deriving DecidableEq, Repr

namespace Request

def hasJson (r : Request) : Bool :=
  ((header? r.headers "content-type").bind Header.readable?).any namesJson

end Request

/-- A response; one without a document holds nothing or a text for people. -/
structure Response where
  status : Nat
  document : Option Json.Tree

end AccessBroker.Http
