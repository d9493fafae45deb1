import AccessBroker.Http.Message

/-! # Health

The interface is ready if its database answers.  A cache that fails makes it
slow, not unready.
-/

namespace AccessBroker

/-- How a dependency is. -/
inductive Condition where
  | ok
  | disabled
  | failing (detail : String)
deriving DecidableEq, Repr

namespace Condition

def status : Condition → String
  | ok => "ok"
  | disabled => "disabled"
  | failing _ => "error"

def detail? : Condition → Option String
  | failing detail => some detail
  | _ => none

def toTree (c : Condition) : Json.Tree :=
  .object [("status", .string c.status), ("detail", .ofText? c.detail?)]

end Condition

structure Health where
  database : Condition
  cache : Condition
deriving DecidableEq, Repr

namespace Health

def isReady (h : Health) : Bool :=
  h.database == .ok

/-- Whether everything works that is in use. -/
def isSound (h : Health) : Bool :=
  h.isReady && h.cache.status != "error"

def response (h : Health) : Http.Response where
  status := if h.isReady then 200 else 503
  document := some (.object [
    ("status", .string (if h.isSound then "ok" else "degraded")),
    ("ready", .bool h.isReady),
    ("postgres", h.database.toTree),
    ("redis", h.cache.toTree)])

end Health

end AccessBroker
