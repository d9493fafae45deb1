import AccessBroker.Broker.Configuration
import AccessBroker.Broker.Queries
import AccessBroker.Broker.Submission
import AccessBroker.Http.Message

/-! # The operations of the interface

A path leads to an endpoint, and the method selects one of the operations that
the endpoint offers.  A request is decoded in whole before anything is done; if
it cannot be, it is refused.
-/

namespace AccessBroker.Interface

/-- Why a request is refused before anything is done. -/
inductive Refusal where
  | noRoute
  | noMethod
  | badPath
  | badQuery
  | noJson
  | malformedBody
  | unfitBody
deriving DecidableEq, Repr

def Refusal.status : Refusal → Nat
  | noRoute => 404
  | noMethod => 405
  | badPath | badQuery | malformedBody => 400
  | noJson => 415
  | unfitBody => 422

/-- Where a path leads; parameters are still encoded. -/
inductive Endpoint where
  | health
  | role
  | eligibleRoles
  | group (name : String)
  | requests
  | pendingRequests
  | request (id : String)
  | requestStatus (id : String)
  | requestChange (id : String)
  | config
  | configHistory
  | archivedConfig (id : String)
deriving DecidableEq, Repr

/-- The endpoint of a path.  A fixed segment goes before a parameter, and a parameter is not
empty. -/
def Endpoint.ofPath? : List String → Option Endpoint
  | ["api", "health"] => some .health
  | ["api", "roles"] => some .role
  | ["api", "eligible-roles"] => some .eligibleRoles
  | ["api", "groups", name] => if name.isEmpty then none else some (.group name)
  | ["api", "requests"] => some .requests
  | ["api", "requests", "pending"] => some .pendingRequests
  | ["api", "requests", id] => if id.isEmpty then none else some (.request id)
  | ["api", "requests", id, "status"] => if id.isEmpty then none else some (.requestStatus id)
  | ["api", "requests", id, "change"] => if id.isEmpty then none else some (.requestChange id)
  | ["api", "config"] => some .config
  | ["api", "config", "history"] => some .configHistory
  | ["api", "config", "history", id] => if id.isEmpty then none else some (.archivedConfig id)
  | _ => none

/-- A new configuration and the checksum of the one that it replaces. -/
structure ConfigProposal where
  config : Json
  expected : Option String

def ConfigProposal.fields : Json.Fields ConfigProposal :=
  .and (.and (.pure ConfigProposal.mk)
    (.required "config" Json.Reader.value))
    (.optional "expected_checksum" Json.Reader.text)

inductive Operation where
  | readRole (account arn : String) (force : Bool)
  | listEligible (console : Bool)
  | readGroup (name : String)
  | writeGroup (name : String) (attributes : GroupAttributes)
  | listMine
  | submit (submission : Submission)
  | listReviewable (limit : Nat)
  | readRequest (id : String)
  | updateStatus (id : String) (verdict : Verdict)
  | updateProposal (id : String) (change : PolicyChange)
  | readConfig (force : Bool)
  | writeConfig (proposal : ConfigProposal)
  | listArchive (limit : Nat)
  | readArchived (id : String)

namespace Operation

def parameter (encoded : String) : Except Refusal String :=
  match Text.percentDecoded? encoded with
  | some s => .ok s
  | none => .error .badPath

/-- What was found in the query. -/
def queried {α : Type} : Option α → Except Refusal α
  | some a => .ok a
  | none => .error .badQuery

def content {α : Type} (reader : Json.Reader α) (r : Http.Request) : Except Refusal α :=
  if r.hasJson then
    match Json.readText reader r.body with
    | .ok a => .ok a
    | .error .malformed => .error .malformedBody
    | .error .unfit => .error .unfitBody
  else .error .noJson

/-- The method that selects the operation: what can be read can be asked for without its
content. -/
def method (r : Http.Request) : String :=
  if r.method = "HEAD" then "GET" else r.method

/-- The operation that a request asks of an endpoint. -/
def ofRequest (endpoint : Endpoint) (r : Http.Request) : Except Refusal Operation := do
  let query := r.target.query
  match endpoint, method r with
  | .role, "GET" =>
    let account ← queried (query.text? "account_id")
    let arn ← queried (query.text? "arn")
    return readRole account arn (← queried (query.flag? "force_refresh"))
  | .eligibleRoles, "GET" => return listEligible (← queried (query.flag? "console_only"))
  | .group name, "GET" => return readGroup (← parameter name)
  | .group name, "PUT" =>
    let name ← parameter name
    return writeGroup name (← content GroupAttributes.fields.reader r)
  | .requests, "GET" => return listMine
  | .requests, "POST" => return submit (← content Submission.fields.reader r)
  | .pendingRequests, "GET" =>
    return listReviewable (← queried (query.naturalOr? "limit" 100))
  | .request id, "GET" => return readRequest (← parameter id)
  | .requestStatus id, "POST" =>
    let id ← parameter id
    return updateStatus id (← content Verdict.fields.reader r)
  | .requestChange id, "PUT" =>
    let id ← parameter id
    return updateProposal id (← content (PolicyChange.union false).reader r)
  | .config, "GET" => return readConfig (← queried (query.flag? "force_read"))
  | .config, "PUT" => return writeConfig (← content ConfigProposal.fields.reader r)
  | .configHistory, "GET" => return listArchive (← queried (query.naturalOr? "limit" 50))
  | .archivedConfig id, "GET" => return readArchived (← parameter id)
  | _, _ => throw .noMethod

end Operation

end AccessBroker.Interface
