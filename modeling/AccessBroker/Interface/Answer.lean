import AccessBroker.Broker.Review
import AccessBroker.Broker.Roles
import AccessBroker.Interface.Caller
import AccessBroker.Interface.Health
import AccessBroker.Interface.Operation

/-! # Answering requests

Everything but the health of the interface is for callers that are known.  The
caller is asked for even where the method is wrong, but not where the path
leads nowhere.
-/

namespace AccessBroker.Interface

open Http (Response)
open Json (Tree)

/-- A response with a document. -/
def success (document : Tree) : Response := ⟨200, some document⟩

def failure (e : Error) : Response :=
  ⟨e.httpStatus, some (.object [("message", .string e.display)])⟩

def refusal (r : Refusal) : Response := ⟨r.status, none⟩

/-- A configuration and, for an archived one, its id. -/
def configTree (id : Option String) (s : ConfigSnapshot) : Tree :=
  .object [
    ("id", .ofText? id),
    ("config", s.document.json.tree),
    ("checksum", .ofText? s.checksum),
    ("updated_by", .ofText? s.updatedBy),
    ("updated_at",
      match s.updatedAt with
      | some t => t.toTree
      | none => .null)]

/-- The attributes of a group under the name that the caller used. -/
def groupTree (name : String) (a : GroupAttributes) : Tree :=
  .object (("group_name", .string name) :: a.members)

def requestsTree (rs : List Request) : Tree :=
  .array (rs.map (·.toTree))

/-- The role of a resource name in an account. -/
def readRole (account arn : String) (force : Bool) : Service Tree := do
  let key ← Service.lift (RoleKey.of account arn)
  match ← Service.fetchRole key force with
  | some role => return role.toTree
  | none => throw (.notFound s!"role '{key.arn}' does not exist")

/-- Does what a caller asks for. -/
def Operation.perform (who : Identity) : Operation → Service Response
  | readRole account arn force => return success (← Interface.readRole account arn force)
  | listEligible console => do
    let roles ← Service.eligibleRoles who console
    return success (.object [("roles", .array (roles.map (·.toTree)))])
  | readGroup name => return success (groupTree name (← Service.groupAttributes name))
  | writeGroup name attributes =>
    return success (groupTree name (← Service.updateGroup who name attributes))
  | listMine => return success (requestsTree (← Service.listMine who))
  | submit submission => return ⟨201, some (← Service.submit who submission).toTree⟩
  | listReviewable limit => return success (requestsTree (← Service.listReviewable who limit))
  | readRequest id => return success (← Service.getRequest who id).toTree
  | updateStatus id verdict => return success (← Service.updateStatus who id verdict).toTree
  | updateProposal id change => return success (← Service.updateProposal who id change).toTree
  | readConfig force => do
    let snapshot ← if force then Service.readConfig else pure (← get).published
    return success (configTree none snapshot)
  | writeConfig proposal => do
    Service.requireCapability who .editConfig false
    let document ← Service.lift (ConfigDocument.ofJson proposal.config)
    return success (configTree none (← Service.writeConfig document proposal.expected who.user))
  | listArchive limit => do
    Service.requireCapability who .editConfig false
    return success (.object [("ids", .texts (← Service.archiveIds limit))])
  | readArchived id => do
    Service.requireCapability who .editConfig false
    let version ← Service.readArchived id
    return success (configTree (some version.id) (.of version))

/-- The answer to a request for an endpoint that asks for the caller. -/
def answerCaller (endpoint : Endpoint) (r : Http.Request) : Service Response := do
  match Identity.ofHeaders r.headers with
  | .error e => return failure e
  | .ok who =>
    match Operation.ofRequest endpoint r with
    | .error reason => return refusal reason
    | .ok operation => tryCatch (operation.perform who) fun e => return failure e

/-- The answer to a request, with its document. -/
def fullAnswer (health : Health) (r : Http.Request) : Service Response :=
  match Endpoint.ofPath? r.target.segments with
  | none => return refusal .noRoute
  | some .health =>
    return if Operation.method r = "GET" then health.response else refusal .noMethod
  | some endpoint => answerCaller endpoint r

def answer (health : Health) (r : Http.Request) : Service Response := do
  let full ← fullAnswer health r
  return if r.method = "HEAD" then { full with document := none } else full

end AccessBroker.Interface
