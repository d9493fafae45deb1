import AccessBroker.Broker.Authorization
import AccessBroker.Broker.Roles

/-! # What approval does

Approving a request puts it into effect: the requester joins the group, or the
role takes the change.  Only then is the request stored as approved.  For a
change of policies the state before it is stored first.
-/

namespace AccessBroker.Service

/-- Announces that a request has come to its status; a failure to tell is passed over. -/
def announce (r : Request) (previous : Option Status) : Service Unit :=
  quietly (notify (.of previous r))

/-- A request at a new status. -/
def moved (r : Request) (status : Status) (actor : String) (now : Timestamp)
    (comments : Option String) : Request :=
  { r with status := status, updatedBy := actor, lastUpdated := now, comments := comments }

def recordStatus (r : Request) (status : Status) (actor : String) (comments : Option String) :
    Service Request := do
  let r := moved r status actor (← now) comments
  saveRequest r
  return r

/-- Puts the requester into the group. -/
def join (r : Request) (route : Route) (group : String) : Service Unit := do
  if route.restricted then
    throw (.forbidden s!"group '{group}' is restricted; membership changes are denied")
  match ← addMember group r.requester with
  | .added | .alreadyMember => return
  | .denied reason =>
    throw (.forbidden s!"directory refused adding '{r.requester}' to '{group}': {reason}")

/-- Takes the requester out of the group. -/
def leave (r : Request) : Service Unit := do
  match r.target with
  | .policy .. =>
    throw (.validation s!"access request '{r.id}' is not a group membership request")
  | .group group =>
    match ← removeMember group r.requester with
    | .removed | .notMember => invalidateUser r.requester
    | .denied reason =>
      throw (.forbidden
        s!"directory refused removing '{r.requester}' from '{group}': {reason}")

/-- The policy that a change is about, as a role has it before the change. -/
def previousPolicy (role : RoleDocument) : PolicyChange → Json
  | .inlinePolicy name _ => (role.inlinePolicies.get? name).getD .null
  | .managedPolicy _ => .array (role.managedPolicies.map fun a => .ofTree a.toTree)

/-- What is stored of a role before a change. -/
def snapshotOf (role : RoleDocument) (change : PolicyChange) : Json :=
  .object [
    ("arn", .string role.arn),
    ("fetched_at", .ofTree role.fetchedAt.toTree),
    ("policy", .string change.identifier),
    ("previous", previousPolicy role change)]

/-- Whether a role already is as a change would make it. -/
def isApplied (role : RoleDocument) : PolicyChange → Bool
  | .inlinePolicy name document => (role.inlinePolicies.get? name).any (·.same document)
  | .managedPolicy arn => role.hasManagedPolicy arn

def changeRole (key : RoleKey) : PolicyChange → Service Unit
  | .inlinePolicy name document => putInlinePolicy key name document
  | .managedPolicy arn => attachManagedPolicy key arn

/-- Stores the state before the change, and makes the change unless the role already has it. -/
def applyChange (r : Request) (key : RoleKey) (change : PolicyChange) : Service Request := do
  match ← fetchRole key true with
  | none => throw (Cloud.missing key)
  | some role =>
    let r := { r with snapshot := some (snapshotOf role change) }
    saveRequest r
    if !isApplied role change then changeRole key change
    return r

/-- Puts a request into effect and stores it as approved. -/
def approve (r : Request) (route : Route) (actor : String) (comments : Option String) :
    Service Request := do
  match r.target with
  | .group group =>
    join r route group
    let r ← recordStatus r .approved actor comments
    invalidateUser r.requester
    return r
  | .policy account arn change =>
    let key ← lift (RoleKey.of account arn)
    let r ← applyChange r key change
    let r ← recordStatus r .approved actor comments
    quietly (discard (fetchRole key true))
    return r

end AccessBroker.Service
