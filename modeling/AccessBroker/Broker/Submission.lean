import AccessBroker.Broker.Approval

/-! # Submitting requests -/

namespace AccessBroker

/-- What a requester hands in. -/
structure Submission where
  target : Target
  justification : String
  expiresAt : Option Timestamp
deriving DecidableEq

namespace Submission

def fields : Json.Fields Submission :=
  (Json.Fields.pure Submission.mk).and (.required "target" Target.reader)
    |>.and (.required "justification" .text)
    |>.and (.omissible "expires_at" Timestamp.reader)

/-- What is asked of an expiry and of the role that a change is for. -/
def validateTarget (s : Submission) (now : Timestamp) : Except Error Unit :=
  match s.target with
  | .group _ =>
    if s.expiresAt.any (· ≤ now) then
      .error (.validation "membership expiry must be in the future")
    else .ok ()
  | .policy account arn _ =>
    if s.expiresAt.isSome then
      .error (.validation "policy requests cannot carry an expiry")
    else (RoleKey.of account arn).map fun _ => ()

/-- Refuses submissions that no store could tell from nonsense. -/
def validate (s : Submission) (now : Timestamp) : Except Error Unit := do
  s.target.validate
  if Text.isAllBlank s.justification then
    throw (.validation "access request requires a justification")
  s.validateTarget now

end Submission

namespace Service

/-- The request that a submission becomes. -/
def newRequest (id : String) (who : Identity) (s : Submission) (now : Timestamp) : Request where
  id := id
  requester := who.user
  target := s.target
  justification := Text.trim s.justification
  status := .pending
  updatedBy := who.user
  requestTime := now
  lastUpdated := now
  comments := none
  expiresAt := s.expiresAt
  snapshot := none

def ensureRequestable (target : Target) (route : Route) : Except Error Unit :=
  if !route.requestable then
    .error (.forbidden s!"'{target.name}' does not accept access requests")
  else if route.restricted then
    .error (.forbidden s!"membership of restricted group '{target.name}' cannot be requested")
  else .ok ()

/-- Refuses a second pending request. -/
def ensureNonePending (requester : String) (target : Target) : Service Unit := do
  match ← findPending? requester target.key with
  | some other => throw (RequestStore.alreadyPending other.id target.key)
  | none => return

/-- Stores a new request and, where its route allows, puts it into effect at once. -/
def submit (who : Identity) (s : Submission) : Service Request := do
  let now ← now
  lift (s.validate now)
  let route ← approvalRoute s.target
  lift (ensureRequestable s.target route)
  ensureNonePending who.user s.target
  let r := newRequest (← drawId) who s now
  insertRequest r
  quietly (appendUserRequest r.requester r.id)
  if AllowLists.autoApproves who route.approvers route.selfApprovalGroups route.openWhenUnowned then
    let r ← approve r route who.user (some "auto-approved")
    announce r none
    return r
  else
    announce r none
    return r

end Service

end AccessBroker
