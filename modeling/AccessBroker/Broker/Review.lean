import AccessBroker.Broker.Approval

/-! # Changing requests

A request is moved along its life by whoever may do so, and a pending proposal
can be changed.  Everything is checked before anything is written.
-/

namespace AccessBroker

/-- What a reviewer hands in. -/
structure Verdict where
  status : Status
  comments : Option String
deriving DecidableEq

namespace Verdict

def fields : Json.Fields Verdict :=
  (Json.Fields.pure Verdict.mk).and (.required "status" (.word Status.words))
    |>.and (.omissible "reviewer_comments" .text)

end Verdict

namespace Service

def requireRequest (id : String) : Service Request := do
  match ← findRequest? id with
  | some r => return r
  | none => throw (RequestStore.missing id)

/-- Whether an identity reviews the requests of a route for a target. -/
def isReviewer (lists : AllowLists) (who : Identity) (target : Target) (route : Route) : Bool :=
  lists.canApprove who route.approvers target.name

def ensureAllowed (allowed : Bool) (who : Identity) (r : Request) (action : String) :
    Except Error Unit :=
  if allowed then .ok ()
  else .error (.forbidden s!"'{who.user}' may not {action} access request '{r.id}'")

/-- Refuses a second pending request besides `r`. -/
def ensureNoOtherPending (r : Request) : Service Unit := do
  match ← findPending? r.requester r.target.key with
  | some other =>
    if other.id ≠ r.id then throw (RequestStore.alreadyPending other.id r.target.key)
  | none => return

/-- The error for a request that was closed too long ago. -/
def tooLate (r : Request) (window : Int) : Error :=
  .conflict ("access request '" ++ r.id ++ "' was last updated more than " ++
    Text.intText window ++ " seconds ago and can no longer be reopened")

def reopen (who : Identity) (r : Request) (comments : Option String) : Service Request := do
  let window := (← settings).reopenWindow
  if !r.isReopenable (← now) window then throw (tooLate r window)
  ensureNoOtherPending r
  recordStatus r .pending who.user comments

def step (who : Identity) (r : Request) (route : Route) (lists : AllowLists) (v : Verdict) :
    Service Request := do
  match r.status, v.status with
  | .pending, .approved =>
    lift (ensureAllowed (isReviewer lists who r.target route) who r "approve")
    approve r route who.user v.comments
  | .pending, .rejected =>
    lift (ensureAllowed (isReviewer lists who r.target route) who r "reject")
    recordStatus r .rejected who.user v.comments
  | .pending, .cancelled =>
    lift (ensureAllowed (lists.canCancel who r.requester) who r "cancel")
    recordStatus r .cancelled who.user v.comments
  | .rejected, .pending | .cancelled, .pending =>
    lift (ensureAllowed (lists.canReopen who r.requester route.approvers) who r "reopen")
    reopen who r v.comments
  | .approved, .removed =>
    requireCapability who .modifyMembers route.restricted
    leave r
    recordStatus r .removed who.user v.comments
  | .approved, .expired =>
    throw (.forbidden s!"access request '{r.id}' can only be expired by the system")
  | former, next =>
    throw (.conflict s!"access request cannot move from '{former.name}' to '{next.name}'")

def updateStatus (who : Identity) (id : String) (v : Verdict) : Service Request := do
  let r ← requireRequest id
  lift (r.status.ensureStep v.status)
  let route ← approvalRoute r.target
  let changed ← step who r route (← allowLists) v
  announce changed (some r.status)
  return changed

/-- Replaces the proposed change of a pending request. -/
def updateProposal (who : Identity) (id : String) (proposed : PolicyChange) :
    Service Request := do
  let r ← requireRequest id
  if r.status ≠ .pending then
    throw (.conflict
      s!"access request '{r.id}' is '{r.status.name}' and can no longer be edited")
  match r.target with
  | .group _ =>
    throw (.validation s!"access request '{r.id}' does not carry a policy proposal")
  | .policy account arn change =>
    let route ← approvalRoute r.target
    let allowed := (← allowLists).canEditProposal who r.requester route.approvers
    lift (ensureAllowed allowed who r "edit")
    if change.same proposed then
      throw (.conflict s!"proposed change of access request '{r.id}' is unchanged")
    let target := Target.policy account arn proposed
    lift target.validate
    let edited := { r with target := target }
    if target.key ≠ r.target.key then ensureNoOtherPending edited
    let edited := { edited with updatedBy := who.user, lastUpdated := ← now }
    saveRequest edited
    return edited

end Service

end AccessBroker
