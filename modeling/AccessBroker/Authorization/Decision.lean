import AccessBroker.Authorization.Lists

/-! # Decisions about requests

Each decision depends on the caller, the allow-lists in force, and the approvers
of the request's target, and on nothing else.
-/

namespace AccessBroker

/-- The rules that hold for requests for one target. -/
structure Route where
  /-- Who approves requests besides administrators. -/
  approvers : List String
  /-- Groups whose members approve their own requests. -/
  selfApprovalGroups : List String
  /-- Whether the members of the target may not be changed. -/
  restricted : Bool
  /-- Whether the target can be requested at all. -/
  requestable : Bool
  /-- Whether requests are approved at once when there are no approvers. -/
  openWhenUnowned : Bool
deriving DecidableEq

namespace AllowLists

/-- Whether a new request starts out approved. -/
def autoApproves (who : Identity) (approvers selfApprovalGroups : List String)
    (openWhenUnowned : Bool) : Bool :=
  (openWhenUnowned && approvers.isEmpty) || who.isAmong selfApprovalGroups ||
    who.isAmong approvers

/-- An administrator, an approver, or the target itself decides. -/
def canApprove (lists : AllowLists) (who : Identity) (approvers : List String)
    (target : String) : Bool :=
  lists.isAdmin who || who.isAmong approvers || who.isNamed target

/-- The requester or an administrator withdraws a request. -/
def canCancel (lists : AllowLists) (who : Identity) (requester : String) : Bool :=
  Text.sameAscii who.user requester || lists.isAdmin who

/-- Whoever may withdraw a request may open it again, and so may approvers. -/
def canReopen (lists : AllowLists) (who : Identity) (requester : String)
    (approvers : List String) : Bool :=
  lists.canCancel who requester || who.isAmong approvers

/-- The requester, or an approver who may edit policies, changes a pending proposal. -/
def canEditProposal (lists : AllowLists) (who : Identity) (requester : String)
    (approvers : List String) : Bool :=
  Text.sameAscii who.user requester ||
    ((lists.isAdmin who || who.isAmong approvers) && lists.permits who .editPolicies false)

end AllowLists

end AccessBroker
