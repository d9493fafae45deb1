import AccessBroker.Broker.Calls

/-! # Authorization in the services

The allow-lists in force follow the published configuration.  The route of a
target says who may act on requests for it.
-/

namespace AccessBroker.Service

def listsIn (setup : Setup) (w : World) : AllowLists :=
  .merge setup.lists w.published.document

def allowLists : Service AllowLists := do
  return listsIn (← read) (← get)

def hasCapability (who : Identity) (c : Capability) (restricted : Bool) : Service Bool := do
  return (← allowLists).permits who c restricted

def lacks (who : Identity) (c : Capability) (restricted : Bool) : Error :=
  let place := if restricted then " on a restricted target" else ""
  .forbidden s!"'{who.user}' is missing capability '{c.name}'{place}"

def requireCapability (who : Identity) (c : Capability) (restricted : Bool) : Service Unit := do
  if !(← hasCapability who c restricted) then throw (lacks who c restricted)

/-- The error for a group that is not in the directory. -/
def noGroup (group : String) : Error :=
  .notFound s!"group '{group}' does not exist"

def groupRoute (lists : AllowLists) (a : GroupAttributes) : Route where
  approvers := a.approvers
  selfApprovalGroups := a.selfApprovalGroups ++ lists.selfApprovalGroups.toList
  restricted := a.restricted
  requestable := a.requestable
  openWhenUnowned := true

def policyRoute (lists : AllowLists) : Route where
  approvers := (lists.admins.union (lists.holders .approveRequests)).toList
  selfApprovalGroups := lists.selfApprovalGroups.toList
  restricted := false
  requestable := true
  openWhenUnowned := false

/-- The attributes of a group that has to exist. -/
def groupAttributes (group : String) : Service GroupAttributes := do
  match ← groupAttributes? group with
  | some a => return a
  | none => throw (noGroup group)

def approvalRoute (target : Target) : Service Route := do
  let lists ← allowLists
  match target with
  | .group name => return groupRoute lists (← groupAttributes name)
  | .policy .. => return policyRoute lists

/-- The attributes with their names in normal form, in ascending order and without repeats. -/
def tidyAttributes (a : GroupAttributes) : GroupAttributes :=
  { a with
    approvers := (NameSet.ofNames a.approvers).toList
    selfApprovalGroups := (NameSet.ofNames a.selfApprovalGroups).toList }

/-- Lays down the attributes of a group. -/
def updateGroup (who : Identity) (group : String) (attributes : GroupAttributes) :
    Service GroupAttributes := do
  let group := Text.trim group
  if group.isEmpty then throw (.validation "group name must not be empty")
  let restricted := (← groupAttributes? group).any (·.restricted)
  requireCapability who .editAttributes restricted
  let attributes := tidyAttributes attributes
  putGroupAttributes group attributes
  return attributes

/-- Forgets what was remembered about a user; a cache that fails is passed over. -/
def invalidateUser (user : String) : Service Unit :=
  quietly (invalidateEligible user)

/-! ## Eligible roles -/

/-- Adds a mapping to those found so far: a role offered twice is for the console only if both
mappings say so. -/
def addMapping (found : Table RoleMapping) (m : RoleMapping) : Table RoleMapping :=
  match found.get? m.arn with
  | some old => found.insert m.arn { old with consoleOnly := old.consoleOnly && m.consoleOnly }
  | none => found.insert m.arn m

/-- The roles that a document offers to an identity, in ascending order of resource names. -/
def offeredRoles (document : ConfigDocument) (who : Identity) (console : Bool) :
    List RoleMapping :=
  let offered := (who.user :: who.groups.toList).flatMap document.roleMappings
  let usable := offered.filter fun m => console || !m.consoleOnly
  (usable.foldl addMapping .empty).toList.map Prod.snd

/-- The roles that an identity may assume, remembered from an earlier call or worked out now. -/
def eligibleRoles (who : Identity) (console : Bool) : Service (List RoleMapping) := do
  match ← tryCatch (getEligible? who.user console) fun _ => pure none with
  | some roles => return roles
  | none =>
    let roles := offeredRoles (← get).published.document who console
    quietly (putEligible who.user console roles (← settings).eligibleLifetime)
    return roles

end AccessBroker.Service
