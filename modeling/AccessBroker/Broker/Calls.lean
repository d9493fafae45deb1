import AccessBroker.Broker.World

/-! # Calls to other systems

One service for each thing that the services ask of a store, of the directory,
of the cloud, or of whoever is told of events.
-/

namespace AccessBroker.Service

/-! ## Requests -/

def insertRequest (r : Request) : Service Unit := do
  log (.insertRequest r.id)
  discard <| meet .insertRequest
  let stored ← lift ((← get).requests.insert r)
  modify fun w => { w with requests := stored }

def saveRequest (r : Request) : Service Unit := do
  log (.saveRequest r.id r.status)
  discard <| meet .saveRequest
  let stored ← lift ((← get).requests.save r)
  modify fun w => { w with requests := stored }

def findRequest? (id : String) : Service (Option Request) := do
  discard <| meet .findRequest
  return (← get).requests.find? id

def findPending? (requester key : String) : Service (Option Request) := do
  match ← meet .findPending with
  | .unseen => return none
  | _ => return (← get).requests.findPending? requester key

def findRequests (ids : List String) : Service (List Request) := do
  discard <| meet .findRequests
  return (← get).requests.findAll ids

def listPending (limit : Nat) : Service (List Request) := do
  discard <| meet .listPending
  return (← get).requests.pending limit

def listExpired (now : Timestamp) (after : Option ExpiryCursor) (limit : Nat) :
    Service (List Request) := do
  log (.listExpired now after limit)
  discard <| meet .listExpired
  return (← get).requests.due now after limit

def appendUserRequest (user id : String) : Service Unit := do
  log (.appendUser user id)
  discard <| meet .appendUser
  modify fun w => { w with requests := w.requests.append user id }

def listUserRequests (user : String) : Service (List String) := do
  discard <| meet .listUser
  return (← get).requests.idsOf user

/-! ## The directory -/

def groupAttributes? (group : String) : Service (Option GroupAttributes) := do
  discard <| meet .groupAttributes
  return (← get).directory.attributes? group

def putGroupAttributes (group : String) (attributes : GroupAttributes) : Service Unit := do
  log (.putGroup group)
  discard <| meet .putGroup
  modify fun w => { w with directory := w.directory.putAttributes group attributes }

def addMember (group user : String) : Service Joining := do
  log (.addMember group user)
  match ← meet .addMember with
  | .deny reason => return .denied reason
  | _ =>
    modifyGet fun w =>
      let (outcome, directory) := w.directory.addMember group user
      (outcome, { w with directory := directory })

def removeMember (group user : String) : Service Leaving := do
  log (.removeMember group user)
  match ← meet .removeMember with
  | .deny reason => return .denied reason
  | _ =>
    modifyGet fun w =>
      let (outcome, directory) := w.directory.removeMember group user
      (outcome, { w with directory := directory })

/-! ## The cloud -/

def fetchCloudRole (key : RoleKey) : Service (Option RoleDocument) :=
  retried "iam fetch_role" (.fetchRole key.arn) fun effect w =>
    match effect with
    | .role shown => (shown, w)
    | _ => (.ok (w.cloud.role? key), w)

def listCloudRoles (account : String) : Service (List String) :=
  retried "iam list_roles" (.listRoleArns account) fun effect w =>
    match effect with
    | .arns listed => (.ok listed, w)
    | _ => (.ok (w.cloud.roleArns account), w)

def changeCloud (change : Cloud → Except Error Cloud) (w : World) : Except Error Unit × World :=
  match change w.cloud with
  | .ok cloud => (.ok (), { w with cloud := cloud })
  | .error e => (.error e, w)

def putInlinePolicy (key : RoleKey) (name : String) (document : Json) : Service Unit :=
  retried "iam put_role_policy" (.putInlinePolicy key.arn name) fun _ =>
    changeCloud (·.putInlinePolicy key name document)

def attachManagedPolicy (key : RoleKey) (policyArn : String) : Service Unit :=
  retried "iam attach_role_policy" (.attachManagedPolicy key.arn policyArn) fun _ =>
    changeCloud (·.attachManagedPolicy key policyArn)

/-! ## The tiers of roles -/

def getFast? (key : RoleKey) : Service (Option FastEntry) := do
  discard <| meet .getFast
  return (← get).fast.get? key

def putFast (key : RoleKey) (entry : FastEntry) (freshness : Nat) : Service Unit := do
  log (.putFast key.arn entry.cachedAt freshness)
  discard <| meet .putFast
  modify fun w => { w with fast := w.fast.insert key entry }

def findDurable? (key : RoleKey) : Service (Option DurableRow) := do
  discard <| meet .findDurable
  return (← get).durable.find? key

def saveDurable (row : DurableRow) : Service Unit := do
  log (.saveDurable row.arn row.expiry)
  discard <| meet .saveDurable
  modify fun w => { w with durable := w.durable.save row }

def purgeDurable (now : Timestamp) : Service Nat := do
  log (.purgeDurable now)
  discard <| meet .purgeDurable
  modifyGet fun w =>
    let (count, durable) := w.durable.purge now
    (count, { w with durable := durable })

/-! ## The configuration -/

def findConfig? (id : String) : Service (Option ConfigVersion) := do
  discard <| meet .findConfig
  return (← get).config.find? id

def archiveConfig (v : ConfigVersion) : Service Unit := do
  log (.archiveConfig v.id)
  discard <| meet .archiveConfig
  let table ← lift ((← get).config.archive v)
  modify fun w => { w with config := table }

def swapConfig (expected : Option String) (v : ConfigVersion) : Service Bool := do
  log (.swapConfig v.updatedAt)
  match ← meet .swapConfig with
  | .lost => return false
  | _ =>
    modifyGet fun w =>
      let (swapped, table) := w.config.swapMaster expected v
      (swapped, { w with config := table })

def listConfigArchive (limit : Nat) : Service (List String) := do
  discard <| meet .listConfig
  return (← get).config.archiveIds limit

def getConfigCopy? : Service (Option ConfigVersion) := do
  discard <| meet .getConfigCopy
  return (← get).configCopy

def putConfigCopy (v : ConfigVersion) : Service Unit := do
  log (.putConfigCopy v.checksum)
  discard <| meet .putConfigCopy
  modify fun w => { w with configCopy := some v }

/-! ## Eligible roles -/

def getEligible? (user : String) (console : Bool) : Service (Option (List RoleMapping)) := do
  discard <| meet .getEligible
  return (← get).eligible.get? user console

def putEligible (user : String) (console : Bool) (roles : List RoleMapping) (lifetime : Nat) :
    Service Unit := do
  log (.putEligible user console lifetime)
  discard <| meet .putEligible
  modify fun w => { w with eligible := w.eligible.put user console roles lifetime }

def invalidateEligible (user : String) : Service Unit := do
  log (.invalidateUser user)
  discard <| meet .invalidateUser
  modify fun w => { w with eligible := w.eligible.invalidate user }

/-! ## Events and ids -/

def notify (event : Event) : Service Unit := do
  log (.notify event)
  discard <| meet .notify

def drawId : Service String :=
  modifyGet fun w => (w.nextId, { w with drawn := w.drawn + 1 })

end AccessBroker.Service
