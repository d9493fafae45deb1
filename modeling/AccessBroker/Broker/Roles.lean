import AccessBroker.Broker.Calls

/-! # Reading roles

A role is served from the fast tier while it is fresh there, from the durable
tier while its row lasts, and otherwise from the cloud.  What the cloud shows
is put into both tiers under the key that was asked for, provided that it
describes the role of that key.
-/

namespace AccessBroker

namespace Service

/-- Whether an entry of the fast tier is still fresh. -/
def isFresh (settings : Settings) (now : Timestamp) (entry : FastEntry) : Bool :=
  now.since entry.cachedAt < settings.fastFreshness

/-- The fresh document of the fast tier; a tier that fails counts as empty. -/
def readFast (key : RoleKey) : Service (Option RoleDocument) := do
  let entry ← tryCatch (getFast? key) fun _ => pure none
  let settings ← settings
  let now ← now
  match entry with
  | some entry => return if isFresh settings now entry then some entry.role else none
  | none => return none

/-- The document of the durable tier, if its row lasts. -/
def readDurable (key : RoleKey) : Service (Option RoleDocument) := do
  match ← findDurable? key with
  | none => return none
  | some row =>
    if row.expiry ≤ (← now) then return none
    else return some (← lift (RoleDocument.ofPolicyText row.policy))

/-- Puts a document into the fast tier; a tier that fails is passed over. -/
def writeFast (key : RoleKey) (role : RoleDocument) : Service Unit := do
  let entry : FastEntry := ⟨role, ← now⟩
  quietly (putFast key entry (← settings).fastFreshness)

/-- The form in which a reading of the cloud is kept: with the time, the template, and its
attachments in order. -/
def finalize (settings : Settings) (now : Timestamp) (role : RoleDocument) : RoleDocument :=
  RoleDocument.canonical
    { role with fetchedAt := now, templated := role.tags.get? settings.templateTag }

/-- The row of the durable tier for a document read under a key. -/
def durableRow (settings : Settings) (key : RoleKey) (role : RoleDocument) : DurableRow where
  arn := key.arn
  account := key.account
  policy := role.policyText
  templated := role.templated
  expiry := role.fetchedAt.plus settings.durableLifetime

/-- Reads a role from the cloud and puts it into both tiers. -/
def refreshRole (key : RoleKey) : Service (Option RoleDocument) := do
  match ← fetchCloudRole key with
  | none => return none
  | some shown =>
    lift (shown.ensureDescribes key)
    let role := finalize (← settings) (← now) shown
    saveDurable (durableRow (← settings) key role)
    writeFast key role
    return some role

/-- A role, or none if there is no such role; `force` goes straight to the cloud. -/
def fetchRole (key : RoleKey) (force : Bool) : Service (Option RoleDocument) := do
  if force then refreshRole key
  else
    match ← readFast key with
    | some role => return some role
    | none =>
      match ← readDurable key with
      | some role =>
        writeFast key role
        return some role
      | none => refreshRole key

/-- Drops the rows of the durable tier that have run out. -/
def purgeExpired : Service Nat := do
  purgeDurable (← now)

end Service

/-- What came of reading all roles of an account. -/
structure AccountRefresh where
  refreshed : Nat
  missing : Nat
  failed : Nat
deriving DecidableEq, Repr

namespace AccountRefresh

def none : AccountRefresh := ⟨0, 0, 0⟩

/-- Counts one more role: read, not there, or failed. -/
def count (s : AccountRefresh) : Except Error (Option RoleDocument) → AccountRefresh
  | .ok (some _) => { s with refreshed := s.refreshed + 1 }
  | .ok .none => { s with missing := s.missing + 1 }
  | .error _ => { s with failed := s.failed + 1 }

end AccountRefresh

namespace Service

/-- Reads the roles of some resource names from the cloud, one after the other. -/
def refreshRoles (account : String) : AccountRefresh → List String → Service AccountRefresh
  | summary, [] => return summary
  | summary, arn :: rest => do
    let outcome ← tryCatch
      (do return .ok (← fetchRole (← lift (RoleKey.of account arn)) true))
      (fun e => return .error e)
    refreshRoles account (summary.count outcome) rest

/-- Reads all roles of an account from the cloud. -/
def refreshAccount (account : String) : Service AccountRefresh := do
  refreshRoles account .none (← listCloudRoles account)

end Service

end AccessBroker
