import AccessBroker.Iam.Api
import AccessBroker.Json.Printer
import AccessBroker.Role.Document
import AccessBroker.Text.Percent

/-! # Reading and changing roles through the identity service

A role is put together from the answers to several calls.  If one of them fails
there is no role: a part that does not exist means that the role is gone, and
any other failure is the failure of the whole.  With a role to assume, every
account is asked with credentials of its own.
-/

namespace AccessBroker.Iam

/-- A peer, what it was asked (latest first), and the accounts whose role was assumed. -/
structure Peer where
  script : Script
  journal : List Call
  assumed : List String

/-- A conversation with a peer. -/
abbrev Session := ExceptT Error (StateM Peer)

namespace Session

variable {α : Type}

def perform (session : Session α) (p : Peer) : Except Error α × Peer :=
  session.run.run p

def lift (x : Except Error α) : Session α :=
  ExceptT.mk (pure x)

def log (call : Call) : Session Unit :=
  modify fun p => { p with journal := call :: p.journal }

/-- Makes a call; `select` finds the answers of the action and `store` puts back those left. -/
def call (action : Action) (signer : Option String) (parameters : List (String × String))
    (select : Script → List (Reply α)) (store : Script → List (Reply α) → Script) :
    Session (Reply α) := do
  log ⟨action, signer, parameters⟩
  modifyGet fun p =>
    let (reply, left) := nextReply (select p.script)
    (reply, { p with script := store p.script left })

def listAll (action : Action) (signer : Option String) (parameters : List (String × String))
    (select : Script → List (Reply (Page α))) (store : Script → List (Reply (Page α)) → Script) :
    Session (List α) := do
  let listing := list action none (select (← get).script)
  for marker in listing.markers do
    log ⟨action, signer, parameters ++ (marker.map fun m => ("Marker", m)).toList⟩
  modify fun p => { p with script := store p.script listing.left }
  lift listing.result

end Session

/-! ## Names -/

def arnPart? (arn : String) (n : Nat) : Option String :=
  (Text.split ':' arn)[n]?

def arnAccount? (arn : String) : Option String := arnPart? arn 4

def standardPartition : String := "aws"

def arnPartition (arn : String) : String :=
  ((arnPart? arn 1).filter (!·.isEmpty)).getD standardPartition

/-- The resource name of the role to assume in an account. -/
def assumedArn (partition account role : String) : String :=
  s!"arn:{partition}:iam::{account}:role/{role}"

/-- Whose credentials sign the calls for an account; its role is assumed at the first use. -/
def signerFor (assume : Option String) (account partition : String) : Session (Option String) := do
  match assume with
  | none => return none
  | some role =>
    if !(← get).assumed.contains account then
      Session.log ⟨.assumeRole, none,
        [("RoleArn", assumedArn partition account role), ("RoleSessionName", "rolegate")]⟩
      modify fun p => { p with assumed := account :: p.assumed }
    return some account

/-- Whose credentials sign the calls for a role. -/
def signerForKey (assume : Option String) (key : RoleKey) : Session (Option String) :=
  signerFor assume key.account (arnPartition key.arn)

/-! ## Reading -/

/-- The value of an encoded policy document. -/
def decodeDocument (encoded : String) : Except Error Json :=
  match Text.percentDecoded? encoded with
  | none => .error (.internal "policy document is not valid UTF-8: ")
  | some text =>
    match Json.parse text with
    | some j => .ok j
    | none => .error (.internal "policy document is not valid JSON: ")

/-- The policy documents of a role, by their names. -/
def readPolicies (signer : Option String) (role : String) :
    List String → Table Json → Session (Table Json)
  | [], found => return found
  | name :: rest, found => do
    let reply ← Session.call .getRolePolicy signer [("RoleName", role), ("PolicyName", name)]
      (·.getRolePolicy) fun s left => { s with getRolePolicy := left }
    let document ← Session.lift (reply.result .getRolePolicy)
    let document ← Session.lift (decodeDocument document)
    readPolicies signer role rest (found.insert name document)

def inlinePolicies (signer : Option String) (role : String) : Session (Table Json) := do
  let names ← Session.listAll .listRolePolicies signer [("RoleName", role)]
    (·.listRolePolicies) fun s left => { s with listRolePolicies := left }
  readPolicies signer role names .empty

/-- The attachments that have both a name and a resource name. -/
def managedPolicies (signer : Option String) (role : String) : Session (List Attachment) := do
  let attached ← Session.listAll .listAttachedRolePolicies signer [("RoleName", role)]
    (·.listAttachedRolePolicies) fun s left => { s with listAttachedRolePolicies := left }
  return attached.filterMap fun a =>
    match a.name, a.arn with
    | some name, some arn => some ⟨name, arn⟩
    | _, _ => none

/-- The tags of a role; the last one of a key counts. -/
def tags (signer : Option String) (role : String) : Session (Table String) := do
  let tags ← Session.listAll .listRoleTags signer [("RoleName", role)]
    (·.listRoleTags) fun s left => { s with listRoleTags := left }
  return .ofList tags

/-- A role before its policies and tags are known. -/
def bareDocument (r : RoleRecord) : Except Error RoleDocument := do
  let trust ← match r.trust with
    | some encoded => decodeDocument encoded
    | none => .ok .null
  return {
    arn := r.arn
    account := (arnAccount? r.arn).getD ""
    roleName := r.name
    roleId := r.id
    trustPolicy := trust
    inlinePolicies := .empty
    managedPolicies := []
    tags := .empty
    templated := none
    fetchedAt := .clamp 0 }

/-- The role with its policies and tags. -/
def completeDocument (signer : Option String) (role : String) (d : RoleDocument) :
    Session RoleDocument := do
  let inline ← inlinePolicies signer role
  let managed ← managedPolicies signer role
  let tags ← tags signer role
  return { d with inlinePolicies := inline, managedPolicies := managed, tags := tags }

def fetchRole (assume : Option String) (key : RoleKey) : Session (Option RoleDocument) := do
  let signer ← signerForKey assume key
  let reply ← Session.call .getRole signer [("RoleName", key.roleName)]
    (·.getRole) fun s left => { s with getRole := left }
  match reply.result .getRole with
  | .error e => if e.kind = .notFound then return none else throw e
  | .ok record =>
    let d ← Session.lift (bareDocument record)
    Session.lift (d.ensureDescribes key)
    tryCatch (some <$> completeDocument signer key.roleName d) fun e =>
      if e.kind = .notFound then return none else throw e

/-- The resource names of an account's roles, in the order of the listing. -/
def roleArns (assume : Option String) (account : String) : Session (List String) := do
  let signer ← signerFor assume account standardPartition
  let arns ← Session.listAll .listRoles signer []
    (·.listRoles) fun s left => { s with listRoles := left }
  return arns.filter fun arn => arnAccount? arn = some account

/-! ## Changing -/

def putInlinePolicy (assume : Option String) (key : RoleKey) (name : String) (document : Json) :
    Session Unit := do
  let signer ← signerForKey assume key
  let reply ← Session.call .putRolePolicy signer
    [("RoleName", key.roleName), ("PolicyName", name), ("PolicyDocument", document.print)]
    (·.putRolePolicy) fun s left => { s with putRolePolicy := left }
  Session.lift (reply.done .putRolePolicy)

def attachManagedPolicy (assume : Option String) (key : RoleKey) (policyArn : String) :
    Session Unit := do
  let signer ← signerForKey assume key
  let reply ← Session.call .attachRolePolicy signer
    [("RoleName", key.roleName), ("PolicyArn", policyArn)]
    (·.attachRolePolicy) fun s left => { s with attachRolePolicy := left }
  Session.lift (reply.done .attachRolePolicy)

end AccessBroker.Iam
