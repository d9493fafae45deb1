import AccessBroker.Error
import AccessBroker.Text.Split

/-! # The calls of the identity service

A peer answers the calls of each action in the order in which they come, and
refuses those for which it has no answer left.  What it was asked, and with
whose credentials, is kept in a journal.
-/

namespace AccessBroker.Iam

inductive Reply (α : Type) where
  | answered (a : α)
  | refused (code : String)
  /-- A success by its status, with something else in it than was asked for. -/
  | unreadable
  /-- The connection broke. -/
  | cutOff
  /-- Nothing came in time. -/
  | timedOut

/-- The code of a peer that has no answer left. -/
def unscripted : String := "Unscripted"

structure Page (α : Type) where
  items : List α
  marker : Option String
  truncated : Bool

/-- The marker of the next page, if there is one. -/
def Page.next? {α : Type} (p : Page α) : Option String :=
  if p.truncated then p.marker else none

/-- What the service says of a role. -/
structure RoleRecord where
  arn : String
  name : String
  id : String
  /-- Who may assume the role, as an encoded document. -/
  trust : Option String

/-- A managed policy that is attached to a role. -/
structure AttachedPolicy where
  name : Option String
  arn : Option String

inductive Action where
  | assumeRole
  | getRole
  | listRolePolicies
  | getRolePolicy
  | listAttachedRolePolicies
  | listRoleTags
  | listRoles
  | putRolePolicy
  | attachRolePolicy
deriving DecidableEq, Repr

namespace Action

def name : Action → String
  | assumeRole => "AssumeRole"
  | getRole => "GetRole"
  | listRolePolicies => "ListRolePolicies"
  | getRolePolicy => "GetRolePolicy"
  | listAttachedRolePolicies => "ListAttachedRolePolicies"
  | listRoleTags => "ListRoleTags"
  | listRoles => "ListRoles"
  | putRolePolicy => "PutRolePolicy"
  | attachRolePolicy => "AttachRolePolicy"

/-- How the action is called in errors. -/
def operation : Action → String
  | assumeRole => "assume_role"
  | getRole => "get_role"
  | listRolePolicies => "list_role_policies"
  | getRolePolicy => "get_role_policy"
  | listAttachedRolePolicies => "list_attached_role_policies"
  | listRoleTags => "list_role_tags"
  | listRoles => "list_roles"
  | putRolePolicy => "put_role_policy"
  | attachRolePolicy => "attach_role_policy"

end Action

structure Call where
  action : Action
  /-- The account whose role signs, or none for the program's own credentials. -/
  signer : Option String
  parameters : List (String × String)
deriving DecidableEq, Repr

/-- The answers that a peer has left, by action. -/
structure Script where
  getRole : List (Reply RoleRecord)
  listRolePolicies : List (Reply (Page String))
  getRolePolicy : List (Reply String)
  listAttachedRolePolicies : List (Reply (Page AttachedPolicy))
  listRoleTags : List (Reply (Page (String × String)))
  listRoles : List (Reply (Page String))
  putRolePolicy : List (Reply Unit)
  attachRolePolicy : List (Reply Unit)

/-! ## Errors -/

/-- The codes of a service that is asked too much for the moment. -/
def throttlingCodes : List String :=
  ["Throttling", "ThrottlingException", "RequestLimitExceeded", "ServiceFailure",
    "ServiceUnavailable"]

/-- The code for something that does not exist. -/
def missingCode : String := "NoSuchEntity"

/-- The message of an action that failed; the details follow. -/
def failureMessage (action : Action) : String :=
  s!"iam {action.operation} failed: "

def refusalError (action : Action) (code : String) : Error :=
  if throttlingCodes.contains code then .transient (failureMessage action)
  else if code = missingCode then .notFound (failureMessage action)
  else .internal (failureMessage action)

namespace Reply

variable {α : Type}

/-- The characters that an answer can hold: of the controls only tabs and line ends. -/
def isCarried (c : Char) : Bool :=
  if c.toNat < 0x20 then c = '\t' || c = '\n' || c = '\r' else c ≠ '\ufffe' && c ≠ '\uffff'

/-- The answer that is put together from texts. -/
def ofTexts (texts : List String) (a : α) : Reply α :=
  if texts.all fun s => s.toList.all isCarried then .answered a else .unreadable

/-- The answer that tells of an error: under the status of a success it is not taken for one. -/
def ofError (status : Nat) (code : String) : Reply α :=
  if 200 ≤ status ∧ status < 300 then .unreadable else .refused code

def result (action : Action) : Reply α → Except Error α
  | answered a => .ok a
  | refused code => .error (refusalError action code)
  | unreadable => .error (.internal (failureMessage action))
  | cutOff | timedOut => .error (.transient (failureMessage action))

/-- The result of a call whose answer holds nothing to read. -/
def done (action : Action) : Reply Unit → Except Error Unit
  | unreadable => .ok ()
  | reply => reply.result action

end Reply

/-- The next answer and those after it. -/
def nextReply {α : Type} : List (Reply α) → Reply α × List (Reply α)
  | [] => (.refused unscripted, [])
  | reply :: rest => (reply, rest)

/-! ## Listings -/

/-- What came of a listing: the markers that were sent, the answers that are left, and the
items. -/
structure Listing (α : Type) where
  markers : List (Option String)
  left : List (Reply (Page α))
  result : Except Error (List α)

/-- Asks for page after page, beginning with the one of a marker. -/
def list {α : Type} (action : Action) (marker : Option String) :
    List (Reply (Page α)) → Listing α
  | [] => ⟨[marker], [], .error (refusalError action unscripted)⟩
  | reply :: left =>
    match reply.result action with
    | .error e => ⟨[marker], left, .error e⟩
    | .ok page =>
      match page.next? with
      | none => ⟨[marker], left, .ok page.items⟩
      | some next =>
        let more := list action (some next) left
        { more with
          markers := marker :: more.markers
          result := more.result.map (page.items ++ ·) }

end AccessBroker.Iam
