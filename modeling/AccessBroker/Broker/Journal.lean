import AccessBroker.Access.Store

/-! # The journal of calls

What the services ask of other systems.  Every kind of call has a name: the
system that is called, and what is asked of it.  A call of the journal is
written as the name of its kind and what was passed.
-/

namespace AccessBroker

open Json (Tree)

/-- What the services ask of other systems, whether or not it is journaled. -/
inductive CallKind where
  | insertRequest
  | saveRequest
  | appendUser
  | listExpired
  | putGroup
  | addMember
  | removeMember
  | fetchRole
  | listRoleArns
  | putInlinePolicy
  | attachManagedPolicy
  | putFast
  | saveDurable
  | purgeDurable
  | archiveConfig
  | swapConfig
  | putConfigCopy
  | putEligible
  | invalidateUser
  | notify
  | findRequest
  | findPending
  | findRequests
  | listPending
  | listUser
  | groupAttributes
  | getFast
  | findDurable
  | findConfig
  | listConfig
  | getConfigCopy
  | getEligible
deriving DecidableEq, Repr

namespace CallKind

def all : List CallKind := [
  insertRequest, saveRequest, appendUser, listExpired, putGroup, addMember, removeMember, fetchRole,
  listRoleArns, putInlinePolicy, attachManagedPolicy, putFast, saveDurable, purgeDurable,
  archiveConfig, swapConfig, putConfigCopy, putEligible, invalidateUser, notify, findRequest,
  findPending, findRequests, listPending, listUser, groupAttributes, getFast, findDurable,
  findConfig, listConfig, getConfigCopy, getEligible]

def name : CallKind → String
  | insertRequest => "requests.insert"
  | saveRequest => "requests.save"
  | appendUser => "requests.append_user"
  | listExpired => "requests.list_expired"
  | putGroup => "groups.put"
  | addMember => "groups.add_member"
  | removeMember => "groups.remove_member"
  | fetchRole => "cloud.fetch_role"
  | listRoleArns => "cloud.list_role_arns"
  | putInlinePolicy => "cloud.put_inline_policy"
  | attachManagedPolicy => "cloud.attach_managed_policy"
  | putFast => "fast.put"
  | saveDurable => "durable.save"
  | purgeDurable => "durable.delete_expired"
  | archiveConfig => "config.archive"
  | swapConfig => "config.swap"
  | putConfigCopy => "config_cache.put"
  | putEligible => "auth_cache.put"
  | invalidateUser => "auth_cache.invalidate"
  | notify => "notify"
  | findRequest => "requests.find"
  | findPending => "requests.find_pending"
  | findRequests => "requests.find_many"
  | listPending => "requests.list_pending"
  | listUser => "requests.list_user"
  | groupAttributes => "groups.attributes"
  | getFast => "fast.get"
  | findDurable => "durable.find"
  | findConfig => "config.find"
  | listConfig => "config.list"
  | getConfigCopy => "config_cache.get"
  | getEligible => "auth_cache.get"

theorem mem_all (kind : CallKind) : kind ∈ all := by
  cases kind <;> decide

def named? (s : String) : Option CallKind :=
  all.find? (·.name == s)

end CallKind

namespace ExpiryCursor

def toTree (c : ExpiryCursor) : Tree :=
  .array [c.expiresAt.toTree, .string c.requestId]

end ExpiryCursor

/-- The calls that are journaled. -/
inductive Call where
  | insertRequest (id : String)
  | saveRequest (id : String) (status : Status)
  | appendUser (user id : String)
  | listExpired (now : Timestamp) (after : Option ExpiryCursor) (limit : Nat)
  | putGroup (group : String)
  | addMember (group user : String)
  | removeMember (group user : String)
  | fetchRole (arn : String)
  | listRoleArns (account : String)
  | putInlinePolicy (arn name : String)
  | attachManagedPolicy (arn policyArn : String)
  | putFast (arn : String) (cachedAt : Timestamp) (freshness : Nat)
  | saveDurable (arn : String) (expiry : Timestamp)
  | purgeDurable (now : Timestamp)
  | archiveConfig (id : String)
  | swapConfig (updatedAt : Timestamp)
  | putConfigCopy (checksum : String)
  | putEligible (user : String) (console : Bool) (lifetime : Nat)
  | invalidateUser (user : String)
  | notify (event : Event)
deriving DecidableEq

namespace Call

/-- What is asked with a call. -/
def kind : Call → CallKind
  | insertRequest .. => .insertRequest
  | saveRequest .. => .saveRequest
  | appendUser .. => .appendUser
  | listExpired .. => .listExpired
  | putGroup .. => .putGroup
  | addMember .. => .addMember
  | removeMember .. => .removeMember
  | fetchRole .. => .fetchRole
  | listRoleArns .. => .listRoleArns
  | putInlinePolicy .. => .putInlinePolicy
  | attachManagedPolicy .. => .attachManagedPolicy
  | putFast .. => .putFast
  | saveDurable .. => .saveDurable
  | purgeDurable .. => .purgeDurable
  | archiveConfig .. => .archiveConfig
  | swapConfig .. => .swapConfig
  | putConfigCopy .. => .putConfigCopy
  | putEligible .. => .putEligible
  | invalidateUser .. => .invalidateUser
  | notify .. => .notify

/-- What is passed with the call. -/
def passed : Call → List Tree
  | insertRequest id => [.string id]
  | saveRequest id status => [.string id, .string status.name]
  | appendUser user id => [.string user, .string id]
  | listExpired now after limit =>
    [now.toTree, (after.map ExpiryCursor.toTree).getD .null, .ofNat limit]
  | putGroup group => [.string group]
  | addMember group user => [.string group, .string user]
  | removeMember group user => [.string group, .string user]
  | fetchRole arn => [.string arn]
  | listRoleArns account => [.string account]
  | putInlinePolicy arn name => [.string arn, .string name]
  | attachManagedPolicy arn policyArn => [.string arn, .string policyArn]
  | putFast arn cachedAt freshness => [.string arn, cachedAt.toTree, .ofNat freshness]
  | saveDurable arn expiry => [.string arn, expiry.toTree]
  | purgeDurable now => [now.toTree]
  | archiveConfig id => [.string id]
  | swapConfig updatedAt => [updatedAt.toTree]
  | putConfigCopy checksum => [.string checksum]
  | putEligible user console lifetime => [.string user, .bool console, .ofNat lifetime]
  | invalidateUser user => [.string user]
  | notify event => [event.toTree]

def toTree (call : Call) : Tree :=
  .array (.string call.kind.name :: call.passed)

end Call

end AccessBroker
