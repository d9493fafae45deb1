import AccessBroker.Access.Target
import AccessBroker.Registry
import AccessBroker.Role.Document

/-! # The roles of the cloud

A cloud of roles that can be read and changed at once, and the tiers in which
readings of them are kept.
-/

namespace AccessBroker

structure Cloud where
  roles : Registry RoleKey RoleDocument

namespace Cloud

instance : Inhabited Cloud := ⟨⟨.empty⟩⟩

def role? (c : Cloud) (key : RoleKey) : Option RoleDocument :=
  c.roles.get? key

/-- Puts a role under the key that its own document names. -/
def upsert (c : Cloud) (d : RoleDocument) : Except Error Cloud := do
  let key ← d.key
  return ⟨c.roles.insert key d⟩

/-- A cloud of some roles. -/
def ofDocuments (documents : List RoleDocument) : Except Error Cloud :=
  documents.foldlM upsert ⟨.empty⟩

def delete (c : Cloud) (key : RoleKey) : Cloud :=
  ⟨c.roles.erase key⟩

/-- Puts a text at its place in an ascending list that may hold it already. -/
def placeText (s : String) : List String → List String
  | [] => [s]
  | t :: rest => if t < s then t :: placeText s rest else s :: t :: rest

/-- The resource names of an account's roles, in ascending order. -/
def roleArns (c : Cloud) (account : String) : List String :=
  ((c.roles.keys.filter (·.account == account)).map (·.arn)).foldr placeText []

def missing (key : RoleKey) : Error :=
  .notFound s!"role '{key.arn}' does not exist"

def putInlinePolicy (c : Cloud) (key : RoleKey) (name : String) (document : Json) :
    Except Error Cloud :=
  match c.role? key with
  | none => .error (missing key)
  | some d =>
    .ok ⟨c.roles.insert key { d with inlinePolicies := d.inlinePolicies.insert name document }⟩

/-- Attaches a managed policy, which is named by the end of its resource name. -/
def attachManagedPolicy (c : Cloud) (key : RoleKey) (policyArn : String) : Except Error Cloud :=
  match c.role? key with
  | none => .error (missing key)
  | some d =>
    if d.hasManagedPolicy policyArn then .ok c
    else
      let name := String.ofList (Text.afterLast '/' policyArn.toList)
      .ok ⟨c.roles.insert key
        { d with managedPolicies := d.managedPolicies ++ [⟨name, policyArn⟩] }⟩

end Cloud

structure FastEntry where
  role : RoleDocument
  cachedAt : Timestamp
deriving DecidableEq

/-- The fast tier: readings of roles by their keys. -/
abbrev FastTier := Registry RoleKey FastEntry

structure DurableRow where
  arn : String
  account : String
  /-- The stored text of the document. -/
  policy : String
  templated : Option String
  /-- When the row runs out. -/
  expiry : Timestamp
deriving DecidableEq

namespace DurableRow

def toTree (r : DurableRow) : Json.Tree :=
  .object [
    ("arn", .string r.arn),
    ("account_id", .string r.account),
    ("policy", .string r.policy),
    ("templated", .ofText? r.templated),
    ("ttl", r.expiry.toTree)]

end DurableRow

/-- The durable tier: rows by resource name and account. -/
structure DurableTier where
  rows : Registry (String × String) DurableRow

namespace DurableTier

instance : Inhabited DurableTier := ⟨⟨.empty⟩⟩

def find? (t : DurableTier) (key : RoleKey) : Option DurableRow :=
  t.rows.get? (key.arn, key.account)

def save (t : DurableTier) (row : DurableRow) : DurableTier :=
  ⟨t.rows.insert (row.arn, row.account) row⟩

/-- Drops the rows that have run out, and counts them. -/
def purge (t : DurableTier) (now : Timestamp) : Nat × DurableTier :=
  let kept := t.rows.filter fun e => now < e.2.expiry
  (t.rows.size - kept.size, ⟨kept⟩)

theorem find?_save {t : DurableTier} {row : DurableRow} {key : RoleKey} :
    (t.save row).find? key =
      if (key.arn, key.account) = (row.arn, row.account) then some row else t.find? key :=
  Registry.get?_insert ..

/-- A row of one role leaves those of the others. -/
theorem find?_save_of_ne {t : DurableTier} {row : DurableRow} {other key : RoleKey}
    (apart : other ≠ key) (arn : row.arn = other.arn) (account : row.account = other.account) :
    (t.save row).find? key = t.find? key := by
  rw [find?_save, arn, account, if_neg]
  intro same
  obtain ⟨arn, account⟩ := Prod.mk.inj same
  exact apart (RoleKey.eq_of_parts account.symm arn.symm)

/-- A row that lasts is not purged. -/
theorem find?_purge {t : DurableTier} {now : Timestamp} {row : DurableRow} {key : RoleKey}
    (h : t.find? key = some row) (lasts : now < row.expiry) :
    (t.purge now).2.find? key = some row :=
  Registry.get?_filter_of_pos h (decide_eq_true lasts)

/-- What is left of a purge was there before it. -/
theorem find?_of_purge {t : DurableTier} {now : Timestamp} {row : DurableRow} {key : RoleKey}
    (h : (t.purge now).2.find? key = some row) : t.find? key = some row := by
  have kept := List.mem_filter.1 (Registry.get?_eq_some_iff.1 h)
  exact Registry.get?_eq_some_iff.2 kept.1

end DurableTier

end AccessBroker
