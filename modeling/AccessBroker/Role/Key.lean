import AccessBroker.Error
import AccessBroker.Text.Blank
import AccessBroker.Text.Split

/-! # Role keys

A role is known by its account, twelve digits, and its resource name
`arn:<partition>:iam:<region>:<account>:role/<path and name>`, whose account
has to be the same.  A key holds only such pairs.
-/

namespace AccessBroker

structure Arn where
  scheme : List Char
  partition : List Char
  service : List Char
  region : List Char
  account : List Char
  resource : List Char
deriving DecidableEq

/-- Five colons part a resource name; more of them belong to the last part. -/
def Arn.ofChars? (cs : List Char) : Option Arn := do
  let (scheme, cs) ← Text.cut ':' cs
  let (partition, cs) ← Text.cut ':' cs
  let (service, cs) ← Text.cut ':' cs
  let (region, cs) ← Text.cut ':' cs
  let (account, resource) ← Text.cut ':' cs
  return ⟨scheme, partition, service, region, account, resource⟩

def Arn.ofText? (s : String) : Option Arn :=
  Arn.ofChars? s.toList

namespace RoleKey

/-- Why a pair of account and resource name is no role key. -/
inductive Refusal where
  | accountForm
  | notIam
  | otherAccount
  | notRole
  | nameless
deriving DecidableEq

def isAccount (account : String) : Bool :=
  account.utf8ByteSize == 12 && account.toList.all Char.isDigit

/-- The first reason against a pair, if there is one. -/
def refusal? (account arn : String) : Option Refusal :=
  if !isAccount account then some .accountForm
  else
    match Arn.ofText? arn with
    | none => some .notIam
    | some a =>
      if a.scheme ≠ "arn".toList ∨ a.service ≠ "iam".toList then some .notIam
      else if a.account ≠ account.toList then some .otherAccount
      else
        match Text.after? "role/".toList a.resource with
        | none => some .notRole
        | some path => if (Text.afterLast '/' path).isEmpty then some .nameless else none

/-- What is said of a refused pair. -/
def Refusal.toError (account arn : String) : Refusal → Error
  | accountForm => .validation s!"account id '{account}' must be 12 digits"
  | notIam => .validation s!"'{arn}' is not an IAM ARN"
  | otherAccount => .validation s!"role arn '{arn}' does not belong to account '{account}'"
  | notRole => .validation s!"'{arn}' is not an IAM role ARN"
  | nameless => .validation s!"role arn '{arn}' has an empty role name"

end RoleKey

/-- An account and the resource name of one of its roles. -/
structure RoleKey where
  account : String
  arn : String
  wellFormed : RoleKey.refusal? account arn = none
deriving DecidableEq

namespace RoleKey

theorem eq_of_parts {a b : RoleKey} (account : a.account = b.account) (arn : a.arn = b.arn) :
    a = b := by
  cases a
  cases b
  cases account
  cases arn
  rfl

/-- The key of a pair after trimming, if it is well formed. -/
def of (account arn : String) : Except Error RoleKey :=
  let account := Text.trim account
  let arn := Text.trim arn
  match h : refusal? account arn with
  | none => .ok ⟨account, arn, h⟩
  | some refusal => .error (refusal.toError account arn)

/-- The role's name: what follows the last slash. -/
def roleName (k : RoleKey) : String :=
  String.ofList (Text.afterLast '/' k.arn.toList)

def display (k : RoleKey) : String :=
  k.arn ++ "@" ++ k.account

end RoleKey

end AccessBroker
