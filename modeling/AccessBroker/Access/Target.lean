import AccessBroker.Error
import AccessBroker.Json.Printer
import AccessBroker.Json.Record
import AccessBroker.Text.Lowercase
import AccessBroker.Text.Split

/-! # What a request asks for

Membership in a group, or a change of the policies of a role.  `Target.key`
tells whether two requests ask for the same.
-/

namespace AccessBroker

/-- A change of the policies of a role. -/
inductive PolicyChange where
  /-- Writes an inline policy. -/
  | inlinePolicy (name : String) (document : Json)
  /-- Attaches a managed policy. -/
  | managedPolicy (arn : String)
deriving DecidableEq

namespace PolicyChange

/-- The name or resource name of the policy. -/
def identifier : PolicyChange → String
  | inlinePolicy name _ => name
  | managedPolicy arn => arn

/-- Equality of changes, whose documents are compared as values. -/
def same : PolicyChange → PolicyChange → Bool
  | inlinePolicy n d, inlinePolicy m e => n == m && d.same e
  | managedPolicy a, managedPolicy b => a == b
  | _, _ => false

/-- The two forms of a change; inside another union the tag may be a number. -/
def union (nested : Bool) : Json.Union PolicyChange where
  tag := "type"
  variants := [
    ("inline_policy",
      (Json.Fields.pure inlinePolicy).and (.required "policy_name" .text)
        |>.and (.required "document" .value)),
    ("managed_policy",
      (Json.Fields.pure managedPolicy).and (.required "policy_arn" .text))]
  numbered := nested

def toTree : PolicyChange → Json.Tree
  | inlinePolicy name document => .object [
      ("type", .string "inline_policy"),
      ("policy_name", .string name),
      ("document", document.tree)]
  | managedPolicy arn => .object [
      ("type", .string "managed_policy"),
      ("policy_arn", .string arn)]

end PolicyChange

/-- What a request asks for. -/
inductive Target where
  | group (name : String)
  | policy (account arn : String) (change : PolicyChange)
deriving DecidableEq

namespace Target

def union : Json.Union Target where
  tag := "kind"
  variants := [
    ("group", (Json.Fields.pure group).and (.required "group_name" .text)),
    ("policy",
      (Json.Fields.pure policy).and (.required "account_id" .text)
        |>.and (.required "principal_arn" .text)
        |>.and (.required "change" (PolicyChange.union true).reader))]
  numbered := false

def reader : Json.Reader Target :=
  union.reader

def toTree : Target → Json.Tree
  | group name => .object [("kind", .string "group"), ("group_name", .string name)]
  | policy account arn change => .object [
      ("kind", .string "policy"),
      ("account_id", .string account),
      ("principal_arn", .string arn),
      ("change", change.toTree)]

/-- Equal for two targets that count as the same. -/
def key : Target → String
  | group name => "group:" ++ Text.normalize name
  | policy _ arn change => "policy:" ++ arn ++ ":" ++ change.identifier

/-- The group's or the role's name. -/
def name : Target → String
  | group name => name
  | policy _ arn _ => arn

/-- The policy that a change is about. -/
def identifier? : Target → Option String
  | group _ => none
  | policy _ _ change => some change.identifier

/-- Whether a text looks like the resource name of a managed policy. -/
def isPolicyArn (s : String) : Bool :=
  (Text.after? "arn:".toList s.toList).isSome &&
    Text.occurs ":policy/".toList s.toList

/-- Refuses targets without a name and changes that no role can take. -/
def validate : Target → Except Error Unit
  | group name =>
    if Text.isAllBlank name then .error (.validation "group request requires a group name")
    else .ok ()
  | policy _ _ (.inlinePolicy name document) =>
    if Text.isAllBlank name then
      .error (.validation "inline policy request requires a policy name")
    else if !document.isObject then
      .error (.validation "inline policy document must be a JSON object")
    else .ok ()
  | policy _ _ (.managedPolicy arn) =>
    if isPolicyArn arn then .ok ()
    else .error (.validation s!"'{arn}' is not a managed policy ARN")

end Target

end AccessBroker
