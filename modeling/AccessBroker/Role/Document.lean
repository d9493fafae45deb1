import AccessBroker.Clock
import AccessBroker.Json.Printer
import AccessBroker.Json.Record
import AccessBroker.Role.Key
import AccessBroker.Text.Lowercase

/-! # Role documents

All that is known of a role at one reading of the cloud.  The stored text lists
the fields in the order of the structure, and reading it back gives the
document again.
-/

namespace AccessBroker

structure Attachment where
  name : String
  arn : String
deriving DecidableEq, Inhabited

namespace Attachment

def fields : Json.Fields Attachment :=
  (Json.Fields.pure Attachment.mk).and (.required "policy_name" .text)
    |>.and (.required "policy_arn" .text)

def toTree (a : Attachment) : Json.Tree :=
  .object [("policy_name", .string a.name), ("policy_arn", .string a.arn)]

/-- Attachments are ordered by name, those of one name by resource name. -/
def before (a b : Attachment) : Bool :=
  a.name < b.name || (a.name == b.name && a.arn < b.arn)

/-- Puts an attachment at its place in an ascending list, unless it is there. -/
def place (a : Attachment) : List Attachment → List Attachment
  | [] => [a]
  | b :: rest =>
    if a.before b then a :: b :: rest
    else if a = b then b :: rest
    else b :: place a rest

/-- The attachments in ascending order without repeats. -/
def sort (attachments : List Attachment) : List Attachment :=
  attachments.foldr place []

theorem before_iff {a b : Attachment} :
    a.before b = true ↔ a.name < b.name ∨ a.name = b.name ∧ a.arn < b.arn := by
  simp [before]

theorem before_trans {a b c : Attachment} (hab : a.before b = true) (hbc : b.before c = true) :
    a.before c = true := by
  rw [before_iff] at *
  rcases hab with hab | ⟨hab, arns⟩ <;> rcases hbc with hbc | ⟨hbc, arns'⟩
  · exact .inl (String.lt_trans hab hbc)
  · exact .inl (hbc ▸ hab)
  · exact .inl (hab ▸ hbc)
  · exact .inr ⟨hab.trans hbc, String.lt_trans arns arns'⟩

theorem before_of_not_before {a b : Attachment} (h : ¬ a.before b = true) (ne : a ≠ b) :
    b.before a = true := by
  rw [before_iff, not_or] at h
  have names : b.name ≤ a.name := String.not_lt.1 h.1
  rw [before_iff]
  by_cases below : b.name < a.name
  · exact .inl below
  · have same : a.name = b.name := String.le_antisymm (String.not_lt.1 below) names
    have arns : b.arn ≤ a.arn := String.not_lt.1 fun lt => h.2 ⟨same, lt⟩
    refine .inr ⟨same.symm, Decidable.byContradiction fun notBelow => ne ?_⟩
    have sameArn : a.arn = b.arn := String.le_antisymm (String.not_lt.1 notBelow) arns
    cases a
    cases b
    cases same
    cases sameArn
    rfl

theorem mem_place {a x : Attachment} {attachments : List Attachment} :
    x ∈ place a attachments ↔ x = a ∨ x ∈ attachments := by
  fun_induction place a attachments <;> grind

theorem pairwise_place {a : Attachment} {attachments : List Attachment}
    (h : attachments.Pairwise fun x y => x.before y = true) :
    (place a attachments).Pairwise fun x y => x.before y = true := by
  fun_induction place a attachments with
  | case1 => simp
  | case2 b rest below =>
    refine List.pairwise_cons.2 ⟨fun x hx => ?_, h⟩
    rcases List.mem_cons.1 hx with rfl | hx
    · exact below
    · exact before_trans below ((List.pairwise_cons.1 h).1 x hx)
  | case3 => exact h
  | case4 b rest notBelow ne ih =>
    obtain ⟨first, others⟩ := List.pairwise_cons.1 h
    refine List.pairwise_cons.2 ⟨fun x hx => ?_, ih others⟩
    rcases mem_place.1 hx with rfl | hx
    · exact before_of_not_before notBelow ne
    · exact first x hx

theorem mem_sort {x : Attachment} {attachments : List Attachment} :
    x ∈ sort attachments ↔ x ∈ attachments := by
  induction attachments with
  | nil => exact Iff.rfl
  | cons a rest ih => rw [sort, List.foldr_cons, mem_place, List.mem_cons, ← ih, sort]

theorem pairwise_sort (attachments : List Attachment) :
    (sort attachments).Pairwise fun x y => x.before y = true := by
  induction attachments with
  | nil => exact .nil
  | cons a rest ih => exact pairwise_place ih

end Attachment

/-- A role as one reading of the cloud shows it. -/
structure RoleDocument where
  arn : String
  account : String
  roleName : String
  roleId : String
  trustPolicy : Json
  inlinePolicies : Table Json
  managedPolicies : List Attachment
  tags : Table String
  /-- The template that the role was made from. -/
  templated : Option String
  /-- When the cloud was read. -/
  fetchedAt : Timestamp
deriving DecidableEq

namespace Timestamp

def reader : Json.Reader Timestamp :=
  Json.Reader.map clamp (.integer (-9223372036854775808) 9223372036854775807)

end Timestamp

namespace RoleDocument

def fields : Json.Fields RoleDocument :=
  (Json.Fields.pure RoleDocument.mk).and (.required "arn" .text)
    |>.and (.required "account_id" .text)
    |>.and (.required "role_name" .text)
    |>.and (.required "role_id" .text)
    |>.and (.required "assume_role_policy_document" .value)
    |>.and (.required "inline_policies" (.table .value))
    |>.and (.required "managed_policies" (.list Attachment.fields.reader))
    |>.and (.required "tags" (.table .text))
    |>.and (.optional "templated" .text)
    |>.and (.required "fetched_at" Timestamp.reader)

def reader : Json.Reader RoleDocument :=
  fields.reader

def toTree (d : RoleDocument) : Json.Tree :=
  .object [
    ("arn", .string d.arn),
    ("account_id", .string d.account),
    ("role_name", .string d.roleName),
    ("role_id", .string d.roleId),
    ("assume_role_policy_document", d.trustPolicy.tree),
    ("inline_policies", .object (d.inlinePolicies.toList.map fun p => (p.1, p.2.tree))),
    ("managed_policies", .array (d.managedPolicies.map Attachment.toTree)),
    ("tags", .object (d.tags.toList.map fun t => (t.1, .string t.2))),
    ("templated", .ofText? d.templated),
    ("fetched_at", d.fetchedAt.toTree)]

def policyText (d : RoleDocument) : String :=
  d.toTree.text

def ofPolicyText (s : String) : Except Error RoleDocument :=
  match Json.readText reader s with
  | .ok d => .ok d
  | .error _ => .error (.internal "failed to parse cached role document: ")

def key (d : RoleDocument) : Except Error RoleKey :=
  RoleKey.of d.account d.arn

/-- Checks that the document is one of the role `key`: of the same account, and of the same name
but for the case of ASCII letters. -/
def ensureDescribes (d : RoleDocument) (key : RoleKey) : Except Error Unit :=
  match RoleKey.of key.account d.arn with
  | .error _ =>
    .error (.internal
      s!"cloud returned role '{d.arn}' for '{key.arn}' in account '{key.account}'")
  | .ok own =>
    if d.account = key.account ∧ Text.sameAscii own.roleName key.roleName then .ok ()
    else
      .error (.internal
        s!"cloud returned role '{d.arn}' in account '{d.account}' for '{key.arn}'")

/-- The document with its attachments in ascending order without repeats. -/
def canonical (d : RoleDocument) : RoleDocument :=
  { d with managedPolicies := Attachment.sort d.managedPolicies }

/-- Whether a managed policy of that resource name is attached. -/
def hasManagedPolicy (d : RoleDocument) (policyArn : String) : Bool :=
  d.managedPolicies.any (·.arn == policyArn)

end RoleDocument

end AccessBroker
