import AccessBroker.Authorization.Capability
import AccessBroker.Digest.Sha256
import AccessBroker.Json.Printer
import AccessBroker.Json.Record
import AccessBroker.Text.Lowercase

/-! # Configuration documents

The configuration that administrators edit while the services run: one JSON
object.  Sections that are missing or of another shape count as empty.  The
checksum is taken of the printed document, in which the members are in
ascending order at every depth.
-/

namespace AccessBroker

/-- A role offered to a group. -/
structure RoleMapping where
  arn : String
  /-- Whether the role is only for sessions in the console. -/
  consoleOnly : Bool
deriving DecidableEq

namespace RoleMapping

def fields : Json.Fields RoleMapping :=
  (Json.Fields.pure RoleMapping.mk).and (.required "arn" .text)
    |>.and (.withDefault "console_only" .bool false)

def toTree (m : RoleMapping) : Json.Tree :=
  .object [("arn", .string m.arn), ("console_only", .bool m.consoleOnly)]

/-- A mapping is written as a resource name alone or as a record. -/
def ofJson? (j : Json) : Option RoleMapping :=
  match j.text? with
  | some arn => some ⟨arn, false⟩
  | none => Json.read? fields.reader j

end RoleMapping

/-- A configuration document. -/
structure ConfigDocument where
  json : Json
  isObject : json.isObject = true
deriving DecidableEq

namespace ConfigDocument

def empty : ConfigDocument :=
  ⟨.object [], rfl⟩

instance : Inhabited ConfigDocument := ⟨empty⟩

def ofJson (j : Json) : Except Error ConfigDocument :=
  if h : j.isObject = true then .ok ⟨j, h⟩
  else .error (.validation "dynamic configuration must be a JSON object")

def parse (s : String) : Except Error ConfigDocument :=
  match Json.parse s with
  | some j => ofJson j
  | none => .error (.validation "dynamic configuration is not valid JSON: ")

/-- The one text of a document. -/
def canonicalText (d : ConfigDocument) : String :=
  Json.print d.json

def canonicalBytes (d : ConfigDocument) : List UInt8 :=
  d.canonicalText.toUTF8.toList

def checksum (d : ConfigDocument) : String :=
  Sha256.hex d.canonicalText.toUTF8.toList

/-- The non-blank names of a list, in normal form; what is not a text is no name. -/
def names (j : Option Json) : List String :=
  match j.bind Json.items? with
  | some items => ((items.filterMap Json.text?).map Text.normalize).filter (· ≠ "")
  | none => []

/-- Users and groups with every capability. -/
def admins (d : ConfigDocument) : List String :=
  names (d.json.field? "admins")

/-- Users and groups with one capability. -/
def holders (d : ConfigDocument) (c : Capability) : List String :=
  names ((d.json.field? "capabilities").bind (·.field? c.name))

/-- Groups whose members approve their own requests. -/
def selfApprovalGroups (d : ConfigDocument) : List String :=
  names (d.json.field? "self_approval_groups")

/-- The roles offered to a group, whose name is compared up to the case of ASCII letters. -/
def roleMappings (d : ConfigDocument) (group : String) : List RoleMapping :=
  match (d.json.field? "role_mappings").bind Json.members? with
  | some sections =>
    (sections.filter fun m => Text.sameAscii m.1 group).flatMap fun m =>
      (m.2.items?.getD []).filterMap RoleMapping.ofJson?
  | none => []

def same (a b : ConfigDocument) : Bool :=
  a.json.same b.json

end ConfigDocument

end AccessBroker
