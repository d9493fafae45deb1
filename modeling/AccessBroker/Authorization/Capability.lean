import AccessBroker.Error

/-! # Capabilities -/

namespace AccessBroker

/-- What an allow-list can permit. -/
inductive Capability where
  | approveRequests
  | editPolicies
  | editAttributes
  | deletePrincipal
  | modifyMembers
  | editConfig
deriving DecidableEq, Repr, Inhabited

namespace Capability

def name : Capability → String
  | approveRequests => "approve_requests"
  | editPolicies => "edit_policies"
  | editAttributes => "edit_attributes"
  | deletePrincipal => "delete_principal"
  | modifyMembers => "modify_members"
  | editConfig => "edit_config"

def all : List Capability :=
  [approveRequests, editPolicies, editAttributes, deletePrincipal, modifyMembers, editConfig]

def parse (s : String) : Except Error Capability :=
  match all.find? (·.name == s) with
  | some c => .ok c
  | none => .error (.validation s!"unknown capability value '{s}'")

/-- Whether the capability is one to change who belongs to a group. -/
def modifiesMembers : Capability → Bool
  | modifyMembers => true
  | _ => false

end Capability

end AccessBroker
