import AccessBroker.Authorization.Decision

/-! # Allow-lists and routes as JSON -/

namespace AccessBroker

open Json (Tree)

namespace Capability

/-- A list for each capability. -/
def listsTree (holders : Capability → List String) : Tree :=
  .object (all.map fun c => (c.name, .texts (holders c)))

end Capability

namespace AllowLists

def toTree (lists : AllowLists) : Tree :=
  .object [
    ("admins", .texts lists.admins.toList),
    ("capabilities", Capability.listsTree fun c => (lists.holders c).toList),
    ("self_approval_groups", .texts lists.selfApprovalGroups.toList)]

end AllowLists

namespace Route

def toTree (r : Route) : Tree :=
  .object [
    ("approvers", .texts r.approvers),
    ("self_approval_groups", .texts r.selfApprovalGroups),
    ("restricted", .bool r.restricted),
    ("requestable", .bool r.requestable),
    ("open_when_unowned", .bool r.openWhenUnowned)]

end Route

end AccessBroker
