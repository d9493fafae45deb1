import AccessBroker.Config.Document
import AccessBroker.Identity

/-! # Allow-lists

Who may do what is the union of lists fixed at the start of the program and of
lists in the configuration document.  A document can add rights, never take
them away.
-/

namespace AccessBroker

/-- The allow-lists fixed at the start. -/
structure FixedLists where
  admins : List String
  holders : Capability → List String
  selfApprovalGroups : List String

namespace FixedLists

def empty : FixedLists := ⟨[], fun _ => [], []⟩

instance : Inhabited FixedLists := ⟨empty⟩

end FixedLists

structure AllowLists where
  /-- Those with every capability. -/
  admins : NameSet
  /-- Those with one capability. -/
  holders : Capability → NameSet
  /-- Groups whose members approve their own requests. -/
  selfApprovalGroups : NameSet

namespace AllowLists

/-- The union of the fixed lists and those of a document. -/
def merge (fixed : FixedLists) (document : ConfigDocument) : AllowLists where
  admins := .ofNames (fixed.admins ++ document.admins)
  holders c := .ofNames (fixed.holders c ++ document.holders c)
  selfApprovalGroups := .ofNames (fixed.selfApprovalGroups ++ document.selfApprovalGroups)

def isAdmin (lists : AllowLists) (who : Identity) : Bool :=
  who.isAmong lists.admins.toList

/-- Whether an identity has a capability.  Nobody changes the members of a restricted group. -/
def permits (lists : AllowLists) (who : Identity) (c : Capability) (restricted : Bool) : Bool :=
  !(restricted && c.modifiesMembers) &&
    (lists.isAdmin who || who.isAmong (lists.holders c).toList)

end AllowLists

end AccessBroker
