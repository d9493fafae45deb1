import AccessBroker.Json.Record
import AccessBroker.Json.Printer
import AccessBroker.NameSet
import AccessBroker.Table

/-! # The group directory

Groups are found by the normal form of their name, and so are members in a
group.  A group is created by giving it attributes; members can only be added
to a group that exists.
-/

namespace AccessBroker

/-- What is laid down for the requests to join a group. -/
structure GroupAttributes where
  /-- Users or groups who approve requests. -/
  approvers : List String
  /-- Groups whose members approve their own requests. -/
  selfApprovalGroups : List String
  /-- Nobody changes the members of a restricted group. -/
  restricted : Bool
  /-- Whether membership can be requested. -/
  requestable : Bool
deriving DecidableEq, Inhabited

namespace GroupAttributes

def fields : Json.Fields GroupAttributes :=
  (Json.Fields.pure GroupAttributes.mk).and (.withDefault "secondary_approvers" (.list .text) [])
    |>.and (.withDefault "self_approval_groups" (.list .text) [])
    |>.and (.withDefault "restricted" .bool false)
    |>.and (.withDefault "requestable" .bool false)

def members (a : GroupAttributes) : List (String × Json.Tree) := [
  ("secondary_approvers", .texts a.approvers),
  ("self_approval_groups", .texts a.selfApprovalGroups),
  ("restricted", .bool a.restricted),
  ("requestable", .bool a.requestable)]

def toTree (a : GroupAttributes) : Json.Tree :=
  .object a.members

end GroupAttributes

structure Group where
  attributes : GroupAttributes
  members : NameSet
deriving DecidableEq

inductive Joining where
  | added
  | alreadyMember
  | denied (reason : String)
deriving DecidableEq

namespace Joining

def toTree : Joining → Json.Tree
  | added => .string "added"
  | alreadyMember => .string "already_member"
  | denied reason => .object [("denied", .string reason)]

end Joining

inductive Leaving where
  | removed
  | notMember
  | denied (reason : String)
deriving DecidableEq

namespace Leaving

def toTree : Leaving → Json.Tree
  | removed => .string "removed"
  | notMember => .string "not_member"
  | denied reason => .object [("denied", .string reason)]

end Leaving

/-- The groups by the normal forms of their names. -/
structure Directory where
  groups : Table Group
deriving DecidableEq, Inhabited

namespace Directory

def empty : Directory := ⟨.empty⟩

def group? (d : Directory) (name : String) : Option Group :=
  d.groups.get? (Text.normalize name)

def attributes? (d : Directory) (name : String) : Option GroupAttributes :=
  (d.group? name).map (·.attributes)

def members (d : Directory) (name : String) : NameSet :=
  match d.group? name with
  | some g => g.members
  | none => .empty

/-- Gives a group its attributes; its members stay. -/
def putAttributes (d : Directory) (name : String) (attributes : GroupAttributes) : Directory :=
  ⟨d.groups.insert (Text.normalize name) ⟨attributes, d.members name⟩⟩

def addMember (d : Directory) (name user : String) : Joining × Directory :=
  match d.group? name with
  | none => (.denied s!"group '{name}' does not exist", d)
  | some g =>
    if g.members.contains (Text.normalize user) then (.alreadyMember, d)
    else
      (.added, ⟨d.groups.insert (Text.normalize name)
        { g with members := g.members.insert (Text.normalize user) }⟩)

def removeMember (d : Directory) (name user : String) : Leaving × Directory :=
  match d.group? name with
  | none => (.notMember, d)
  | some g =>
    if g.members.contains (Text.normalize user) then
      (.removed, ⟨d.groups.insert (Text.normalize name)
        { g with members := g.members.filter (· ≠ Text.normalize user) }⟩)
    else (.notMember, d)

theorem group?_congr {d : Directory} {name other : String}
    (h : Text.normalize other = Text.normalize name) : d.group? other = d.group? name := by
  rw [group?, group?, h]

/-- The member is taken out, and nothing else is changed. -/
theorem group?_removeMember (d : Directory) (name user other : String) :
    (d.removeMember name user).2.group? other =
      if Text.normalize other = Text.normalize name then
        (d.group? name).map fun g => { g with members := g.members.filter (· ≠ Text.normalize user) }
      else d.group? other := by
  unfold removeMember
  cases found : d.group? name with
  | none =>
    by_cases same : Text.normalize other = Text.normalize name
    · rw [if_pos same, group?_congr same, found, Option.map_none]
    · rw [if_neg same]
  | some g =>
    dsimp only
    by_cases member : g.members.contains (Text.normalize user) = true
    · rw [if_pos member, group?, Table.get?_insert]
      rfl
    · rw [if_neg member, Option.map_some,
        NameSet.filter_ne_eq_self fun h => member (NameSet.contains_iff.2 h)]
      by_cases same : Text.normalize other = Text.normalize name
      · rw [if_pos same, group?_congr same, found]
      · rw [if_neg same]

theorem attributes?_removeMember (d : Directory) (name user other : String) :
    (d.removeMember name user).2.attributes? other = d.attributes? other := by
  rw [attributes?, attributes?, group?_removeMember]
  by_cases same : Text.normalize other = Text.normalize name
  · rw [if_pos same, group?_congr same, Option.map_map]
    rfl
  · rw [if_neg same]

theorem mem_members_removeMember (d : Directory) (name user other member : String) :
    member ∈ (d.removeMember name user).2.members other ↔
      member ∈ d.members other ∧
        ¬ (Text.normalize other = Text.normalize name ∧ member = Text.normalize user) := by
  simp only [members, group?_removeMember]
  by_cases same : Text.normalize other = Text.normalize name
  · rw [if_pos same, group?_congr same]
    cases d.group? name with
    | none => simp [NameSet.mem_iff, NameSet.empty]
    | some g => simp [NameSet.mem_filter, same]
  · simp [same]

end Directory

end AccessBroker
