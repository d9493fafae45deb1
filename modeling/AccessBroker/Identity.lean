import AccessBroker.NameSet

/-! # Identities

Who calls: a user and the groups the user belongs to, all in normal form, so
that letter case and padding never tell two callers apart.
-/

namespace AccessBroker

structure Identity where
  user : String
  groups : NameSet
deriving DecidableEq

namespace Identity

/-- The identity of a user with some groups; blank groups are left out. -/
def of (user : String) (groups : List String) : Identity where
  user := Text.normalize user
  groups := .ofNames groups

/-- Whether a name is the user's or that of one of the groups. -/
def isNamed (i : Identity) (name : String) : Bool :=
  i.user == Text.normalize name || i.groups.contains (Text.normalize name)

/-- Whether one of the names is the user's or that of one of the groups. -/
def isAmong (i : Identity) (names : List String) : Bool :=
  names.any i.isNamed

end Identity

end AccessBroker
