import AccessBroker.Table
import AccessBroker.Json.Tree

/-! # JSON values

A value is a tree in canonical form: every object names its members once, in
ascending order.  Two values are equal exactly when their trees are, so the
order and the repetition of members in a source text leave no trace.
-/

namespace AccessBroker

namespace Json

/-- Every object in the tree names its members in strictly ascending order. -/
inductive Tree.Canonical : Tree → Prop where
  | null : Canonical .null
  | bool (b : Bool) : Canonical (.bool b)
  | whole (w : Whole) : Canonical (.whole w)
  | double (d : Double) : Canonical (.double d)
  | string (s : String) : Canonical (.string s)
  | array {items : List Tree} (each : ∀ x ∈ items, Canonical x) : Canonical (.array items)
  | object {members : List (String × Tree)} (each : ∀ m ∈ members, Canonical (Prod.snd m))
      (ascending : members.Pairwise fun a b => a.1 < b.1) : Canonical (.object members)

theorem Tree.Canonical.item {items : List Tree} (h : Canonical (.array items)) {x : Tree}
    (hx : x ∈ items) : x.Canonical := by
  cases h with
  | array each => exact each x hx

theorem Tree.Canonical.member {members : List (String × Tree)} (h : Canonical (.object members))
    {m : String × Tree} (hm : m ∈ members) : m.2.Canonical := by
  cases h with
  | object each _ => exact each m hm

theorem Tree.Canonical.ascending {members : List (String × Tree)}
    (h : Canonical (.object members)) : members.Pairwise fun a b => a.1 < b.1 := by
  cases h with
  | object _ ascending => exact ascending

end Json

structure Json where
  tree : Json.Tree
  canonical : tree.Canonical
deriving DecidableEq

namespace Json

@[ext] theorem ext {a b : Json} (h : a.tree = b.tree) : a = b := by
  cases a
  cases b
  cases h
  rfl

/-! ## Building values -/

def null : Json := ⟨.null, .null⟩

instance : Inhabited Json := ⟨null⟩

def bool (b : Bool) : Json := ⟨.bool b, .bool b⟩

def whole (w : Whole) : Json := ⟨.whole w, .whole w⟩

def double (d : Double) : Json := ⟨.double d, .double d⟩

def string (s : String) : Json := ⟨.string s, .string s⟩

def array (items : List Json) : Json where
  tree := .array (items.map (·.tree))
  canonical := .array fun x hx => by
    obtain ⟨j, _, rfl⟩ := List.mem_map.1 hx
    exact j.canonical

/-- The object with the given members; of members with one name the last one counts. -/
def object (members : List (String × Json)) : Json where
  tree := .object ((Table.sort members).map fun m => (m.1, m.2.tree))
  canonical := .object
    (fun m hm => by
      obtain ⟨j, _, rfl⟩ := List.mem_map.1 hm
      exact j.2.canonical)
    (List.pairwise_map.2 (Table.pairwise_sort members))

mutual
def ofTree : Tree → Json
  | .null => null
  | .bool b => bool b
  | .whole w => whole w
  | .double d => double d
  | .string s => string s
  | .array items => array (ofTrees items)
  | .object members => object (ofMembers members)
def ofTrees : List Tree → List Json
  | [] => []
  | x :: rest => ofTree x :: ofTrees rest
def ofMembers : List (String × Tree) → List (String × Json)
  | [] => []
  | (name, x) :: rest => (name, ofTree x) :: ofMembers rest
end

/-! ## Looking into values -/

def text? (j : Json) : Option String :=
  match j.tree with
  | .string s => some s
  | _ => none

def isNull (j : Json) : Bool :=
  match j.tree with
  | .null => true
  | _ => false

def items? : Json → Option (List Json)
  | ⟨.array items, h⟩ => some (items.attach.map fun x => ⟨x.1, h.item x.2⟩)
  | _ => none

/-- The members of an object, in ascending order of names. -/
def members? : Json → Option (List (String × Json))
  | ⟨.object members, h⟩ => some (members.attach.map fun m => (m.1.1, ⟨m.1.2, h.member m.2⟩))
  | _ => none

def isObject (j : Json) : Bool :=
  match j.tree with
  | .object _ => true
  | _ => false

/-- The member of that name, if this is an object that has one. -/
def field? (j : Json) (name : String) : Option Json :=
  match j.members? with
  | some members => members.lookup name
  | none => none

/-- Equality of values: positive and negative zero are the same double. -/
def same (a b : Json) : Bool :=
  a.tree.same b.tree

end Json

end AccessBroker
