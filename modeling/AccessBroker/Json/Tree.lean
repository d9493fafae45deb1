import AccessBroker.Json.Double

/-! # JSON trees

A tree is a JSON value as it is written: the members of an object keep their
order, and a name may come twice.  Integers of the signed and the unsigned
64-bit range are kept exactly, every other number is a double.
-/

namespace AccessBroker.Json

/-- An integer that JSON carries exactly: one of the signed or of the unsigned 64-bit range. -/
structure Whole where
  val : Int
  lower : -9223372036854775808 ≤ val
  upper : val < 18446744073709551616
deriving DecidableEq

namespace Whole

/-- The nearest integer that JSON carries. -/
def clamp (i : Int) : Whole where
  val := max (-9223372036854775808) (min i 18446744073709551615)
  lower := by omega
  upper := by omega

instance : Inhabited Whole := ⟨clamp 0⟩

end Whole

/-- A JSON value with its members in the order of writing. -/
inductive Tree where
  | null
  | bool (value : Bool)
  | whole (value : Whole)
  | double (value : Double)
  | string (value : String)
  | array (items : List Tree)
  | object (members : List (String × Tree))
deriving Inhabited

namespace Tree

def ofInt (i : Int) : Tree := .whole (.clamp i)

def ofNat (n : Nat) : Tree := ofInt n

/-- Text, or null where there is none. -/
def ofText? : Option String → Tree
  | some s => .string s
  | none => .null

def texts (items : List String) : Tree :=
  .array (items.map .string)

mutual
/-- The levels of brackets around the innermost value. -/
def depth : Tree → Nat
  | .array items => depthItems items + 1
  | .object members => depthMembers members + 1
  | _ => 0
def depthItems : List Tree → Nat
  | [] => 0
  | x :: rest => max x.depth (depthItems rest)
def depthMembers : List (String × Tree) → Nat
  | [] => 0
  | (_, x) :: rest => max x.depth (depthMembers rest)
end

mutual
/-- The strings in the tree, names of members apart. -/
def strings : Tree → List String
  | .string s => [s]
  | .array items => stringsOfItems items
  | .object members => stringsOfMembers members
  | _ => []
def stringsOfItems : List Tree → List String
  | [] => []
  | x :: rest => x.strings ++ stringsOfItems rest
def stringsOfMembers : List (String × Tree) → List String
  | [] => []
  | (_, x) :: rest => x.strings ++ stringsOfMembers rest
end

mutual
/-- Whether no number in the tree is a double. -/
def exact : Tree → Bool
  | .double _ => false
  | .array items => exactItems items
  | .object members => exactMembers members
  | _ => true
def exactItems : List Tree → Bool
  | [] => true
  | x :: rest => x.exact && exactItems rest
def exactMembers : List (String × Tree) → Bool
  | [] => true
  | (_, x) :: rest => x.exact && exactMembers rest
end

mutual
/-- Equality of values: positive and negative zero are the same double. -/
def same : Tree → Tree → Bool
  | .null, .null => true
  | .bool a, .bool b => a == b
  | .whole a, .whole b => a.val == b.val
  | .double a, .double b => a.sameNumber b
  | .string a, .string b => a == b
  | .array a, .array b => sameItems a b
  | .object a, .object b => sameMembers a b
  | _, _ => false
def sameItems : List Tree → List Tree → Bool
  | [], [] => true
  | x :: xs, y :: ys => x.same y && sameItems xs ys
  | _, _ => false
def sameMembers : List (String × Tree) → List (String × Tree) → Bool
  | [], [] => true
  | (k, x) :: xs, (l, y) :: ys => k == l && x.same y && sameMembers xs ys
  | _, _ => false
end

mutual
theorem same_self : (t : Tree) → t.same t = true
  | .null => rfl
  | .bool b => by simp [same]
  | .whole w => by simp [same]
  | .double d => by simp [same, Double.sameNumber]
  | .string s => by simp [same]
  | .array items => by rw [same, sameItems_self items]
  | .object members => by rw [same, sameMembers_self members]
theorem sameItems_self : (items : List Tree) → sameItems items items = true
  | [] => rfl
  | x :: rest => by rw [sameItems, same_self x, sameItems_self rest, Bool.and_self]
theorem sameMembers_self : (members : List (String × Tree)) → sameMembers members members = true
  | [] => rfl
  | (name, x) :: rest => by
    rw [sameMembers, beq_self_eq_true, same_self x, sameMembers_self rest, Bool.and_self,
      Bool.and_self]
end

mutual
def decEq : (a b : Tree) → Decidable (a = b)
  | .null, .null => isTrue rfl
  | .bool a, .bool b => decidable_of_iff (a = b) (by simp)
  | .whole a, .whole b => decidable_of_iff (a = b) (by simp)
  | .double a, .double b => decidable_of_iff (a = b) (by simp)
  | .string a, .string b => decidable_of_iff (a = b) (by simp)
  | .array a, .array b =>
    have := decEqItems a b
    decidable_of_iff (a = b) (by simp)
  | .object a, .object b =>
    have := decEqMembers a b
    decidable_of_iff (a = b) (by simp)
  | .null, .bool _ | .null, .whole _ | .null, .double _ | .null, .string _ | .null, .array _
  | .null, .object _ | .bool _, .null | .bool _, .whole _ | .bool _, .double _
  | .bool _, .string _ | .bool _, .array _ | .bool _, .object _ | .whole _, .null
  | .whole _, .bool _ | .whole _, .double _ | .whole _, .string _ | .whole _, .array _
  | .whole _, .object _ | .double _, .null | .double _, .bool _ | .double _, .whole _
  | .double _, .string _ | .double _, .array _ | .double _, .object _ | .string _, .null
  | .string _, .bool _ | .string _, .whole _ | .string _, .double _ | .string _, .array _
  | .string _, .object _ | .array _, .null | .array _, .bool _ | .array _, .whole _
  | .array _, .double _ | .array _, .string _ | .array _, .object _ | .object _, .null
  | .object _, .bool _ | .object _, .whole _ | .object _, .double _ | .object _, .string _
  | .object _, .array _ => isFalse (by simp)
def decEqItems : (a b : List Tree) → Decidable (a = b)
  | [], [] => isTrue rfl
  | x :: xs, y :: ys =>
    have := decEq x y
    have := decEqItems xs ys
    decidable_of_iff (x = y ∧ xs = ys) (by simp)
  | [], _ :: _ => isFalse (by simp)
  | _ :: _, [] => isFalse (by simp)
def decEqMembers : (a b : List (String × Tree)) → Decidable (a = b)
  | [], [] => isTrue rfl
  | (k, x) :: xs, (l, y) :: ys =>
    have := decEq x y
    have := decEqMembers xs ys
    decidable_of_iff (k = l ∧ x = y ∧ xs = ys) (by simp [and_assoc])
  | [], _ :: _ => isFalse (by simp)
  | _ :: _, [] => isFalse (by simp)
end

instance : DecidableEq Tree := decEq

end Tree

end AccessBroker.Json
