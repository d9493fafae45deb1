import AccessBroker.Json.Outline

/-! # Reading records from JSON

A record is an object with named fields or an array of the fields in order.
Unknown members are passed over unread; a repeated field is refused.  Readers
go through the text in its order and stop at the first fault, which is either
one of form (`malformed`) or one of content (`unfit`).
-/

namespace AccessBroker.Json

/-- Why a text could not be read: it is not JSON, or it is JSON of another shape. -/
inductive Fault where
  | malformed
  | unfit
deriving DecidableEq, Repr

/-- Reads a value from an outline that may nest a number of levels deeper. -/
abbrev Reader (α : Type) := Nat → Outline → Except Fault α

/-- The fault of an outline that is of the wrong kind: its text has still to be JSON. -/
def mismatch : Outline → Fault
  | .broken | .string none | .number none => .malformed
  | _ => .unfit

namespace Reader

variable {α β : Type}

def map (f : α → β) (reader : Reader α) : Reader β :=
  fun room o => (reader room o).map f

def text : Reader String
  | _, .string (some s) => .ok s
  | _, o => .error (mismatch o)

def bool : Reader Bool
  | _, .bool b => .ok b
  | _, o => .error (mismatch o)

def integer (low high : Int) : Reader Int
  | _, .number (some (.whole w)) =>
    if low ≤ w.val ∧ w.val ≤ high then .ok w.val else .error .unfit
  | _, o => .error (mismatch o)

def value : Reader Json
  | room, o =>
    match o.value? room with
    | some j => .ok j
    | none => .error .malformed

def option (reader : Reader α) : Reader (Option α)
  | _, .null => .ok none
  | room, o => (reader room o).map some

/-- A text that satisfies a parser of its own. -/
def refine (reader : Reader α) (f : α → Option β) : Reader β
  | room, o =>
    match reader room o with
    | .ok a =>
      match f a with
      | some b => .ok b
      | none => .error .unfit
    | .error fault => .error fault

def items (reader : Reader α) (room : Nat) : List Outline → Except Fault (List α)
  | [] => .ok []
  | o :: rest => do
    let first ← reader room o
    let others ← items reader room rest
    return first :: others

def list (reader : Reader α) : Reader (List α)
  | 0, .array _ _ => .error .malformed
  | room + 1, .array os closed => do
    let read ← items reader room os
    if closed then return read else throw .malformed
  | _, o => .error (mismatch o)

def entries (reader : Reader α) (room : Nat) :
    List (Option String × Outline) → Except Fault (List (String × α))
  | [] => .ok []
  | (none, _) :: _ => .error .malformed
  | (some name, o) :: rest => do
    let first ← reader room o
    let others ← entries reader room rest
    return (name, first) :: others

/-- An object as a table from names to values, in ascending order; the last of a name counts. -/
def table (reader : Reader α) : Reader (Table α)
  | 0, .object _ _ => .error .malformed
  | room + 1, .object members closed => do
    let read ← entries reader room members
    if closed then return Table.ofList read else throw .malformed
  | _, o => .error (mismatch o)

/-- One of a list of words, by itself or as the only name in an object that holds null. -/
def word (words : List (String × α)) : Reader α
  | _, .string (some s) =>
    match words.lookup s with
    | some a => .ok a
    | none => .error .unfit
  | _, .object ((some s, o) :: rest) closed =>
    match words.lookup s with
    | none => .error .unfit
    | some a =>
      match o with
      | .null => if rest.isEmpty && closed then .ok a else .error .malformed
      | o => .error (mismatch o)
  | _, _ => .error .malformed

end Reader

/-! ## Records -/

/-- The two forms in which a record is written. -/
inductive Form where
  | byName
  | inOrder

/-- How the fields of a record are read.  `check` reads one field for its faults alone, `build`
reads all fields from where `get?` finds them. -/
structure Fields (α : Type) where
  names : List String
  check : Nat → String → Outline → Except Fault Unit
  build : Form → Nat → (get? : String → Option Outline) → Except Fault α

namespace Fields

variable {α β : Type}

/-- One field, with what it is when missing by name and when missing at the end of an array. -/
def one (name : String) (reader : Reader α) (unnamed trailing : Option α) : Fields α where
  names := [name]
  check room n o := if n = name then (reader room o).map fun _ => () else .ok ()
  build form room get? :=
    match get? name with
    | some o => reader room o
    | none =>
      match form, unnamed, trailing with
      | .byName, some a, _ => .ok a
      | .inOrder, _, some a => .ok a
      | _, _, _ => .error .unfit

def required (name : String) (reader : Reader α) : Fields α :=
  one name reader none none

/-- A field that may be null, or missing from an object. -/
def optional (name : String) (reader : Reader α) : Fields (Option α) :=
  one name reader.option (some none) none

/-- A field that may be null or missing. -/
def omissible (name : String) (reader : Reader α) : Fields (Option α) :=
  one name reader.option (some none) (some none)

def withDefault (name : String) (reader : Reader α) (default : α) : Fields α :=
  one name reader (some default) (some default)

def pure (a : α) : Fields α where
  names := []
  check _ _ _ := .ok ()
  build _ _ _ := .ok a

def and (f : Fields (α → β)) (x : Fields α) : Fields β where
  names := f.names ++ x.names
  check room n o := do
    f.check room n o
    x.check room n o
  build form room get? := do
    let g ← f.build form room get?
    let a ← x.build form room get?
    return g a

def find? (members : List (Option String × Outline)) (name : String) : Option Outline :=
  members.lookup (some name)

/-- Whether the members close, have readable names, repeat no field and break off nowhere. -/
def tidy (names : List String) : List (Option String × Outline) → Bool
  | [] => true
  | (none, _) :: _ => false
  | (some name, o) :: rest =>
    (if names.contains name then (find? rest name).isNone else o.complete) && tidy names rest

/-- The first fault in the order of the members; a field is missing if there is no other. -/
def firstFault (fields : Fields α) (room : Nat) (closed : Bool) (seen : List String) :
    List (Option String × Outline) → Fault
  | [] => if closed then .unfit else .malformed
  | (none, _) :: _ => .malformed
  | (some name, o) :: rest =>
    if fields.names.contains name then
      if seen.contains name then .unfit
      else
        match fields.check room name o with
        | .ok _ => firstFault fields room closed (name :: seen) rest
        | .error fault => fault
    else if o.complete then firstFault fields room closed seen rest
    else .malformed

/-- The first fault in the order of the items. -/
def firstItemFault (fields : Fields α) (room : Nat) (closed : Bool) :
    List String → List Outline → Fault
  | [], [] => if closed then .unfit else .malformed
  | [], _ :: _ => .malformed
  | _ :: _, [] => if closed then .unfit else .malformed
  | name :: names, o :: rest =>
    match fields.check room name o with
    | .ok _ => firstItemFault fields room closed names rest
    | .error fault => fault

def reader (fields : Fields α) : Reader α
  | 0, .object _ _ | 0, .array _ _ => .error .malformed
  | room + 1, .object members closed =>
    match closed && tidy fields.names members, fields.build .byName room (find? members) with
    | true, .ok a => .ok a
    | _, _ => .error (fields.firstFault room closed [] members)
  | room + 1, .array items closed =>
    let fits := closed && items.length ≤ fields.names.length
    match fits, fields.build .inOrder room fun name => (fields.names.zip items).lookup name with
    | true, .ok a => .ok a
    | _, _ => .error (fields.firstItemFault room closed fields.names items)
  | _, o => .error (mismatch o)

end Fields

/-! ## Tagged unions -/

/-- A tagged union: the member `tag` says which variant's fields the other members are.  Where
`numbered`, the tag may also be the variant's number. -/
structure Union (α : Type) where
  tag : String
  variants : List (String × Fields α)
  numbered : Bool

namespace Union

variable {α : Type}

def variant (u : Union α) : Outline → Except Fault (Fields α)
  | .string (some s) =>
    match u.variants.lookup s with
    | some fields => .ok fields
    | none => .error .unfit
  | .number (some (.whole w)) =>
    if u.numbered ∧ 0 ≤ w.val then
      match u.variants[w.val.toNat]? with
      | some (_, fields) => .ok fields
      | none => .error .unfit
    else .error .unfit
  | o => .error (mismatch o)

/-- Takes the tag out of the members, all of which have to be readable. -/
def takeTag (u : Union α) (room : Nat) (found : Option (Fields α)) :
    List (Option String × Outline) →
      Except Fault (Option (Fields α) × List (Option String × Outline))
  | [] => .ok (found, [])
  | (none, _) :: _ => .error .malformed
  | (some name, o) :: rest =>
    if name = u.tag then
      match found with
      | some _ => .error .unfit
      | none => do
        let fields ← u.variant o
        takeTag u room (some fields) rest
    else
      match o.value? room with
      | none => .error .malformed
      | some _ => do
        let (found, others) ← takeTag u room found rest
        return (found, (some name, o) :: others)

/-- Reads a tagged union from an object, or from an array that starts with the tag. -/
def reader (u : Union α) : Reader α
  | 0, .object _ _ | 0, .array _ _ => .error .malformed
  | room + 1, .object members closed => do
    let (found, others) ← u.takeTag room none members
    if !closed then throw .malformed
    match found with
    | none => throw .unfit
    | some fields =>
      match fields.reader (room + 1) (.object others true) with
      | .ok a => return a
      | .error _ => throw .unfit
  | room + 1, .array items closed =>
    match items with
    | [] => .error (if closed then .unfit else .malformed)
    | o :: rest => do
      let fields ← u.variant o
      if !(closed && rest.all fun x => (x.value? room).isSome) then throw .malformed
      match fields.reader (room + 1) (.array rest true) with
      | .ok a => return a
      | .error _ => throw .unfit
  | _, o => .error (mismatch o)

end Union

/-! ## Sources -/

def readText {α : Type} (reader : Reader α) (s : String) : Except Fault α :=
  match outline s.toList with
  | (o, ended) =>
    match reader maxDepth o with
    | .ok a => if ended then .ok a else .error .malformed
    | .error fault => .error fault

/-- Reads a value, if it has the right shape. -/
def read? {α : Type} (reader : Reader α) (j : Json) : Option α :=
  (reader maxDepth (.ofTree j.tree)).toOption

end AccessBroker.Json
