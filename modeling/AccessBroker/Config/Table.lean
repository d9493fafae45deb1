import AccessBroker.Clock
import AccessBroker.Config.Document
import AccessBroker.Text.Decimal

/-! # The versions of the configuration

One row of the table is the master, the version in force; the others are
archived versions.  The master is replaced only by a writer who knows its
checksum, and rows of the archive are only ever added.
-/

namespace AccessBroker

structure ConfigVersion where
  id : String
  document : ConfigDocument
  checksum : String
  updatedBy : String
  updatedAt : Timestamp
deriving DecidableEq

def masterId : String := "master"

/-- What the services work with: a document, and where it comes from unless it is the empty
document at the start. -/
structure ConfigSnapshot where
  document : ConfigDocument
  checksum : Option String
  updatedBy : Option String
  updatedAt : Option Timestamp
deriving DecidableEq

namespace ConfigSnapshot

def none : ConfigSnapshot := ⟨.empty, .none, .none, .none⟩

instance : Inhabited ConfigSnapshot := ⟨none⟩

def of (v : ConfigVersion) : ConfigSnapshot :=
  ⟨v.document, some v.checksum, some v.updatedBy, some v.updatedAt⟩

end ConfigSnapshot

structure ConfigTable where
  rows : Table ConfigVersion
deriving DecidableEq, Inhabited

namespace ConfigTable

def empty : ConfigTable := ⟨.empty⟩

def find? (t : ConfigTable) (id : String) : Option ConfigVersion :=
  t.rows.get? id

def master? (t : ConfigTable) : Option ConfigVersion :=
  t.find? masterId

/-- Adds a row to the archive, unless its id is taken. -/
def archive (t : ConfigTable) (v : ConfigVersion) : Except Error ConfigTable :=
  match t.find? v.id with
  | some _ =>
    .error (.conflict s!"archived dynamic configuration '{v.id}' already exists")
  | none => .ok ⟨t.rows.insert v.id v⟩

/-- Replaces the master if its checksum is the expected one. -/
def swapMaster (t : ConfigTable) (expected : Option String) (v : ConfigVersion) :
    Bool × ConfigTable :=
  if t.master?.map (·.checksum) = expected then (true, ⟨t.rows.insert masterId v⟩) else (false, t)

/-- The largest ids of archived versions, in descending order. -/
def archiveIds (t : ConfigTable) (limit : Nat) : List String :=
  ((t.rows.names.filter (· ≠ masterId)).reverse).take limit

end ConfigTable

end AccessBroker
