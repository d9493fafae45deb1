import AccessBroker.Error

/-! # The life of a request

Six statuses and seven steps between them.  Expired and removed are final;
rejected and cancelled requests may be opened again.
-/

namespace AccessBroker

inductive Status where
  | pending
  | approved
  | rejected
  | cancelled
  | expired
  | removed
deriving DecidableEq, Repr, Inhabited

namespace Status

def name : Status → String
  | pending => "pending"
  | approved => "approved"
  | rejected => "rejected"
  | cancelled => "cancelled"
  | expired => "expired"
  | removed => "removed"

def all : List Status :=
  [pending, approved, rejected, cancelled, expired, removed]

def words : List (String × Status) :=
  all.map fun s => (s.name, s)

def ofName? (s : String) : Option Status :=
  words.lookup s

def parse (s : String) : Except Error Status :=
  match ofName? s with
  | some status => .ok status
  | none => .error (.validation s!"unknown request status '{s}'")

/-- The steps of the life of a request. -/
def canBecome : Status → Status → Bool
  | pending, approved | pending, rejected | pending, cancelled => true
  | rejected, pending | cancelled, pending => true
  | approved, expired | approved, removed => true
  | _, _ => false

/-- Refuses a step to the same status and every step that is not of the life of a request. -/
def ensureStep (s next : Status) : Except Error Unit :=
  if s = next then .error (.conflict s!"request is already '{s.name}'")
  else if s.canBecome next then .ok ()
  else .error (.conflict s!"request cannot move from '{s.name}' to '{next.name}'")

theorem ofName?_name (s : Status) : ofName? s.name = some s := by
  cases s <;> rfl

theorem ensureStep_eq_ok_iff {s next : Status} :
    s.ensureStep next = .ok () ↔ s.canBecome next = true := by
  cases s <;> cases next <;> simp [ensureStep, canBecome]

end Status

end AccessBroker
