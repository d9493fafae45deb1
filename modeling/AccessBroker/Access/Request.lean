import AccessBroker.Access.Status
import AccessBroker.Access.Target
import AccessBroker.Role.Document

/-! # Access requests -/

namespace AccessBroker

structure Request where
  id : String
  requester : String
  target : Target
  justification : String
  status : Status
  /-- Who changed the request last. -/
  updatedBy : String
  requestTime : Timestamp
  lastUpdated : Timestamp
  /-- What the last reviewer said. -/
  comments : Option String
  /-- When an approved membership ends. -/
  expiresAt : Option Timestamp
  /-- The policy as it was before the approved change. -/
  snapshot : Option Json
deriving DecidableEq

namespace Request

def fields : Json.Fields Request :=
  (Json.Fields.pure Request.mk).and (.required "request_id" .text)
    |>.and (.required "requester" .text)
    |>.and (.required "target" Target.reader)
    |>.and (.required "justification" .text)
    |>.and (.required "status" (.word Status.words))
    |>.and (.required "updated_by" .text)
    |>.and (.required "request_time" Timestamp.reader)
    |>.and (.required "last_updated" Timestamp.reader)
    |>.and (.optional "reviewer_comments" .text)
    |>.and (.optional "expires_at" Timestamp.reader)
    |>.and (.optional "policy_snapshot" .value)

def reader : Json.Reader Request :=
  fields.reader

def toTree (r : Request) : Json.Tree :=
  .object [
    ("request_id", .string r.id),
    ("requester", .string r.requester),
    ("target", r.target.toTree),
    ("justification", .string r.justification),
    ("status", .string r.status.name),
    ("updated_by", .string r.updatedBy),
    ("request_time", r.requestTime.toTree),
    ("last_updated", r.lastUpdated.toTree),
    ("reviewer_comments", .ofText? r.comments),
    ("expires_at", (r.expiresAt.map Timestamp.toTree).getD .null),
    ("policy_snapshot", (r.snapshot.map Json.tree).getD .null)]

/-- Whether a closed request is young enough to be opened again. -/
def isReopenable (r : Request) (now : Timestamp) (window : Int) : Bool :=
  now.since r.lastUpdated ≤ window

/-- Whether the membership that the request granted has run out. -/
def isPastExpiry (r : Request) (now : Timestamp) : Bool :=
  r.status == .approved &&
    match r.expiresAt with
    | some t => t ≤ now
    | none => false

theorem isPastExpiry_iff {r : Request} {now : Timestamp} :
    r.isPastExpiry now = true ↔ r.status = .approved ∧ ∃ t, r.expiresAt = some t ∧ t ≤ now := by
  unfold isPastExpiry
  cases r.expiresAt <;> simp

end Request

/-- What is announced of a new request or a change of status. -/
structure Event where
  requestId : String
  previous : Option Status
  next : Status
  requester : String
  target : Target
  comments : Option String
  updatedBy : String
deriving DecidableEq

namespace Event

def fields : Json.Fields Event :=
  (Json.Fields.pure Event.mk).and (.required "request_id" .text)
    |>.and (.optional "previous_status" (.word Status.words))
    |>.and (.required "new_status" (.word Status.words))
    |>.and (.required "requester" .text)
    |>.and (.required "target" Target.reader)
    |>.and (.optional "reviewer_comments" .text)
    |>.and (.required "updated_by" .text)

def toTree (e : Event) : Json.Tree :=
  .object [
    ("request_id", .string e.requestId),
    ("previous_status", .ofText? (e.previous.map Status.name)),
    ("new_status", .string e.next.name),
    ("requester", .string e.requester),
    ("target", e.target.toTree),
    ("reviewer_comments", .ofText? e.comments),
    ("updated_by", .string e.updatedBy)]

/-- The event for a request that has come to its status from `previous`. -/
def of (previous : Option Status) (r : Request) : Event where
  requestId := r.id
  previous := previous
  next := r.status
  requester := r.requester
  target := r.target
  comments := r.comments
  updatedBy := r.updatedBy

end Event

end AccessBroker
