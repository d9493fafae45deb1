import AccessBroker.Broker.Approval

/-! # Ending memberships that have run out

A sweep goes through the approved requests that have run out, in the order in
which they did, a page at a time, until it has ended as many memberships as it
was asked to.  A request whose membership cannot be ended is passed over.
-/

namespace AccessBroker.Service

/-- Who ends memberships that have run out. -/
def systemActor : String := "rolegate-system"

/-- Ends the membership of a request; tells whether it could be ended. -/
def expire (now : Timestamp) (r : Request) : Service Bool := do
  if !r.isPastExpiry now then return false
  let left ← tryCatch (do leave r; return true) fun _ => return false
  if !left then return false
  let r := moved r .expired systemActor now (some "membership expired")
  saveRequest r
  announce r (some .approved)
  return true

/-- Where a sweep stands. -/
structure Sweep where
  cursor : Option ExpiryCursor
  expired : Nat

def Sweep.past (s : Sweep) (r : Request) (ended : Bool) : Sweep where
  cursor := some ⟨RequestStore.expiry r, r.id⟩
  expired := if ended then s.expired + 1 else s.expired

/-- Works through a page of requests until `limit` memberships are ended. -/
def sweepPage (now : Timestamp) (limit : Nat) : Sweep → List Request → Service Sweep
  | s, [] => return s
  | s, r :: rest => do
    let s := s.past r (← expire now r)
    if limit ≤ s.expired then return s
    sweepPage now limit s rest

/-- Works through pages until one is not full or `limit` memberships are ended.  Every page but
the last moves on by at least one of the stored requests, so `pages` of them, one more than there
are requests, are enough. -/
def sweepPages (now : Timestamp) (limit : Nat) : (pages : Nat) → Sweep → Service Sweep
  | 0, s => return s
  | pages + 1, s => do
    let page ← listExpired now s.cursor limit
    let s ← sweepPage now limit s page
    if limit ≤ s.expired || page.length < limit then return s
    sweepPages now limit pages s

/-- Ends memberships that have run out, at most `batch` and at least one of them; tells how many
were ended. -/
def expireDue (batch : Nat) : Service Nat := do
  let now ← now
  let stored := (← get).requests.all.length
  let s ← sweepPages now (max batch 1) (stored + 1) ⟨none, 0⟩
  return s.expired

end AccessBroker.Service
