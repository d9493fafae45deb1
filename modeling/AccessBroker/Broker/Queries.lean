import AccessBroker.Broker.Configuration
import AccessBroker.Broker.Review

/-! # Looking at requests -/

namespace AccessBroker.Service

/-- A request, for its requester and for its reviewers. -/
def getRequest (who : Identity) (id : String) : Service Request := do
  let r ← requireRequest id
  if Text.sameAscii who.user r.requester then return r
  let route ← approvalRoute r.target
  if isReviewer (← allowLists) who r.target route then return r
  throw (.forbidden s!"'{who.user}' may not view access request '{id}'")

/-- Requests of one time are ordered by their ids. -/
def newerFirst (a b : Request) : Bool :=
  b.requestTime < a.requestTime || (a.requestTime == b.requestTime && b.id ≤ a.id)

/-- The requests of an identity, newest first. -/
def listMine (who : Identity) : Service (List Request) := do
  let ids ← listUserRequests who.user
  let found ← findRequests ids.reverse
  return found.mergeSort newerFirst

/-- Those of some requests that an identity reviews; requests for groups that are gone are left
out. -/
def reviewable (who : Identity) : List Request → Service (List Request)
  | [] => return []
  | r :: rest => do
    let route ← tryCatch (return some (← approvalRoute r.target)) fun e =>
      if e.kind = .notFound then return none else throw e
    let lists ← allowLists
    let shown := route.any (isReviewer lists who r.target)
    let others ← reviewable who rest
    return if shown then r :: others else others

/-- The pending requests that an identity reviews, among the oldest `limit`. -/
def listReviewable (who : Identity) (limit : Nat) : Service (List Request) := do
  if limit = 0 then
    throw (.validation "pending listing limit must be positive")
  reviewable who (← listPending (min limit listingBound))

end AccessBroker.Service
