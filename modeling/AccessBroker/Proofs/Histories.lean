import AccessBroker.Broker.Expiry
import AccessBroker.Proofs.Steps

/-! # What a call may do to the stored requests

`Edit` lists what may become of a stored request in one call, and `Created` what
a submission may store, each judged in the world before the call.  Nothing else
is in a `History`: every id has one of four fates.
-/

namespace AccessBroker

inductive RequestCall where
  | submit (who : Identity) (s : Submission)
  | updateStatus (who : Identity) (id : String) (v : Verdict)
  | updateProposal (who : Identity) (id : String) (proposed : PolicyChange)
  | expireDue (batch : Nat)

/-- The world that a call leaves, whether or not it succeeds. -/
def RequestCall.after (setup : Setup) (w : World) : RequestCall → World
  | submit who s => ((Service.submit who s).perform setup w).2
  | updateStatus who id v => ((Service.updateStatus who id v).perform setup w).2
  | updateProposal who id proposed => ((Service.updateProposal who id proposed).perform setup w).2
  | expireDue batch => ((Service.expireDue batch).perform setup w).2

def Service.ended (now : Timestamp) (r : Request) : Request :=
  moved r .expired systemActor now (some "membership expired")

open Service (moved routeIn listsIn)

/-- Whether an identity may move a request to a status, judged in one world. -/
def MayMove (setup : Setup) (w : World) (who : Identity) (r : Request) (next : Status) : Prop :=
  ∃ route, routeIn setup w r.target = some route ∧
    match r.status, next with
    | .pending, .approved =>
      (listsIn setup w).canApprove who route.approvers r.target.name = true ∧
        ∀ group, r.target = .group group → route.restricted = false
    | .pending, .rejected =>
      (listsIn setup w).canApprove who route.approvers r.target.name = true
    | .pending, .cancelled => (listsIn setup w).canCancel who r.requester = true
    | .rejected, .pending | .cancelled, .pending =>
      (listsIn setup w).canReopen who r.requester route.approvers = true ∧
        r.isReopenable w.now setup.settings.reopenWindow = true ∧
        (w.Candid → w.requests.NonePending r.requester r.target.key)
    | .approved, .removed =>
      (∃ group, r.target = .group group) ∧
        (listsIn setup w).permits who .modifyMembers route.restricted = true
    | _, _ => False

/-- What a call may make of a stored request, judged in the world before the call. -/
inductive Edit (setup : Setup) (w : World) : RequestCall → Request → Request → Prop where
  /-- Someone who may do so moves it along its life. -/
  | move {who : Identity} {v : Verdict} {r : Request} {snapshot : Option Json}
      (may : MayMove setup w who r v.status)
      (snapshotKept : snapshot = r.snapshot ∨ v.status = .approved ∧ ∀ group, r.target ≠ .group group) :
      Edit setup w (.updateStatus who r.id v) r
        (moved { r with snapshot := snapshot } v.status who.user w.now v.comments)
  /-- Its approval comes no further than to note the policy as it was. -/
  | prepare {who : Identity} {v : Verdict} {r : Request} {snapshot : Json}
      (approves : v.status = .approved) (may : MayMove setup w who r .approved)
      (policy : ∀ group, r.target ≠ .group group) :
      Edit setup w (.updateStatus who r.id v) r { r with snapshot := some snapshot }
  /-- The proposal of a pending request is replaced. -/
  | propose {who : Identity} {r : Request} {account arn : String} {change proposed : PolicyChange}
      (pending : r.status = .pending) (target : r.target = .policy account arn change)
      (allowed : ∃ route, routeIn setup w r.target = some route ∧
        (listsIn setup w).canEditProposal who r.requester route.approvers = true)
      (valid : (Target.policy account arn proposed).validate = .ok ())
      (free : (Target.policy account arn proposed).key = r.target.key ∨
        (w.Candid → w.requests.NonePending r.requester (Target.policy account arn proposed).key)) :
      Edit setup w (.updateProposal who r.id proposed) r
        { r with
          target := .policy account arn proposed, updatedBy := who.user, lastUpdated := w.now }
  /-- The membership that it granted has run out. -/
  | expire {batch : Nat} {r : Request} {group : String} (due : r.isPastExpiry w.now = true)
      (target : r.target = .group group) :
      Edit setup w (.expireDue batch) r
        (Service.ended w.now r)

/-- How far a submission on a route may come. -/
inductive Started (w : World) (who : Identity) (s : Submission) (route : Route) : Request → Prop where
  /-- It waits for a reviewer. -/
  | waiting (id : String) : Started w who s route (Service.newRequest id who s w.now)
  /-- Its approval comes no further than to note the policy as it was. -/
  | prepared (id : String) {snapshot : Json}
      (auto : AllowLists.autoApproves who route.approvers route.selfApprovalGroups
        route.openWhenUnowned = true)
      (policy : ∀ group, s.target ≠ .group group) :
      Started w who s route { Service.newRequest id who s w.now with snapshot := some snapshot }
  /-- It is put into effect at once. -/
  | approved (id : String) {snapshot : Option Json}
      (auto : AllowLists.autoApproves who route.approvers route.selfApprovalGroups
        route.openWhenUnowned = true)
      (snapshotKept : snapshot = none ∨ ∀ group, s.target ≠ .group group) :
      Started w who s route
        (moved { Service.newRequest id who s w.now with snapshot := snapshot } .approved who.user
          w.now (some "auto-approved"))

/-- What a submission may store, judged in the world before the call. -/
structure Created (setup : Setup) (w : World) (who : Identity) (s : Submission) (r : Request) :
    Prop where
  valid : s.validate w.now = .ok ()
  started : ∃ route, routeIn setup w s.target = some route ∧ route.requestable = true ∧
    route.restricted = false ∧ Started w who s route r
  id : r.id = w.nextId
  nonePending : w.requests.NonePending who.user s.target.key

/-- What becomes in one call of the request that is stored under an id. -/
inductive Fate (setup : Setup) (w : World) (c : RequestCall) :
    Option Request → Option Request → Prop where
  | absent : Fate setup w c none none
  | kept (r : Request) : Fate setup w c (some r) (some r)
  | created {who : Identity} {s : Submission} {r : Request} (submitted : c = .submit who s)
      (created : Created setup w who s r) : Fate setup w c none (some r)
  | edited {r r' : Request} (edit : Edit setup w c r r') : Fate setup w c (some r) (some r')

def History (setup : Setup) (w : World) (c : RequestCall) (left : World) : Prop :=
  ∀ id, Fate setup w c (w.requests.find? id) (left.requests.find? id)

namespace History

variable {setup : Setup} {w left : World} {c : RequestCall}

theorem unchanged (h : left.requests = w.requests) : History setup w c left := by
  intro id
  rw [h]
  cases w.requests.find? id with
  | none => exact .absent
  | some r => exact .kept r

theorem edit {r r' : Request} (stored : w.requests.find? r.id = some r) (edit : Edit setup w c r r')
    (same : r'.id = r.id) (h : left.requests = w.requests.put r') : History setup w c left := by
  intro id
  rw [h, RequestStore.find?_put, same]
  split
  · next eq => rw [eq, stored]; exact .edited edit
  · exact unchanged rfl id

theorem record {who : Identity} {r : Request} {v : Verdict} {snapshot : Option Json}
    (stored : w.requests.find? r.id = some r) (may : MayMove setup w who r v.status)
    (snapshotKept : snapshot = r.snapshot ∨ v.status = .approved ∧ ∀ group, r.target ≠ .group group)
    (h : left.requests = w.requests.put
      (moved { r with snapshot := snapshot } v.status who.user w.now v.comments)) :
    History setup w (.updateStatus who r.id v) left :=
  edit stored (.move may snapshotKept) rfl h

theorem create {who : Identity} {s : Submission} {r : Request} (submitted : c = .submit who s)
    (fresh : w.requests.find? r.id = none) (created : Created setup w who s r)
    (h : ∀ id, left.requests.find? id = (w.requests.put r).find? id) : History setup w c left := by
  intro id
  rw [h, RequestStore.find?_put]
  split
  · next eq => rw [eq, fresh]; exact .created submitted created
  · exact unchanged rfl id

theorem expire {batch : Nat} {r : Request} {group : String} {after : World}
    (h : History setup w (.expireDue batch) left) (stored : w.requests.find? r.id = some r)
    (due : r.isPastExpiry w.now = true) (target : r.target = .group group)
    (saved : after.requests = left.requests.put (Service.ended w.now r)) :
    History setup w (.expireDue batch) after := by
  intro id
  rw [saved, RequestStore.find?_put]
  split
  · next eq =>
    have same : id = r.id := eq
    rw [same, stored]
    exact .edited (.expire due target)
  · exact h id

/-- A request that is still due in a sweep is as it was before the sweep. -/
theorem stored_of_due {batch : Nat} {r : Request} (h : History setup w (.expireDue batch) left)
    (here : left.requests.find? r.id = some r) (due : r.isPastExpiry w.now = true) :
    w.requests.find? r.id = some r := by
  have fate := h r.id
  rw [here] at fate
  generalize w.requests.find? r.id = before at fate
  cases fate with
  | kept => rfl
  | created submitted => cases submitted
  | edited edit =>
    cases edit with
    | expire => simp [Request.isPastExpiry, Service.ended, moved] at due

end History

abbrev Service.Records {α : Type} (setup : Setup) (w : World) (c : RequestCall) (before : World)
    (service : Service α) : Prop :=
  Ends setup before service (fun _ => History setup w c) fun _ => History setup w c

end AccessBroker
