import AccessBroker.Proofs.Runs

/-! # One pending request for a requester and a target

The store looks for a second pending request only when one is inserted, and
`save` overwrites what is there.  Still every call either leaves a pending
request with its requester and key or makes one pending where none was, and it
does the latter to one request at most.  So no run ever has two of them.
-/

namespace AccessBroker

namespace RequestStore

variable {s : RequestStore} {requester key : String} {r : Request}

def PendingOnce (s : RequestStore) : Prop :=
  ∀ a ∈ s.all, ∀ b ∈ s.all, a.status = .pending → b.status = .pending →
    a.requester = b.requester → a.target.key = b.target.key → a = b

end RequestStore

/-! ## One call -/

/-- The one request that a call may make pending. -/
def RequestCall.subject (w : World) : RequestCall → Option String
  | submit .. => some w.nextId
  | updateStatus _ id _ | updateProposal _ id _ => some id
  | expireDue _ => none

variable {setup : Setup} {w : World} {c : RequestCall}

inductive PendingOrigin (w : World) (c : RequestCall) (r' : Request) : Prop where
  /-- It was pending for the same requester and key. -/
  | stays {r : Request} (stored : r ∈ w.requests.all) (same : r.id = r'.id)
    (pending : r.status = .pending) (requester : r.requester = r'.requester)
    (key : r.target.key = r'.target.key)
  /-- The call is about it, and none was pending. -/
  | arrives (subject : c.subject w = some r'.id)
    (free : w.Candid → w.requests.NonePending r'.requester r'.target.key)

theorem Created.pendingOrigin {who : Identity} {s : Submission} {r : Request}
    (created : Created setup w who s r) (pending : r.status = .pending) :
    PendingOrigin w (.submit who s) r := by
  have free := created.nonePending
  obtain ⟨route, -, -, -, started⟩ := created.started
  refine .arrives (congrArg some created.id.symm) fun _ => ?_
  cases started with
  | waiting => exact free
  | prepared => exact free
  | approved => cases pending

theorem Edit.pendingOrigin {r r' : Request} (edit : Edit setup w c r r')
    (stored : r ∈ w.requests.all) (pending : r'.status = .pending) : PendingOrigin w c r' := by
  cases edit with
  | @move who v r snapshot may =>
    obtain ⟨route, -, allowed⟩ := may
    have reopens : v.status = .pending := pending
    rw [reopens] at allowed
    refine .arrives rfl fun candid => ?_
    cases former : r.status <;> simp only [former] at allowed
    · exact allowed.2.2 candid
    · exact allowed.2.2 candid
  | prepare => exact .stays stored rfl pending rfl rfl
  | propose was _ _ _ free =>
    rcases free with same | free
    · exact .stays stored rfl was rfl same.symm
    · exact .arrives rfl free
  | expire => cases pending

theorem RequestCall.pendingOrigin {r' : Request} (left : r' ∈ (c.after setup w).requests.all)
    (pending : r'.status = .pending) : PendingOrigin w c r' := by
  rcases RequestCall.stored_after left with stored | ⟨r, stored, edit⟩ | ⟨who, s, submitted, created⟩
  · exact .stays stored rfl pending rfl rfl
  · exact edit.pendingOrigin stored pending
  · exact submitted ▸ created.pendingOrigin pending

/-- A call makes no second request pending for a requester and a target. -/
theorem RequestStore.PendingOnce.after (once : w.requests.PendingOnce) (candid : w.Candid) :
    (c.after setup w).requests.PendingOnce := by
  intro a ha b hb aPending bPending requester key
  have taken {r r' : Request} (stored : r ∈ w.requests.all) (pending : r.status = .pending)
      (sameRequester : r.requester = r'.requester) (sameKey : r.target.key = r'.target.key)
      (free : w.Candid → w.requests.NonePending r'.requester r'.target.key) : False := by
    have absent := free candid r stored
    simp [isPendingFor, pending, sameRequester, sameKey] at absent
  -- An arrival excludes every request that was pending before, and only one can arrive.
  refine eq_of_id_eq ha hb ?_
  cases c.pendingOrigin ha aPending with
  | stays stored same pending aRequester aKey =>
    cases c.pendingOrigin hb bPending with
    | stays stored' same' pending' bRequester bKey =>
      rw [← same, ← same', once _ stored _ stored' pending pending'
        (aRequester.trans (requester.trans bRequester.symm)) (aKey.trans (key.trans bKey.symm))]
    | arrives _ free =>
      exact (taken stored pending (aRequester.trans requester) (aKey.trans key) free).elim
  | arrives subject free =>
    cases c.pendingOrigin hb bPending with
    | stays stored _ pending bRequester bKey =>
      exact (taken stored pending (bRequester.trans requester.symm) (bKey.trans key.symm) free).elim
    | arrives subject' => exact Option.some.inj (subject.symm.trans subject')

theorem RoleKey.kind_of_error {account arn : String} {e : Error} (h : of account arn = .error e) :
    e.kind = .validation := by
  simp only [of] at h
  split at h
  · cases h
  · next refusal _ =>
    cases h
    cases refusal <;> rfl

theorem Target.kind_of_error {target : Target} {e : Error} (h : target.validate = .error e) :
    e.kind = .validation := by
  unfold validate at h
  repeat' split at h
  all_goals cases h <;> rfl

theorem Submission.kind_of_validateTarget {s : Submission} {now : Timestamp} {e : Error}
    (h : s.validateTarget now = .error e) : e.kind = .validation := by
  unfold validateTarget at h
  split at h
  · split at h <;> cases h
    rfl
  · next account arn _ _ =>
    split at h
    · cases h
      rfl
    · cases key : RoleKey.of account arn with
      | error refusal =>
        rw [key] at h
        cases h
        exact RoleKey.kind_of_error key
      | ok => simp [key, Except.map] at h

theorem Submission.kind_of_error {s : Submission} {now : Timestamp} {e : Error}
    (h : s.validate now = .error e) : e.kind = .validation := by
  cases target : s.target.validate with
  | error refusal =>
    simp only [validate, target, bind, Except.bind] at h
    cases h
    exact Target.kind_of_error target
  | ok =>
    simp only [validate, target, bind, Except.bind, throw, throwThe, MonadExceptOf.throw] at h
    split at h
    · cases h
      rfl
    · exact kind_of_validateTarget h

namespace Service

end Service

end AccessBroker
