import AccessBroker.Proofs.Runs

/-! # When remembered roles are forgotten

The roles of a user are forgotten when a request of the user for a group comes
to be approved, removed or expired, in whichever call it does so.  No call
forgets the roles of anybody else.
-/

namespace AccessBroker

namespace EligibleCache

variable {user other : String} {console flag : Bool} {roles : List RoleMapping} {lifetime : Nat}

theorem get?_empty : empty.get? user console = none := rfl

/-- Users are told apart by their names in lower case alone. -/
theorem get?_congr (c : EligibleCache) (same : Text.lower other = Text.lower user) :
    c.get? other console = c.get? user console := by
  rw [get?, get?, same]

theorem get?_put (c : EligibleCache) :
    (c.put user console roles lifetime).get? other flag =
      if 0 < lifetime ∧ Text.lower other = Text.lower user ∧ flag = console then some roles
      else c.get? other flag := by
  rw [put]
  by_cases none : lifetime = 0
  · simp [none]
  · simp only [none, if_false, get?, Registry.get?_insert, Prod.mk.injEq, Nat.pos_of_ne_zero none,
      true_and]

theorem get?_invalidate (c : EligibleCache) :
    (c.invalidate user).get? other flag =
      if Text.lower other = Text.lower user then none else c.get? other flag := by
  have kept := c.entries.get?_filter_keys (fun key => key.1 != Text.lower user)
    (Text.lower other, flag)
  rw [get?, invalidate, kept]
  by_cases same : Text.lower other = Text.lower user
  · simp [same]
  · simp [same, get?]

end EligibleCache

structure ChangesMembership (w left : World) (r : Request) : Prop where
  stored : left.requests.find? r.id = some r
  group : ∃ group, r.target = .group group
  status : r.status = .approved ∨ r.status = .removed ∨ r.status = .expired
  news : ∀ old, w.requests.find? r.id = some old → old.status ≠ r.status

/-- What is remembered of those whose membership has changed is forgotten, and nothing else is. -/
structure Forgets (w left : World) : Prop where
  dropped : ∀ r, ChangesMembership w left r →
    ∀ console, left.eligible.get? r.requester console = none
  spared : ∀ user console,
    left.eligible.get? user console = w.eligible.get? user console ∨
      left.eligible.get? user console = none ∧
        ∃ r, ChangesMembership w left r ∧ Text.lower r.requester = Text.lower user

variable {w mid left : World} {r x : Request}

namespace ChangesMembership

/-- Nothing but the stored requests tells whether a membership has changed. -/
theorem of_requests {w' left' : World} (changes : ChangesMembership w left r)
    (start : w'.requests = w.requests) (stop : left'.requests = left.requests) :
    ChangesMembership w' left' r where
  stored := by rw [stop]; exact changes.stored
  group := changes.group
  status := changes.status
  news := by rw [start]; exact changes.news

/-- A request that is as it was changes no membership. -/
theorem not_of_same (same : left.requests.find? r.id = w.requests.find? r.id) :
    ¬ ChangesMembership w left r := by
  intro changes
  have before := changes.stored
  rw [same] at before
  exact changes.news r before rfl

/-- Where one request is put into the store, the others change no more than before. -/
theorem other_iff (requests : ∀ id, left.requests.find? id = (mid.requests.put x).find? id)
    (other : r.id ≠ x.id) : ChangesMembership w left r ↔ ChangesMembership w mid r := by
  have same : left.requests.find? r.id = mid.requests.find? r.id := by
    rw [requests, RequestStore.find?_put, if_neg other]
  constructor
  · intro changes
    exact { changes with stored := same ▸ changes.stored }
  · intro changes
    exact { changes with stored := same ▸ changes.stored }

theorem eq_of_id (requests : ∀ id, left.requests.find? id = (mid.requests.put x).find? id)
    (changes : ChangesMembership w left r) (same : r.id = x.id) : r = x := by
  have stored := changes.stored
  rw [requests, RequestStore.find?_put, if_pos same] at stored
  exact (Option.some.inj stored).symm

/-- A change that was made before another request was put into the store has been made after it. -/
theorem stays (changes : ChangesMembership w mid r)
    (requests : ∀ id, left.requests.find? id = (mid.requests.put x).find? id)
    (before : mid.requests.find? x.id = w.requests.find? x.id) : ChangesMembership w left r := by
  have other : r.id ≠ x.id := by
    intro same
    rw [← same] at before
    exact not_of_same before changes
  exact (other_iff requests other).2 changes

end ChangesMembership

namespace Forgets

theorem of_same (requests : left.requests = w.requests) (eligible : left.eligible = w.eligible) :
    Forgets w left where
  dropped r changes := by
    have same : left.requests.find? r.id = w.requests.find? r.id := by rw [requests]
    exact absurd changes (ChangesMembership.not_of_same same)
  spared user console := by
    rw [eligible]
    exact .inl rfl

/-- What is forgotten depends on the requests and on what is remembered alone. -/
theorem alike {after : World} (h : Forgets mid left) (start : w.Alike mid) (stop : left.Alike after) :
    Forgets w after where
  dropped r changes console := by
    rw [stop.eligible]
    exact h.dropped r (changes.of_requests start.requests stop.requests.symm) console
  spared user console := by
    rw [stop.eligible, ← start.eligible]
    rcases h.spared user console with kept | ⟨lost, r, changes, own⟩
    · exact .inl kept
    · exact .inr ⟨lost, r, changes.of_requests start.requests.symm stop.requests, own⟩

/-- A request that changes no membership is put into the store. -/
theorem quiet (h : Forgets w mid)
    (requests : ∀ id, left.requests.find? id = (mid.requests.put x).find? id)
    (before : mid.requests.find? x.id = w.requests.find? x.id)
    (unchanged : ¬ ChangesMembership w left x) (eligible : left.eligible = mid.eligible) :
    Forgets w left where
  dropped r changes console := by
    by_cases same : r.id = x.id
    · obtain rfl := changes.eq_of_id requests same
      exact absurd changes unchanged
    · rw [eligible]
      exact h.dropped r ((ChangesMembership.other_iff requests same).1 changes) console
  spared user console := by
    rw [eligible]
    rcases h.spared user console with kept | ⟨lost, r, changes, own⟩
    · exact .inl kept
    · exact .inr ⟨lost, r, changes.stays requests before, own⟩

/-- A request that changes a membership is put into the store, and its requester is forgotten. -/
theorem forgotten (h : Forgets w mid)
    (requests : ∀ id, left.requests.find? id = (mid.requests.put x).find? id)
    (before : mid.requests.find? x.id = w.requests.find? x.id)
    (changes : ChangesMembership w left x)
    (eligible : left.eligible = mid.eligible.invalidate x.requester) : Forgets w left where
  dropped r changes' console := by
    rw [eligible, EligibleCache.get?_invalidate]
    by_cases same : r.id = x.id
    · obtain rfl := changes'.eq_of_id requests same
      exact if_pos rfl
    · rw [h.dropped r ((ChangesMembership.other_iff requests same).1 changes') console, ite_self]
  spared user console := by
    rw [eligible, EligibleCache.get?_invalidate]
    by_cases own : Text.lower user = Text.lower x.requester
    · exact .inr ⟨if_pos own, x, changes, own.symm⟩
    · rw [if_neg own]
      rcases h.spared user console with kept | ⟨lost, r, changes', own'⟩
      · exact .inl kept
      · exact .inr ⟨lost, r, changes'.stays requests before, own'⟩

end Forgets

namespace Service

open World (Alike)

variable {setup : Setup}

/-! ## Approvals and reviews -/

/-- An approval forgets the requester if it changes a membership; a change of policies does not. -/
theorem Approved.forgets {actor : String} {comments : Option String} {answer : Request}
    (done : Approved setup mid r actor comments answer left)
    (calm : mid.Undisturbed .invalidateUser) (eligible : mid.eligible = w.eligible)
    (held : ∀ id, (mid.requests.put answer).find? id = (w.requests.put answer).find? id)
    (unapproved : ∀ old, w.requests.find? r.id = some old → old.status ≠ .approved) :
    Forgets w left := by
  have nothing : Forgets w w := .of_same rfl rfl
  have requests : ∀ id, left.requests.find? id = (w.requests.put answer).find? id := by
    intro id
    rw [done.requests.1, held]
  cases done with
  | joined target known forgot alike =>
    apply nothing.forgotten requests rfl
    · refine ⟨?_, ⟨_, target⟩, .inl rfl, unapproved⟩
      rw [requests, RequestStore.find?_put, if_pos rfl]
    · rw [alike.eligible, forgot calm, eligible]
      rfl
  | applied target own alike shown =>
    apply nothing.quiet requests rfl
    · intro changes
      obtain ⟨group, isGroup⟩ := changes.group
      cases target.symm.trans isGroup
    · rw [alike.eligible, eligible]

theorem Reviewed.forgets {who : Identity} {v : Verdict} {answer : Request}
    (done : Reviewed setup w who r v answer left) (calm : w.Undisturbed .invalidateUser)
    (stored : w.requests.find? r.id = some r) : Forgets w left := by
  have nothing : Forgets w w := .of_same rfl rfl
  have requests : ∀ id, left.requests.find? id = (w.requests.put answer).find? id := by
    intro id
    rw [done.requests.1]
  cases done with
  | recorded waits next alike =>
    apply nothing.quiet requests rfl
    · intro changes
      have status := changes.status
      rcases next with next | next | next <;> simp [moved, next] at status
    · exact alike.eligible
  | approved pending done =>
    apply done.forgets calm rfl (fun _ => rfl)
    intro old here
    obtain rfl := Option.some.inj (stored.symm.trans here)
    rw [pending]
    decide
  | removed approved target forgot alike =>
    apply nothing.forgotten requests rfl
    · refine ⟨?_, ⟨_, target⟩, .inr (.inl rfl), ?_⟩
      · rw [requests, RequestStore.find?_put, if_pos rfl]
      · intro old here
        obtain rfl := Option.some.inj (stored.symm.trans here)
        rw [approved]
        show Status.approved ≠ .removed
        decide
    · rw [alike.eligible, forgot calm]
      rfl

theorem Failed.forgets (failed : Failed setup w r left) (saves : w.Undisturbed .saveRequest)
    (stored : w.requests.find? r.id = some r) : Forgets w left := by
  have eligible := failed.eligible saves
  rcases failed.requests saves with same | ⟨snapshot, noted⟩
  · exact .of_same same eligible
  · have nothing : Forgets w w := .of_same rfl rfl
    have requests : ∀ id,
        left.requests.find? id = (w.requests.put { r with snapshot := snapshot }).find? id := by
      intro id
      rw [noted]
    apply nothing.quiet requests rfl
    · intro changes
      exact changes.news r stored rfl
    · exact eligible

theorem forgets_updateStatus (who : Identity) (id : String) (v : Verdict)
    (saves : w.Undisturbed .saveRequest) (calm : w.Undisturbed .invalidateUser) :
    Ends setup w (updateStatus who id v) (fun _ => Forgets w) fun _ => Forgets w := by
  apply ends_updateStatus
  · intro r mid answer left after _ alike stored done alike'
    have forgets : Forgets mid left := done.forgets (calm.rest alike.leftOver) stored
    exact forgets.alike alike alike'
  · intro e r mid left alike stored failed
    have forgets : Forgets mid left := failed.forgets (saves.rest alike.leftOver) stored
    exact forgets.alike alike (.refl left)
  · intro e left alike
    exact .of_same alike.requests alike.eligible

theorem forgets_updateProposal (who : Identity) (id : String) (proposed : PolicyChange) :
    Ends setup w (updateProposal who id proposed) (fun _ => Forgets w) fun _ => Forgets w := by
  apply ends_updateProposal
  · intro r target left stored _ alike
    have nothing : Forgets w w := .of_same rfl rfl
    have requests : ∀ id, left.requests.find? id =
        (w.requests.put (retargeted r target who.user w.now)).find? id := by
      intro id
      rw [alike.requests]
    apply nothing.quiet requests rfl
    · intro changes
      exact changes.news r stored rfl
    · exact alike.eligible
  · intro e left alike
    exact .of_same alike.requests alike.eligible

/-! ## Submissions and sweeps -/

/-- A request that has just been stored is settled. -/
theorem forgets_settle {who : Identity} {route : Route} (saves : mid.Undisturbed .saveRequest)
    (calm : mid.Undisturbed .invalidateUser) (eligible : mid.eligible = w.eligible)
    (fresh : w.requests.find? r.id = none) (pending : r.status = .pending)
    (held : ∀ id, mid.requests.find? id = (w.requests.put r).find? id) :
    Ends setup mid (settle who r route) (fun _ => Forgets w) fun _ => Forgets w := by
  have nothing : Forgets w w := .of_same rfl rfl
  have stored : mid.requests.find? r.id = some r := by
    rw [held, RequestStore.find?_put, if_pos rfl]
  have waits (x : Request) (left : World) (status : x.status = .pending) (same : x.id = r.id)
      (requests : ∀ id, left.requests.find? id = (w.requests.put x).find? id)
      (kept : left.eligible = w.eligible) : Forgets w left := by
    apply nothing.quiet requests rfl _ kept
    intro changes
    have concluded := changes.status
    rw [status] at concluded
    simp at concluded
  apply ends_settle stored
  · intro left alike
    apply waits r left pending rfl
    · intro id
      rw [alike.requests, held]
    · rw [alike.eligible, eligible]
  · intro answer before left done alike
    have forgets : Forgets w before := by
      apply done.forgets calm eligible
      · exact RequestStore.find?_put_hides done.requests.2 held
      · intro old here
        cases fresh.symm.trans here
    exact forgets.alike (.refl w) alike
  · intro e left failed
    rcases failed.requests saves with same | ⟨snapshot, noted⟩
    · apply waits r left pending rfl
      · intro id
        rw [same, held]
      · rw [failed.eligible saves, eligible]
    · have same : { r with snapshot := snapshot }.id = r.id := rfl
      apply waits { r with snapshot := snapshot } left pending rfl
      · intro id
        rw [noted]
        exact RequestStore.find?_put_hides same held id
      · rw [failed.eligible saves, eligible]

theorem forgets_submit (who : Identity) (s : Submission) (saves : w.Undisturbed .saveRequest)
    (calm : w.Undisturbed .invalidateUser) :
    Ends setup w (submit who s) (fun _ => Forgets w) fun _ => Forgets w := by
  apply ends_submit
  · intro e drawn left _ alike
    exact .of_same alike.requests alike.eligible
  · intro route noted just
    have eligible : noted.eligible = w.eligible := just.alike.eligible
    have fresh : w.requests.find? (nextRequest w who s).id = none := just.admitted.fresh
    exact forgets_settle (saves.rest just.alike.leftOver) (calm.rest just.alike.leftOver) eligible
      fresh rfl just.held

theorem forgets_expireDue (batch : Nat) (saves : w.Undisturbed .saveRequest)
    (calm : w.Undisturbed .invalidateUser) :
    Ends setup w (expireDue batch) (fun _ => Forgets w) fun _ => Forgets w := by
  have ends : Ends setup w (expireDue batch)
      (fun _ left => Forgets w left ∧ left.Undisturbed .invalidateUser)
      fun _ left => Forgets w left ∧ left.Undisturbed .invalidateUser := by
    apply ends_expireDue saves ⟨.of_same rfl rfl, calm⟩
    · rintro mid left ⟨forgets, calm⟩ alike
      exact ⟨forgets.alike (.refl w) alike, calm.rest alike.leftOver⟩
    · rintro r mid left done ⟨forgets, calm⟩
      obtain ⟨group, eligible, target, forgot, alike⟩ := done.change
      have requests : ∀ id,
          left.requests.find? id = (mid.requests.put (ended w.now r)).find? id := by
        intro id
        rw [alike.requests]
      have before : mid.requests.find? (ended w.now r).id =
          w.requests.find? (ended w.now r).id :=
        done.stored.trans done.before.symm
      refine ⟨forgets.forgotten requests before ?_ ?_, calm.rest alike.leftOver⟩
      · refine ⟨?_, ⟨group, target⟩, .inr (.inr rfl), ?_⟩
        · rw [requests, RequestStore.find?_put, if_pos rfl]
        · intro old here
          obtain rfl : r = old := Option.some.inj (done.before.symm.trans here)
          rw [(Request.isPastExpiry_iff.1 done.due).1]
          show Status.approved ≠ .expired
          decide
      · rw [alike.eligible, forgot calm]
        rfl
  exact ends.mono (fun _ _ h => h.1) fun _ _ h => h.1

end Service

/-- Whatever a call does, it forgets those whose membership it changes, and nobody else. -/
theorem RequestCall.forgets (setup : Setup) (w : World) (c : RequestCall)
    (saves : w.Undisturbed .saveRequest) (calm : w.Undisturbed .invalidateUser) :
    Forgets w (c.after setup w) := by
  cases c with
  | submit who s => exact (Service.forgets_submit who s saves calm).left
  | updateStatus who id v => exact (Service.forgets_updateStatus who id v saves calm).left
  | updateProposal who id proposed => exact (Service.forgets_updateProposal who id proposed).left
  | expireDue batch => exact (Service.forgets_expireDue batch saves calm).left

end AccessBroker
