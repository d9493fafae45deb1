import AccessBroker.Proofs.Runs

/-! # Who may change a status

Routes, allow-lists and the clock are those of the world before a call, so no
call can give itself the right that it needs.
-/

namespace AccessBroker

open Service (routeIn listsIn)

/-- The changes of status that a call may make to a stored request. -/
inductive Authorized (setup : Setup) (w : World) (r : Request) :
    RequestCall → Status → Status → Prop where
  /-- A reviewer approves; nobody joins a restricted group. -/
  | approve {who : Identity} {v : Verdict} {route : Route} (asked : v.status = .approved)
      (routed : routeIn setup w r.target = some route)
      (reviewer : (listsIn setup w).canApprove who route.approvers r.target.name = true)
      (unrestricted : ∀ group, r.target = .group group → route.restricted = false) :
      Authorized setup w r (.updateStatus who r.id v) .pending .approved
  /-- A reviewer rejects. -/
  | reject {who : Identity} {v : Verdict} {route : Route} (asked : v.status = .rejected)
      (routed : routeIn setup w r.target = some route)
      (reviewer : (listsIn setup w).canApprove who route.approvers r.target.name = true) :
      Authorized setup w r (.updateStatus who r.id v) .pending .rejected
  /-- The requester or an administrator withdraws it. -/
  | cancel {who : Identity} {v : Verdict} (asked : v.status = .cancelled)
      (own : Text.sameAscii who.user r.requester = true ∨ (listsIn setup w).isAdmin who = true) :
      Authorized setup w r (.updateStatus who r.id v) .pending .cancelled
  /-- A closed request is opened again in time, while none is pending in its place. -/
  | reopen {who : Identity} {v : Verdict} {route : Route} {former : Status}
      (closed : former = .rejected ∨ former = .cancelled) (asked : v.status = .pending)
      (routed : routeIn setup w r.target = some route)
      (allowed : (listsIn setup w).canReopen who r.requester route.approvers = true)
      (young : w.now.since r.lastUpdated ≤ setup.settings.reopenWindow)
      (free : w.requests.NonePending r.requester r.target.key) :
      Authorized setup w r (.updateStatus who r.id v) former .pending
  /-- Whoever may modify members takes the requester out of an unrestricted group. -/
  | remove {who : Identity} {v : Verdict} {route : Route} {group : String}
      (asked : v.status = .removed) (target : r.target = .group group)
      (routed : routeIn setup w r.target = some route) (unrestricted : route.restricted = false)
      (holder : (listsIn setup w).permits who .modifyMembers false = true) :
      Authorized setup w r (.updateStatus who r.id v) .approved .removed
  /-- A sweep ends a membership that has run out. -/
  | expire {batch : Nat} {group : String} {t : Timestamp} (target : r.target = .group group)
      (expiresAt : r.expiresAt = some t) (past : t ≤ w.now) :
      Authorized setup w r (.expireDue batch) .approved .expired

variable {setup : Setup} {w : World} {c : RequestCall} {r r' : Request}

/-- Nobody has a capability to modify members of a restricted group. -/
theorem AllowLists.permits_modifyMembers {lists : AllowLists} {who : Identity} {restricted : Bool}
    (h : lists.permits who .modifyMembers restricted = true) :
    restricted = false ∧ lists.permits who .modifyMembers false = true := by
  cases restricted
  · exact ⟨rfl, h⟩
  · simp [permits, Capability.modifiesMembers] at h

theorem MayMove.authorized {who : Identity} {v : Verdict} (may : MayMove setup w who r v.status)
    (candid : w.Candid) : Authorized setup w r (.updateStatus who r.id v) r.status v.status := by
  obtain ⟨route, routed, allowed⟩ := may
  cases former : r.status <;> cases asked : v.status <;> simp only [former, asked] at allowed
  · exact .approve asked routed allowed.1 allowed.2
  · exact .reject asked routed allowed
  · exact .cancel asked (by simpa [AllowLists.canCancel] using allowed)
  · obtain ⟨⟨group, target⟩, permitted⟩ := allowed
    obtain ⟨unrestricted, holder⟩ := AllowLists.permits_modifyMembers permitted
    exact .remove asked target routed unrestricted holder
  · exact .reopen (.inl rfl) asked routed allowed.1 (of_decide_eq_true allowed.2.1)
      (allowed.2.2 candid)
  · exact .reopen (.inr rfl) asked routed allowed.1 (of_decide_eq_true allowed.2.1)
      (allowed.2.2 candid)

theorem Edit.authorized (edit : Edit setup w c r r') (candid : w.Candid)
    (changed : r'.status ≠ r.status) : Authorized setup w r c r.status r'.status := by
  cases edit with
  | move may => exact may.authorized candid
  | prepare => exact absurd rfl changed
  | propose => exact absurd rfl changed
  | expire due target =>
    obtain ⟨approved, t, expiresAt, past⟩ := Request.isPastExpiry_iff.1 due
    rw [approved]
    exact .expire target expiresAt past

/-- Every change of status that a call makes is one that its caller may make, and what it newly
stores is pending, or approved because its route approves the requests of this caller at once. -/
theorem RequestCall.authority (setup : Setup) (c : RequestCall) (candid : w.Candid) :
    (∀ r ∈ w.requests.all, ∀ r' ∈ (c.after setup w).requests.all, r'.id = r.id →
      r'.status ≠ r.status → Authorized setup w r c r.status r'.status) ∧
    ∀ r' ∈ (c.after setup w).requests.all, w.requests.find? r'.id = none →
      ∃ who s route, c = .submit who s ∧ r'.requester = who.user ∧ r'.target = s.target ∧
        routeIn setup w s.target = some route ∧ route.requestable = true ∧
        route.restricted = false ∧
        (r'.status = .pending ∨ r'.status = .approved ∧
          AllowLists.autoApproves who route.approvers route.selfApprovalGroups
            route.openWhenUnowned = true) := by
  refine ⟨fun r stored r' left same changed => ?_, fun r' left fresh => ?_⟩
  · have fate := c.fate setup w r'.id
    rw [RequestStore.mem_all_iff.1 left, same, RequestStore.mem_all_iff.1 stored] at fate
    cases fate with
    | kept => exact absurd rfl changed
    | edited edit => exact edit.authorized candid changed
  · have fate := c.fate setup w r'.id
    rw [RequestStore.mem_all_iff.1 left, fresh] at fate
    cases fate with
    | @created who s _ submitted created =>
      obtain ⟨route, routed, requestable, unrestricted, started⟩ := created.started
      refine ⟨who, s, route, submitted, ?_⟩
      cases started with
      | waiting => exact ⟨rfl, rfl, routed, requestable, unrestricted, .inl rfl⟩
      | prepared => exact ⟨rfl, rfl, routed, requestable, unrestricted, .inl rfl⟩
      | approved _ auto =>
        exact ⟨rfl, rfl, routed, requestable, unrestricted, .inr ⟨rfl, auto⟩⟩

theorem RequestCall.lead_may_approve :
    Authorized default .withRequest .forOps
      (.updateStatus (.of "lead" []) (World.numberedId 1) ⟨.approved, none⟩) .pending .approved := by
  have edges := (RequestCall.authority default
    (.updateStatus (.of "lead" []) (World.numberedId 1) ⟨.approved, none⟩)
    World.candid_withRequest).1
  exact edges .forOps World.forOps_mem_withRequest
    (Service.moved .forOps .approved "lead" World.withRequest.now none) (by decide +kernel) rfl
    (by decide +kernel)

end AccessBroker
