import AccessBroker.Proofs.Histories

/-! # Moving a request along its life

Whatever fails on the way, a review stores what it was made for, notes the
policy before a change, or leaves the stored requests alone.
-/

namespace AccessBroker.Service

open World (Alike)

variable {setup : Setup} {w : World}

section

variable {left : World} {who : Identity} {v : Verdict} {r : Request} {route : Route}

/-! ## The steps of a life -/

def Holds (s : RequestStore) (t : Timestamp) (w : World) : Prop :=
  w.requests = s ∧ w.now = t

theorem records_recordStatus (held : Holds w.requests w.now left)
    (stored : w.requests.find? r.id = some r) (may : MayMove setup w who r v.status) :
    Records setup w (.updateStatus who r.id v) left (recordStatus r v.status who.user v.comments) := by
  refine ends_recordStatus (fun after alike => .record stored may (.inl rfl) ?_)
    fun e after _ alike => .unchanged (alike.requests.trans held.1)
  rw [alike.requests, held.1, held.2]

theorem records_approve (held : Holds w.requests w.now left)
    (stored : w.requests.find? r.id = some r) (approves : v.status = .approved)
    (may : (∀ group, r.target = .group group → route.restricted = false) →
      MayMove setup w who r v.status) :
    Records setup w (.updateStatus who r.id v) left (approve r route who.user v.comments) := by
  refine ends_approve (fun snapshot after kept unrestricted h => ?_)
    (fun e snapshot after policy h => ?_) fun e after h => .unchanged (h.trans held.1)
  · rw [held.1, held.2, ← approves] at h
    exact .record stored (may unrestricted) (kept.imp_right fun h => ⟨approves, h⟩) h
  · rw [held.1] at h
    have allowed := may fun group h => absurd h (policy group)
    exact .edit stored (.prepare approves (approves ▸ allowed) policy) rfl h

theorem records_reopen (alike : Alike w left) (stored : w.requests.find? r.id = some r)
    (reopens : v.status = .pending) (closed : r.status ≠ .pending)
    (may : r.isReopenable w.now setup.settings.reopenWindow = true →
      (w.Candid → w.requests.NonePending r.requester r.target.key) →
      MayMove setup w who r v.status) :
    Records setup w (.updateStatus who r.id v) left (reopen who r v.comments) := by
  refine ends_reopen (alike.requests ▸ stored) closed (fun after young free alike' => ?_)
    fun e after alike' => .unchanged (alike'.requests.trans alike.requests)
  have h := alike'.requests
  rw [alike.now] at young
  rw [alike.requests] at free
  rw [alike.requests, alike.now, ← reopens] at h
  exact .record stored (may young fun candid => free (candid.rest alike.leftOver)) (.inl rfl) h

/-- Every step checks that its caller may make it before it changes anything. -/
theorem records_step (alike : Alike w left) (stored : w.requests.find? r.id = some r)
    (routed : routeIn setup w r.target = some route) :
    Records setup w (.updateStatus who r.id v) left (step who r route (listsIn setup w) v) := by
  have held : Holds w.requests w.now left := ⟨alike.requests, alike.now⟩
  have unchanged : History setup w (.updateStatus who r.id v) left := .unchanged alike.requests
  unfold step
  split
  · next pending approves =>
    refine ends_check (fun _ allowed => ?_) fun e => unchanged
    refine records_approve held stored approves fun unrestricted => ⟨route, routed, ?_⟩
    simpa [pending, approves, isReviewer] using ⟨ensureAllowed_eq_ok allowed, unrestricted⟩
  · next pending rejects =>
    refine ends_check (fun _ allowed => ?_) fun e => unchanged
    rw [← rejects]
    refine records_recordStatus held stored ⟨route, routed, ?_⟩
    simpa [pending, rejects, isReviewer] using ensureAllowed_eq_ok allowed
  · next pending cancels =>
    refine ends_check (fun _ allowed => ?_) fun e => unchanged
    rw [← cancels]
    refine records_recordStatus held stored ⟨route, routed, ?_⟩
    simpa [pending, cancels] using ensureAllowed_eq_ok allowed
  · next rejected reopens =>
    refine ends_check (fun _ allowed => ?_) fun e => unchanged
    refine records_reopen alike stored reopens (by simp [rejected]) fun young free =>
      ⟨route, routed, ?_⟩
    simpa [rejected, reopens] using ⟨ensureAllowed_eq_ok allowed, young, free⟩
  · next cancelled reopens =>
    refine ends_check (fun _ allowed => ?_) fun e => unchanged
    refine records_reopen alike stored reopens (by simp [cancelled]) fun young free =>
      ⟨route, routed, ?_⟩
    simpa [cancelled, reopens] using ⟨ensureAllowed_eq_ok allowed, young, free⟩
  · next approved removes =>
    simp only [ends_bind]
    refine ends_requireCapability (fun permitted => ?_) fun e _ => unchanged
    refine ends_leave (fun group eligible after target _ gone => ?_) fun e after _ alike' =>
      .unchanged (alike'.requests.trans alike.requests)
    rw [listsIn_alike alike] at permitted
    rw [← removes]
    refine records_recordStatus ⟨gone.requests.trans held.1, gone.now.trans held.2⟩ stored
      ⟨route, routed, ?_⟩
    simpa [approved, removes] using ⟨⟨group, target⟩, permitted⟩
  · exact unchanged
  · exact unchanged

end

theorem records_updateStatus (who : Identity) (id : String) (v : Verdict) :
    Records setup w (.updateStatus who id v) w (updateStatus who id v) := by
  simp only [updateStatus, ends_bind, ends_lift, ends_allowLists, ends_pure]
  refine ends_requireRequest (fun r found stored alike => ?_) fun e left alike =>
    .unchanged alike.requests
  obtain rfl : r.id = id := (RequestStore.find?_eq_some_iff.1 stored).2
  refine ⟨fun _ _ => ?_, fun e _ => .unchanged alike.requests⟩
  refine ends_approvalRoute (fun route left routed alike' => ?_) fun e left _ alike' =>
    .unchanged (alike'.requests.trans alike.requests)
  rw [routeIn_alike alike] at routed
  have same := alike.trans alike'
  rw [listsIn_alike same]
  refine (records_step same stored routed).mono (fun changed after h => ?_) fun _ _ h => h
  exact ends_announce fun told alike'' id => alike''.requests ▸ h id

/-! ## Changing a proposal -/

theorem records_proposal {before : World} {who : Identity} {r : Request} {target : Target}
    {proposed : PolicyChange} (alike : Alike w before) (stored : w.requests.find? r.id = some r)
    (edit : Edit setup w (.updateProposal who r.id proposed) r
      { r with target := target, updatedBy := who.user, lastUpdated := w.now }) :
    Records setup w (.updateProposal who r.id proposed) before (do
      let edited := { r with target := target, updatedBy := who.user, lastUpdated := ← now }
      saveRequest edited
      return edited) := by
  simp only [ends_bind, ends_now, ends_pure]
  refine ends_saveRequest (fun saved alike' => .edit stored edit rfl ?_) fun e saved _ alike' =>
    .unchanged (alike'.requests.trans alike.requests)
  rw [alike'.requests, alike.requests, alike.now]

theorem records_updateProposal (who : Identity) (id : String) (proposed : PolicyChange) :
    Records setup w (.updateProposal who id proposed) w (updateProposal who id proposed) := by
  simp only [updateProposal, ends_bind]
  refine ends_requireRequest (fun r found stored alike => ?_) fun e left alike =>
    .unchanged alike.requests
  obtain rfl : r.id = id := (RequestStore.find?_eq_some_iff.1 stored).2
  refine ends_refuse (fun _ => .unchanged alike.requests) fun pending => ?_
  cases target : r.target with
  | group group => exact .unchanged alike.requests
  | policy account arn change =>
    simp only [ends_bind, ends_allowLists, ends_lift]
    refine ends_approvalRoute (fun route left routed alike' => ?_) fun e left _ alike' =>
      .unchanged (alike'.requests.trans alike.requests)
    have same := alike.trans alike'
    rw [listsIn_alike same]
    refine ⟨fun _ allowed => ?_, fun e _ => .unchanged same.requests⟩
    have permitted : ∃ route, routeIn setup w r.target = some route ∧
        (listsIn setup w).canEditProposal who r.requester route.approvers = true :=
      ⟨route, by rw [target, ← routeIn_alike alike, routed], ensureAllowed_eq_ok allowed⟩
    refine ends_refuse (fun _ => .unchanged same.requests) fun _ => ?_
    refine ends_check (fun _ valid => ?_) fun e => .unchanged same.requests
    have store {before : World} (alike : Alike w before)
        (free : (Target.policy account arn proposed).key = r.target.key ∨
          (w.Candid → w.requests.NonePending r.requester (Target.policy account arn proposed).key)) :=
      records_proposal alike stored
        (.propose (Decidable.not_not.1 pending) target permitted valid free)
    split
    · next moves =>
      rw [ends_bind]
      refine ends_ensureNoOtherPending (fun checked alike'' free => ?_)
        fun e checked alike'' => .unchanged (alike''.requests.trans same.requests)
      rw [same.requests] at free
      refine store (same.trans alike'') (.inr fun candid => ?_)
      -- The stored request is pending under its old key.
      refine free (fun other here => ?_) (candid.rest same.leftOver)
      rw [stored, Option.some.injEq] at here
      subst here
      simpa [RequestStore.isPendingFor, target] using fun _ => Ne.symm moves
    · next stays => exact store same (.inl (by rw [target]; exact Decidable.not_not.1 stays))

end AccessBroker.Service
