import AccessBroker.Broker.Queries
import AccessBroker.Proofs.Runs
import AccessBroker.Proofs.TimeOrder

/-! # What a reviewer is shown

The oldest pending requests are picked out before anyone asks who reviews them.
What a reviewer is shown is in order and is all the reviewer's own, but requests
of others count towards the limit: one that the reviewer may decide is left out
as soon as so many pending requests of whatever kind are older.
-/

namespace AccessBroker

namespace RequestStore

abbrev MadeBefore (a b : Request) : Prop :=
  Precedes Request.requestTime a b

/-- How many pending requests are older than a request, whoever reviews them. -/
def pendingBefore (s : RequestStore) (r : Request) : Nat :=
  s.all.countP fun x => x.status == .pending && decide (MadeBefore x r)

variable {s : RequestStore} {r : Request}

def queue (s : RequestStore) : List Request :=
  (s.all.filter (·.status == .pending)).mergeSort olderFirst

theorem pairwise_queue (s : RequestStore) : s.queue.Pairwise MadeBefore :=
  pairwise_mergeSort Request.requestTime (s.ids_filter_nodup _)

theorem mem_queue_iff : r ∈ s.queue ↔ r ∈ s.all ∧ r.status = .pending := by
  simp [queue]

theorem countP_queue (s : RequestStore) (r : Request) :
    s.queue.countP (MadeBefore · r) = s.pendingBefore r := by
  rw [queue, (List.mergeSort_perm _ _).countP_eq, List.countP_filter, pendingBefore]
  simp only [Bool.and_comm]

/-- The oldest pending requests are those with too few others before them. -/
theorem mem_pending_iff {limit : Nat} :
    r ∈ s.pending limit ↔ (r ∈ s.all ∧ r.status = .pending) ∧ s.pendingBefore r < limit := by
  have cut : r ∈ s.pending limit ↔ r ∈ s.queue ∧ s.queue.countP (MadeBefore · r) < limit :=
    mem_take_iff s.pairwise_queue limit
  rw [cut, mem_queue_iff, countP_queue]

end RequestStore

namespace Service

open World (Alike)
open RequestStore (MadeBefore)

variable {setup : Setup} {w : World} {bad : Error → World → Prop} {who : Identity} {r : Request}

def Reviews (setup : Setup) (w : World) (who : Identity) (r : Request) : Prop :=
  ∃ route, routeIn setup w r.target = some route ∧
    (listsIn setup w).canApprove who route.approvers r.target.name = true

theorem any_isReviewer_iff :
    (routeIn setup w r.target).any (isReviewer (listsIn setup w) who r.target) = true ↔
      Reviews setup w who r := by
  simp [Reviews, isReviewer, Option.any_eq_true]

instance : Decidable (Reviews setup w who r) := decidable_of_iff _ any_isReviewer_iff

/-- Whoever reviews a pending request may reject it. -/
theorem mayMove_rejected_iff (pending : r.status = .pending) :
    MayMove setup w who r .rejected ↔ Reviews setup w who r := by
  simp only [MayMove, Reviews, pending]

/-- The route of a request, or none if its group is gone. -/
theorem ends_route {good : Option Route → World → Prop} (routes : w.Undisturbed .groupAttributes)
    (found : ∀ left, Alike w left → good (routeIn setup w r.target) left) :
    Ends setup w
      (tryCatch (return some (← approvalRoute r.target)) fun e =>
        if e.kind = .notFound then return none else throw e) good bad := by
  rw [ends_tryCatch, ends_bind]
  refine ends_approvalRoute (fun route left routed alike => ?_) fun e left why alike => ?_
  · exact routed ▸ found left alike
  · rcases why with fails | ⟨gone, notFound⟩
    · exact absurd fails routes.not_fail
    · rw [if_pos notFound]
      exact gone ▸ found left alike

theorem reviews_alike {left : World} (alike : Alike w left) :
    Reviews setup left who r ↔ Reviews setup w who r := by
  rw [Reviews, Reviews, routeIn_alike alike, listsIn_alike alike]

/-- Of some requests those are shown that the identity reviews. -/
theorem ends_reviewable (routes : w.Undisturbed .groupAttributes) (rs : List Request) :
    Ends setup w (reviewable who rs)
      (fun shown left => Alike w left ∧ shown = rs.filter (Reviews setup w who ·)) bad := by
  induction rs generalizing w with
  | nil => exact ⟨.refl w, rfl⟩
  | cons r rest ih =>
    simp only [reviewable, ends_bind, ends_allowLists, ends_pure]
    refine ends_route routes fun mid alike => ?_
    refine (ih (routes.rest alike.leftOver)).mono (fun others left h => ?_) fun _ _ h => h
    obtain ⟨alike', others⟩ := h
    refine ⟨alike.trans alike', ?_⟩
    have shown : (routeIn setup w r.target).any (isReviewer (listsIn setup mid) who r.target) =
        decide (Reviews setup w who r) := by
      rw [listsIn_alike alike, Bool.eq_iff_iff, decide_eq_true_eq]
      exact any_isReviewer_iff
    simp only [others, reviews_alike alike, List.filter_cons, shown]

/-- The reviewer's own are looked up among the oldest pending requests. -/
theorem perform_listReviewable (setup : Setup) (w : World) (who : Identity) {limit : Nat}
    (positive : 0 < limit) (listed : w.Undisturbed .listPending)
    (routes : w.Undisturbed .groupAttributes) :
    ∃ left, Alike w left ∧ (listReviewable who limit).perform setup w =
      (.ok ((w.requests.pending (min limit listingBound)).filter (Reviews setup w who ·)),
        left) := by
  have ends : Ends setup w (listReviewable who limit) (fun shown left => Alike w left ∧
      shown = (w.requests.pending (min limit listingBound)).filter (Reviews setup w who ·))
      fun _ _ => False := by
    refine ends_refuse (fun zero => absurd zero (Nat.ne_of_gt positive)) fun _ => ?_
    rw [ends_bind]
    refine ends_listPending (fun mid alike => ?_) fun e left fails => absurd fails listed.not_fail
    refine (ends_reviewable (routes.rest alike.leftOver) _).mono (fun shown left h => ?_)
      fun _ _ h => h
    obtain ⟨alike', shown⟩ := h
    simp only [reviews_alike alike] at shown
    exact ⟨alike.trans alike', shown⟩
  obtain ⟨_, left, run, alike, rfl⟩ := ends.ok
  exact ⟨left, alike, run⟩

/-- A reviewer is shown, oldest first, the pending requests that the reviewer decides and that have
fewer than `limit` pending requests of whatever kind before them. -/
theorem listReviewable_shows (setup : Setup) (w : World) (who : Identity) {limit : Nat}
    (positive : 0 < limit) (listed : w.Undisturbed .listPending)
    (routes : w.Undisturbed .groupAttributes) :
    ∃ shown left, (listReviewable who limit).perform setup w = (.ok shown, left) ∧ Alike w left ∧
      shown.Pairwise MadeBefore ∧
      ∀ r, r ∈ shown ↔ ((r ∈ w.requests.all ∧ r.status = .pending) ∧ Reviews setup w who r) ∧
        w.requests.pendingBefore r < min limit listingBound := by
  obtain ⟨left, alike, run⟩ := perform_listReviewable setup w who positive listed routes
  refine ⟨_, left, run, alike, ?_, fun r => ?_⟩
  · exact List.Pairwise.filter _ (List.Pairwise.take w.requests.pairwise_queue)
  · rw [List.mem_filter, RequestStore.mem_pending_iff, decide_eq_true_eq, and_right_comm]

end Service

/-! ## A request out of sight -/

def World.withTeams : World :=
  { World.withOps with
    directory := World.withOps.directory.putAttributes "eng" ⟨["boss"], [], false, true⟩ }

def Submission.forEng : Submission := ⟨.group "eng", "reviews", none⟩

def Request.forEng : Request :=
  Service.newRequest (World.numberedId 2) (.of "alice" []) .forEng World.withTeams.now

/-- A request waits for `lead`, and a later one for `boss`. -/
def World.withBacklog : World :=
  (RequestCall.submit (.of "alice" []) .forEng).after default
    ((RequestCall.submit (.of "alice" []) .forOps).after default .withTeams)

theorem World.withBacklog_reached :
    Run World.RequestsStay World.Candid World.withTeams World.withBacklog :=
  .call (.call .start (World.candid_of_unplanned rfl) _ _) (World.candid_of_unplanned rfl) _ _

namespace Service

theorem boss_is_shown_one_of_two :
    ∃ shown left,
      (listReviewable (.of "boss" []) 2).perform default .withBacklog = (.ok shown, left) ∧
      Request.forEng ∈ shown ∧ Request.forOps ∉ shown := by
  have calm (kind : CallKind) : World.withBacklog.Undisturbed kind :=
    World.undisturbed_of_unplanned rfl kind
  obtain ⟨shown, left, run, -, -, mem⟩ := listReviewable_shows default .withBacklog (.of "boss" [])
    (by decide : 0 < 2) (calm _) (calm _)
  refine ⟨shown, left, run, (mem _).2 (by decide +kernel), fun here => ?_⟩
  exact absurd ((mem _).1 here) (by decide +kernel)

/-- The older request of somebody else hides the one that `boss` may decide. -/
theorem boss_is_shown_nothing :
    Run World.RequestsStay World.Candid World.withTeams World.withBacklog ∧
      (Request.forEng ∈ World.withBacklog.requests.all ∧ Request.forEng.status = .pending) ∧
      Reviews default .withBacklog (.of "boss" []) .forEng ∧
      ((listReviewable (.of "boss" []) 1).perform default .withBacklog).1 = .ok [] := by
  have foreign : ∀ r ∈ World.withBacklog.requests.all,
      World.withBacklog.requests.pendingBefore r < 1 →
      ¬ Reviews default .withBacklog (.of "boss" []) r := by decide +kernel
  refine ⟨World.withBacklog_reached, by decide +kernel, by decide +kernel, ?_⟩
  obtain ⟨left, -, run⟩ := perform_listReviewable default .withBacklog (.of "boss" []) Nat.one_pos
    (World.undisturbed_of_unplanned rfl _) (World.undisturbed_of_unplanned rfl _)
  rw [run]
  refine congrArg Except.ok (List.filter_eq_nil_iff.2 fun r here => ?_)
  obtain ⟨⟨stored, -⟩, oldest⟩ := RequestStore.mem_pending_iff.1 here
  simpa using foreign r stored oldest

end Service

end AccessBroker
