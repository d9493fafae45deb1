import AccessBroker.Proofs.ReviewQueue

/-! # What a user is shown of the own requests

Which requests a user made is noted apart from the requests, in a step of its
own.  The notes and the requests agree as long as the store answers, whatever
else fails on the way, so a user is shown all of the own requests and no other.
-/

namespace AccessBroker

namespace RequestStore

/-- For each user, the requests that the user made are noted and no others, each of them once. -/
structure Indexed (s : RequestStore) : Prop where
  noted : ∀ user id, id ∈ s.idsOf user ↔ ∃ r, s.find? id = some r ∧ r.requester = user
  once : ∀ user, (s.idsOf user).Nodup

variable {s : RequestStore} {r changed : Request}

theorem idsOf_put (s : RequestStore) (r : Request) (user : String) :
    (s.put r).idsOf user = s.idsOf user := rfl

theorem idsOf_append (s : RequestStore) (user id other : String) :
    (s.append user id).idsOf other =
      if other = user then s.idsOf user ++ [id] else s.idsOf other := by
  simp only [idsOf, append, Registry.get?_insert]
  by_cases same : other = user
  · simp [same]
  · simp [same]

theorem indexed_empty : empty.Indexed where
  noted user id := by simp [idsOf, find?, empty, Registry.empty, Registry.get?]
  once user := by simp [idsOf, empty, Registry.empty, Registry.get?]

/-- What becomes of a request does not change who made it. -/
theorem Indexed.put (h : s.Indexed) (stored : s.find? changed.id = some r)
    (requester : changed.requester = r.requester) : (s.put changed).Indexed where
  noted user id := by
    rw [idsOf_put, h.noted, find?_put]
    by_cases same : id = changed.id
    · simp [same, stored, requester]
    · simp [same]
  once user := h.once user

/-- A request with a new id is stored and noted for whoever made it. -/
theorem Indexed.create (h : s.Indexed) (fresh : s.find? r.id = none) :
    ((s.put r).append r.requester r.id).Indexed where
  noted user id := by
    rw [idsOf_append, find?_append, find?_put, idsOf_put, idsOf_put]
    by_cases mine : user = r.requester
    · subst mine
      by_cases new : id = r.id
      · simp [new]
      · simp [new, h.noted]
    · by_cases new : id = r.id
      · subst new
        simp [mine, h.noted, fresh, Ne.symm mine]
      · simp [mine, new, h.noted]
  once user := by
    have unnoted : r.id ∉ s.idsOf r.requester := by
      simp [h.noted, fresh]
    rw [idsOf_append, idsOf_put, idsOf_put]
    by_cases mine : user = r.requester
    · rw [if_pos mine]
      apply List.nodup_append.2
      refine ⟨h.once _, by simp, ?_⟩
      intro id noted new isNew
      rw [List.mem_singleton.1 isNew]
      rintro rfl
      exact unnoted noted
    · rw [if_neg mine]
      exact h.once user

/-- The requests noted for a user, newest first. -/
def madeBy (s : RequestStore) (user : String) : List Request :=
  (s.findAll (s.idsOf user).reverse).mergeSort Service.newerFirst

theorem mem_madeBy_iff (h : s.Indexed) {user : String} :
    r ∈ s.madeBy user ↔ r ∈ s.all ∧ r.requester = user := by
  simp only [madeBy, findAll, List.mem_mergeSort, List.mem_filterMap, List.mem_reverse, h.noted]
  constructor
  · rintro ⟨id, ⟨found, stored, mine⟩, here⟩
    obtain rfl : found = r := Option.some.inj (stored.symm.trans here)
    exact ⟨(find?_eq_some_iff.1 here).1, mine⟩
  · rintro ⟨here, mine⟩
    have stored := mem_all_iff.1 here
    exact ⟨r.id, ⟨r, stored, mine⟩, stored⟩

/-- Different ids find requests with different ids. -/
theorem ids_findAll_nodup (s : RequestStore) {ids : List String} (once : ids.Nodup) :
    ((s.findAll ids).map Request.id).Nodup := by
  have own (id : String) (r : Request) (found : s.find? id = some r) : r.id = id :=
    (find?_eq_some_iff.1 found).2
  rw [List.Nodup, List.pairwise_map]
  apply List.Pairwise.filterMap s.find? _ once
  intro a b differ r here r' there same
  rw [own a r here, own b r' there] at same
  exact differ same

theorem newerFirst_eq (a b : Request) :
    Service.newerFirst a b = sortsFirst Request.requestTime b a := by
  have same : (a.requestTime == b.requestTime) = (b.requestTime == a.requestTime) :=
    Bool.beq_comm
  rw [Service.newerFirst, sortsFirst, same]

theorem pairwise_madeBy (h : s.Indexed) (user : String) :
    (s.madeBy user).Pairwise fun a b => MadeBefore b a := by
  have sorted : (s.madeBy user).Pairwise fun a b => Service.newerFirst a b = true := by
    apply List.pairwise_mergeSort
    · intro a b c hab hbc
      rw [newerFirst_eq] at hab hbc ⊢
      exact sortsFirst_trans c b a hbc hab
    · intro a b
      rw [newerFirst_eq, newerFirst_eq]
      exact sortsFirst_total b a
  have differ : ((s.madeBy user).map Request.id).Nodup := by
    have found := s.ids_findAll_nodup ((List.reverse_perm _).nodup_iff.2 (h.once user))
    exact ((List.mergeSort_perm _ _).map _).nodup_iff.2 found
  apply (sorted.and (List.pairwise_map.1 differ)).imp
  intro a b ⟨newer, other⟩
  rw [newerFirst_eq] at newer
  exact .of_sortsFirst newer (Ne.symm other)

end RequestStore

structure World.StoresRequests (w : World) : Prop where
  saves : w.Undisturbed .saveRequest
  notes : w.Undisturbed .appendUser

namespace Service

open World (Alike)
open RequestStore (MadeBefore)

variable {setup : Setup} {w left : World} {r : Request}

/-! ## What every call keeps -/

theorem Failed.indexed (h : Failed setup w r left) (saves : w.Undisturbed .saveRequest)
    (stored : w.requests.find? r.id = some r) (indexed : w.requests.Indexed) :
    left.requests.Indexed := by
  rcases h.requests saves with same | ⟨snapshot, noted⟩
  · rw [same]
    exact indexed
  · rw [noted]
    exact indexed.put stored rfl

theorem Approved.indexed {actor : String} {comments : Option String} {answer : Request}
    (done : Approved setup w r actor comments answer left)
    (stored : w.requests.find? r.id = some r) (indexed : w.requests.Indexed) :
    left.requests.Indexed := by
  obtain ⟨saved, same⟩ := done.requests
  rw [saved]
  exact indexed.put (same ▸ stored) done.requester

theorem Reviewed.indexed {who : Identity} {v : Verdict} {answer : Request}
    (done : Reviewed setup w who r v answer left) (stored : w.requests.find? r.id = some r)
    (indexed : w.requests.Indexed) : left.requests.Indexed := by
  obtain ⟨saved, same⟩ := done.requests
  rw [saved]
  exact indexed.put (same ▸ stored) done.requester

theorem indexed_alike (alike : Alike w left) (indexed : w.requests.Indexed) :
    left.requests.Indexed := by
  rw [alike.requests]
  exact indexed

theorem indexed_updateStatus (saves : w.Undisturbed .saveRequest) (indexed : w.requests.Indexed)
    (who : Identity) (id : String) (v : Verdict) :
    Ends setup w (updateStatus who id v) (fun _ left => left.requests.Indexed)
      fun _ left => left.requests.Indexed := by
  apply ends_updateStatus
  · intro r mid answer left after _ alike stored done alike'
    exact indexed_alike alike' (done.indexed stored (indexed_alike alike indexed))
  · intro e r mid left alike stored failed
    exact failed.indexed (saves.rest alike.leftOver) stored (indexed_alike alike indexed)
  · intro e left alike
    exact indexed_alike alike indexed

theorem indexed_updateProposal (indexed : w.requests.Indexed) (who : Identity) (id : String)
    (proposed : PolicyChange) :
    Ends setup w (updateProposal who id proposed) (fun _ left => left.requests.Indexed)
      fun _ left => left.requests.Indexed := by
  apply ends_updateProposal
  · intro r target left stored _ alike
    have stored : w.requests.find? (retargeted r target who.user w.now).id = some r := stored
    rw [alike.requests]
    exact indexed.put stored rfl
  · intro e left alike
    exact indexed_alike alike indexed

/-- A request that is stored stays noted, even where its approval at once fails. -/
theorem indexed_settle {who : Identity} {route : Route} (saves : w.Undisturbed .saveRequest)
    (stored : w.requests.find? r.id = some r) (indexed : w.requests.Indexed) :
    Ends setup w (settle who r route) (fun _ left => left.requests.Indexed)
      fun _ left => left.requests.Indexed := by
  apply ends_settle stored
  · intro left alike
    exact indexed_alike alike indexed
  · intro answer mid left done alike
    exact indexed_alike alike (done.indexed stored indexed)
  · intro e left failed
    exact failed.indexed saves stored indexed

theorem indexed_submit (stores : w.StoresRequests) (indexed : w.requests.Indexed) (who : Identity)
    (s : Submission) :
    Ends setup w (submit who s) (fun _ left => left.requests.Indexed)
      fun _ left => left.requests.Indexed := by
  apply ends_submit
  · intro e drawn left _ alike
    exact indexed_alike alike indexed
  · intro route noted just
    have created : noted.requests.Indexed := by
      rw [just.appended stores.notes]
      exact indexed.create (r := nextRequest w who s) just.admitted.fresh
    exact indexed_settle (stores.saves.rest just.alike.leftOver) just.stored created

theorem indexed_expireDue (saves : w.Undisturbed .saveRequest) (indexed : w.requests.Indexed)
    (batch : Nat) :
    Ends setup w (expireDue batch) (fun _ left => left.requests.Indexed)
      fun _ left => left.requests.Indexed := by
  apply ends_expireDue saves indexed
  · intro mid left indexed alike
    exact indexed_alike alike indexed
  · intro r mid left done indexed
    obtain ⟨group, eligible, -, -, alike⟩ := done.change
    have stored : mid.requests.find? (ended w.now r).id = some r := done.stored
    rw [alike.requests]
    exact indexed.put stored rfl

end Service

/-- No call brings the notes out of step with the requests. -/
theorem RequestCall.indexed_after (setup : Setup) (w : World) (c : RequestCall)
    (stores : w.StoresRequests) (indexed : w.requests.Indexed) :
    (c.after setup w).requests.Indexed := by
  cases c with
  | submit who s => exact (Service.indexed_submit stores indexed who s).left
  | updateStatus who id v => exact (Service.indexed_updateStatus stores.saves indexed who id v).left
  | updateProposal who id proposed =>
    exact (Service.indexed_updateProposal indexed who id proposed).left
  | expireDue batch => exact (Service.indexed_expireDue stores.saves indexed batch).left

theorem Run.indexed {start w : World} (run : Run World.RequestsStay World.StoresRequests start w)
    (empty : start.requests = .empty) : w.requests.Indexed := by
  apply run.keeps (p := fun w => w.requests.Indexed)
  · rw [empty]
    exact RequestStore.indexed_empty
  · intro w moved stay indexed
    rw [stay]
    exact indexed
  · intro setup w c stores indexed
    exact c.indexed_after setup w stores indexed

/-! ## What a user is shown -/

namespace Service

open World (Alike)
open RequestStore (MadeBefore)

theorem perform_listMine (setup : Setup) (w : World) (who : Identity)
    (listed : w.Undisturbed .listUser) (found : w.Undisturbed .findRequests) :
    ∃ left, Alike w left ∧
      (listMine who).perform setup w = (.ok (w.requests.madeBy who.user), left) := by
  have ends : Ends setup w (listMine who)
      (fun mine left => Alike w left ∧ mine = w.requests.madeBy who.user) fun _ _ => False := by
    simp only [listMine, ends_bind, ends_pure]
    apply ends_listUserRequests
    · intro mid alike
      apply ends_findRequests
      · intro left alike'
        rw [alike.requests]
        exact ⟨alike.trans alike', rfl⟩
      · intro e left fails
        exact absurd fails (found.rest alike.leftOver).not_fail
    · intro e left fails
      exact absurd fails listed.not_fail
  obtain ⟨_, left, run, alike, rfl⟩ := ends.ok
  exact ⟨left, alike, run⟩

/-- Whatever calls have come and gone, a user is shown the stored requests that the user made, each
as it is stored, and no others, the newest first. -/
theorem listMine_shows_own (setup : Setup) (who : Identity) {start w : World}
    (run : Run World.RequestsStay World.StoresRequests start w)
    (empty : start.requests = .empty)
    (listed : w.Undisturbed .listUser) (found : w.Undisturbed .findRequests) :
    ∃ mine left, (listMine who).perform setup w = (.ok mine, left) ∧ Alike w left ∧
      mine.Pairwise (fun a b => MadeBefore b a) ∧
      ∀ r, r ∈ mine ↔ r ∈ w.requests.all ∧ r.requester = who.user := by
  have indexed := run.indexed empty
  obtain ⟨left, alike, answered⟩ := perform_listMine setup w who listed found
  refine ⟨_, left, answered, alike, RequestStore.pairwise_madeBy indexed who.user, ?_⟩
  intro r
  exact RequestStore.mem_madeBy_iff indexed

end Service

theorem World.withBacklog_stored :
    Run World.RequestsStay World.StoresRequests World.withTeams World.withBacklog := by
  have stores (w : World) (unplanned : w.plan = []) : w.StoresRequests :=
    ⟨World.undisturbed_of_unplanned unplanned _, World.undisturbed_of_unplanned unplanned _⟩
  exact .call (.call .start (stores _ rfl) _ _) (stores _ rfl) _ _

/-- `alice` is shown both requests, the one for `eng` before the older one. -/
theorem Service.alice_is_shown_both :
    World.withTeams.requests = .empty ∧
      ∃ mine left, (listMine (.of "alice" [])).perform default .withBacklog = (.ok mine, left) ∧
        Request.forEng ∈ mine ∧ Request.forOps ∈ mine ∧
        RequestStore.MadeBefore .forOps .forEng := by
  have calm (kind : CallKind) : World.withBacklog.Undisturbed kind :=
    World.undisturbed_of_unplanned rfl kind
  obtain ⟨mine, left, answered, -, -, mem⟩ := listMine_shows_own default (.of "alice" [])
    World.withBacklog_stored rfl (calm _) (calm _)
  refine ⟨rfl, mine, left, answered, (mem _).2 ?_, (mem _).2 ?_, ?_⟩
  · decide +kernel
  · decide +kernel
  · decide +kernel

end AccessBroker
