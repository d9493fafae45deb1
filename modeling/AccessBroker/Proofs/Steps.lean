import AccessBroker.Broker.Review
import AccessBroker.Broker.Submission
import AccessBroker.Proofs.RoleChanges

/-! # The steps of handling a request

One rule for each step that the operations on requests are made of: finding the
request and its route, putting a membership into effect or ending it, storing
the request and telling of it.
-/

namespace AccessBroker

/-- Only where there is no such group is adding a member denied, and it changes nothing. -/
theorem Directory.addMember_denied {d : Directory} {group user reason : String}
    (h : (d.addMember group user).1 = .denied reason) :
    d.attributes? group = none ∧ (d.addMember group user).2 = d := by
  unfold addMember at h ⊢
  cases found : d.group? group with
  | none => simp [attributes?, found]
  | some g =>
    simp only [found] at h
    split at h <;> cases h

/-- Whoever is not denied joins a group that there is. -/
theorem Directory.known_of_addMember {d : Directory} {group user : String}
    (h : ∀ reason, (d.addMember group user).1 ≠ .denied reason) : d.attributes? group ≠ none := by
  intro unknown
  have absent : d.group? group = none := Option.map_eq_none_iff.1 unknown
  have denied : (d.addMember group user).1 = .denied s!"group '{group}' does not exist" := by
    simp only [addMember, absent]
  exact h _ denied

theorem Directory.removeMember_not_denied (d : Directory) (group user reason : String) :
    (d.removeMember group user).1 ≠ .denied reason := by
  unfold removeMember
  split
  · simp
  · split <;> simp

def RequestStore.NonePending (s : RequestStore) (requester key : String) : Prop :=
  ∀ r ∈ s.all, isPendingFor requester key r = false

theorem RequestStore.findPending?_eq_none_iff {s : RequestStore} {requester key : String} :
    s.findPending? requester key = none ↔ s.NonePending requester key := by
  simp [findPending?, NonePending, List.find?_eq_none]

/-- In this cache nothing is remembered of a user any more, if it could be reached. -/
def World.Forgot (w : World) (user : String) (eligible : EligibleCache) : Prop :=
  w.Undisturbed .invalidateUser → eligible = w.eligible.invalidate user

/-- Whatever else was done before the user was forgotten does not matter. -/
theorem World.Forgot.before {w mid : World} {user : String} {eligible : EligibleCache}
    (forgot : mid.Forgot user eligible) (rest : LeftOver mid.plan w.plan)
    (same : mid.eligible = w.eligible) : w.Forgot user eligible := by
  intro calm
  rw [← same]
  exact forgot (calm.rest rest)

namespace Service

open World (Alike AlikeButRoles)

variable {setup : Setup} {w : World} {bad : Error → World → Prop}

/-- The route of a target in a world, unless its group is not in the directory. -/
def routeIn (setup : Setup) (w : World) : Target → Option Route
  | .group name => (w.directory.attributes? name).map (groupRoute (listsIn setup w))
  | .policy .. => some (policyRoute (listsIn setup w))

theorem listsIn_alike {left : World} (h : Alike w left) : listsIn setup left = listsIn setup w := by
  rw [listsIn, listsIn, h.published]

theorem routeIn_alike {left : World} (h : Alike w left) (target : Target) :
    routeIn setup left target = routeIn setup w target := by
  cases target <;> simp only [routeIn, listsIn_alike h, h.directory]

/-! ## Finding -/

@[simp] theorem ends_allowLists {good : AllowLists → World → Prop} :
    Ends setup w allowLists good bad ↔ good (listsIn setup w) w := Iff.rfl

theorem ends_requireRequest {id : String} {good : Request → World → Prop}
    (found : ∀ r left, w.requests.find? id = some r → Alike w left → good r left)
    (failed : ∀ e left, Alike w left → bad e left) : Ends setup w (requireRequest id) good bad := by
  simp only [requireRequest, ends_bind]
  refine ends_findRequest (fun left alike => ?_) fun e left _ alike => failed e left alike
  split
  · next r h => exact found r left h alike
  · exact failed _ left alike

theorem ends_approvalRoute {target : Target} {good : Route → World → Prop}
    (found : ∀ route left, routeIn setup w target = some route → Alike w left → good route left)
    (failed : ∀ e left,
      w.effect .groupAttributes = .fail e ∨ routeIn setup w target = none ∧ e.kind = .notFound →
      Alike w left → bad e left) : Ends setup w (approvalRoute target) good bad := by
  simp only [approvalRoute, ends_bind, ends_allowLists]
  cases target with
  | policy account arn change => exact found _ w rfl (.refl w)
  | group name =>
    simp only [ends_bind, ends_pure, groupAttributes]
    refine ends_groupAttributes? (fun left alike => ?_) fun e left fails alike =>
      failed e left (.inl fails) alike
    cases h : w.directory.attributes? name with
    | none => exact failed _ left (.inr ⟨by simp [routeIn, h], rfl⟩) alike
    | some a => exact found _ left (by simp [routeIn, h]) alike

theorem ensureAllowed_eq_ok {allowed : Bool} {who : Identity} {r : Request} {action : String}
    {u : Unit} (h : ensureAllowed allowed who r action = .ok u) : allowed = true := by
  cases allowed
  · simp [ensureAllowed] at h
  · rfl

theorem ends_requireCapability {who : Identity} {c : Capability} {restricted : Bool}
    {good : Unit → World → Prop}
    (passed : (listsIn setup w).permits who c restricted = true → good () w)
    (refused : ∀ e, (listsIn setup w).permits who c restricted = false → bad e w) :
    Ends setup w (requireCapability who c restricted) good bad := by
  simp only [requireCapability, hasCapability, ends_bind, ends_allowLists, ends_pure]
  split
  · next h => exact refused _ (by simpa using h)
  · next h => exact passed (by simpa using h)

/-! ## Telling and storing -/

theorem ends_announce {r : Request} {previous : Option Status} {good : Unit → World → Prop}
    (told : ∀ left, Alike w left → good () left) : Ends setup w (announce r previous) good bad := by
  simp only [announce, ends_quietly]
  exact ends_notify (fun left alike => told left alike) fun e left _ alike => told left alike

theorem ends_invalidateUser {user : String} {good : Unit → World → Prop}
    (done : ∀ eligible left, w.Forgot user eligible → Alike { w with eligible := eligible } left →
      good () left) :
    Ends setup w (invalidateUser user) good bad := by
  simp only [invalidateUser, ends_quietly]
  exact ends_invalidateEligible (fun left alike => done _ left (fun _ => rfl) alike)
    fun e left fails alike => done w.eligible left (fun calm => absurd fails calm.not_fail) alike

theorem ends_recordStatus {r : Request} {status : Status} {actor : String}
    {comments : Option String} {good : Request → World → Prop}
    (recorded : ∀ left,
      Alike { w with requests := w.requests.put (moved r status actor w.now comments) } left →
      good (moved r status actor w.now comments) left)
    (failed : ∀ e left, ¬ w.Undisturbed .saveRequest ∨ w.requests.find? r.id = none →
      Alike w left → bad e left) :
    Ends setup w (recordStatus r status actor comments) good bad := by
  simp only [recordStatus, ends_bind, ends_now, ends_pure]
  exact ends_saveRequest (fun left alike => recorded left alike) failed

/-! ## Memberships -/

/-- The requester joins a group that is not restricted, or the directory stays as it is. -/
theorem ends_join {r : Request} {route : Route} {group : String} {good : Unit → World → Prop}
    (joined : ∀ left, route.restricted = false → w.directory.attributes? group ≠ none →
      Alike { w with directory := (w.directory.addMember group r.requester).2 } left → good () left)
    (failed : ∀ e left,
      ¬ w.Undisturbed .addMember ∨ route.restricted = true ∨ w.directory.attributes? group = none →
      Alike w left → bad e left) :
    Ends setup w (join r route group) good bad := by
  unfold join
  refine ends_refuse (fun restricted => failed _ w (.inr (.inl restricted)) (.refl w)) fun open_ => ?_
  rw [ends_bind]
  refine ends_addMember (fun left alike => ?_) (fun reason left denies alike => ?_)
    fun e left fails alike => failed e left (.inl fun calm => calm.not_fail fails) alike
  · have unrestricted : route.restricted = false := by simpa using open_
    split
    · next added =>
      have known := Directory.known_of_addMember fun reason denied =>
        nomatch added.symm.trans denied
      exact joined left unrestricted known alike
    · next already =>
      have known := Directory.known_of_addMember fun reason denied =>
        nomatch already.symm.trans denied
      exact joined left unrestricted known alike
    · next reason denied =>
      obtain ⟨unknown, same⟩ := Directory.addMember_denied denied
      rw [same] at alike
      exact failed _ left (.inr (.inr unknown)) alike
  · refine failed _ left (.inl fun calm => ?_) alike
    rw [calm.effect] at denies
    cases denies

/-- The requester leaves the group of the request, or the directory stays as it is. -/
theorem ends_leave {r : Request} {good : Unit → World → Prop}
    (gone : ∀ group eligible left, r.target = .group group → w.Forgot r.requester eligible →
      Alike { w with
        directory := (w.directory.removeMember group r.requester).2, eligible := eligible } left →
      good () left)
    (failed : ∀ e left, (∀ group, r.target ≠ .group group) ∨ w.effect .removeMember ≠ .pass →
      Alike w left → bad e left) : Ends setup w (leave r) good bad := by
  unfold leave
  cases target : r.target with
  | policy account arn change => exact failed _ w (.inl (by simp [target])) (.refl w)
  | group group =>
    simp only [ends_bind]
    refine ends_removeMember (fun left alike => ?_) (fun reason left deny alike => ?_)
      fun e left fails alike => failed e left (.inr (by simp [fails])) alike
    · have invalidate : Ends setup left (invalidateUser r.requester) good bad :=
        ends_invalidateUser fun eligible after forgot alike' =>
          gone group eligible after target (forgot.before alike.leftOver alike.eligible)
            ((alike.setEligible eligible).trans alike')
      split
      · exact invalidate
      · exact invalidate
      · next reason denied => exact (Directory.removeMember_not_denied _ _ _ _ denied).elim
    · exact failed _ left (.inr (by simp [deny])) alike

/-! ## Putting a request into effect -/

/-- What is noted of some role before a change. -/
def Notes (change : PolicyChange) (snapshot : Json) : Prop :=
  ∃ role, snapshot = snapshotOf role change

/-- A role of the cloud took a change, and how its policy was before is noted. -/
structure ChangeMade (setup : Setup) (w : World) (key : RoleKey) (change : PolicyChange)
    (snapshot : Json) (before after : RoleDocument) (left : World) : Prop where
  describes : before.ensureDescribes key = .ok ()
  noted : snapshot = snapshotOf (finalize setup.settings w.now before) change
  cloud : Cloud.Took key change w.cloud left.cloud before after

/-- A change is noted and made, or the role cannot be read. -/
theorem ends_applyChange {r : Request} {key : RoleKey} {change : PolicyChange}
    {good : Request → World → Prop}
    (applied : ∀ snapshot left, Notes change snapshot →
      AlikeButRoles { w with requests := w.requests.put { r with snapshot := some snapshot } } left →
      (w.AllAnswer setup →
        ∃ before after, ChangeMade setup w key change snapshot before after left) →
      good { r with snapshot := some snapshot } left)
    (prepared : ∀ e snapshot left, Notes change snapshot → ¬ w.AllAnswer setup →
      AlikeButRoles { w with requests := w.requests.put { r with snapshot := some snapshot } } left →
      bad e left)
    (unsaved : ∀ e left, ¬ w.AllAnswer setup ∨ w.requests.find? r.id = none →
      AlikeButRoles w left → bad e left)
    (unread : ∀ e left, Alike w left → bad e left) :
    Ends setup w (applyChange r key change) good bad := by
  unfold applyChange
  rw [ends_bind]
  refine ends_reread (fun role read alike cloud known => ?_)
    (fun left _ alike => unread _ left alike) fun e left _ alike => unread e left alike
  simp only [ends_bind]
  refine ends_saveRequest (fun saved alike' => ?_) fun e left why alike' => ?_
  · rw [alike.requests] at alike'
    have noted := (alike.setRequests _).trans (.of_alike alike')
    have still : saved.cloud = w.cloud := alike'.cloud.trans cloud
    split
    · next lacks =>
      rw [ends_bind]
      refine ends_changeRole (fun changed left allowed alike'' => ?_) fun e left why alike'' => ?_
      · refine applied _ left ⟨role, rfl⟩ (noted.trans ⟨changed, saved.fast, saved.durable, alike''⟩)
          fun answers => ?_
        obtain ⟨before, rfl, reread⟩ := known answers
        have lacks : ¬ before.Carries change := by
          rw [← carries_finalize, ← isApplied_iff]
          simpa using lacks
        rw [still] at allowed
        obtain ⟨after, took⟩ := Cloud.took_of_makeChange reread.held lacks allowed
        exact ⟨before, after, reread.describes, rfl, by rw [alike''.cloud]; exact took⟩
      · refine prepared e _ left ⟨role, rfl⟩ (fun answers => ?_) (noted.trans (.of_alike alike''))
        obtain ⟨before, -, reread⟩ := known answers
        rcases why with disturbed | unknown
        · exact disturbed (answers.rest noted.leftOver)
        · rw [still, reread.held] at unknown
          cases unknown
    · next has =>
      refine applied _ saved ⟨role, rfl⟩ noted fun answers => ?_
      obtain ⟨before, rfl, reread⟩ := known answers
      have carries : before.Carries change := by
        rw [← carries_finalize, ← isApplied_iff]
        simpa using has
      refine ⟨before, before, reread.describes, rfl, ?_⟩
      rw [still]
      exact .of_carries reread.held carries
  · rw [alike.requests] at why
    refine unsaved e left (why.imp_left fun disturbed calm => ?_) (alike.trans (.of_alike alike'))
    exact disturbed ((calm.undisturbed _).rest alike.leftOver)

/-- The requester of a group joins it, and the request is stored as approved. -/
theorem ends_approve_group {r : Request} {route : Route} {group actor : String}
    {comments : Option String} {good : Request → World → Prop} (target : r.target = .group group)
    (approved : ∀ eligible left, route.restricted = false → w.directory.attributes? group ≠ none →
      w.Forgot r.requester eligible →
      Alike { w with
        directory := (w.directory.addMember group r.requester).2
        requests := w.requests.put (moved r .approved actor w.now comments)
        eligible := eligible } left →
      good (moved r .approved actor w.now comments) left)
    (unsaved : ∀ e left, ¬ w.Undisturbed .saveRequest ∨ w.requests.find? r.id = none →
      Alike { w with directory := (w.directory.addMember group r.requester).2 } left → bad e left)
    (failed : ∀ e left,
      ¬ w.Undisturbed .addMember ∨ route.restricted = true ∨ w.directory.attributes? group = none →
      Alike w left → bad e left) :
    Ends setup w (approve r route actor comments) good bad := by
  unfold approve
  simp only [target, ends_bind, ends_pure]
  refine ends_join (fun joined unrestricted known alike => ?_) failed
  have now : joined.now = w.now := alike.now
  refine ends_recordStatus (fun recorded alike' => ?_) fun e left why alike' => ?_
  · rw [alike.requests, now] at alike'
    have done := (alike.setRequests _).trans alike'
    refine ends_invalidateUser fun eligible left forgot alike'' => ?_
    rw [now]
    exact approved eligible left unrestricted known (forgot.before done.leftOver done.eligible)
      ((done.setEligible eligible).trans alike'')
  · rw [alike.requests] at why
    refine unsaved e left (why.imp_left fun disturbed calm => ?_) (alike.trans alike')
    exact disturbed (calm.rest alike.leftOver)

/-- A role took a change that was noted before, and both tiers hold it as it is now. -/
structure ChangeShown (setup : Setup) (w : World) (key : RoleKey) (change : PolicyChange)
    (snapshot : Json) (before after : RoleDocument) (left : World) : Prop where
  made : ChangeMade setup w key change snapshot before after left
  fast : left.fast.get? key = some ⟨finalize setup.settings w.now after, w.now⟩
  durable : left.durable.find? key =
    some (durableRow setup.settings key (finalize setup.settings w.now after))

/-- The role that took a change can be read again, and is then in both tiers. -/
theorem ends_reread_changed {mid : World} {key : RoleKey} {change : PolicyChange} {snapshot : Json}
    {good : World → Prop} (now : mid.now = w.now)
    (changed : w.AllAnswer setup → mid.AllAnswer setup ∧
      ∃ before after, ChangeMade setup w key change snapshot before after mid)
    (shown : ∀ left, AlikeButRoles mid left → (w.AllAnswer setup →
      ∃ before after, ChangeShown setup w key change snapshot before after left) → good left) :
    Ends setup mid (fetchRole key true) (fun _ => good) fun _ => good := by
  refine ends_reread (fun _ left alike cloud known => shown left alike fun answers => ?_)
    (fun left unknown alike => shown left (.of_alike alike) fun answers => ?_)
    fun e left why alike => shown left (.of_alike alike) fun answers => ?_
  all_goals obtain ⟨answers, before, after, made⟩ := changed answers
  · obtain ⟨d, -, reread⟩ := known answers
    cases made.cloud.is.symm.trans reread.held
    refine ⟨before, after, ⟨made.describes, made.noted, ?_⟩, ?_, ?_⟩
    · rw [cloud]
      exact made.cloud
    · rw [← now]
      exact reread.fast
    · rw [← now]
      exact reread.durable
  · cases made.cloud.is.symm.trans (unknown (answers.undisturbed _))
  · obtain ⟨d, held, differs⟩ := why answers
    cases made.cloud.is.symm.trans held
    rw [made.cloud.role.ensureDescribes] at differs
    exact absurd made.describes differs

/-- The change of a policy is made and the request stored as approved. -/
theorem ends_approve_policy {r : Request} {route : Route} {account arn actor : String}
    {change : PolicyChange} {comments : Option String} {good : Request → World → Prop}
    (target : r.target = .policy account arn change)
    (approved : ∀ key snapshot left, RoleKey.of account arn = .ok key → Notes change snapshot →
      AlikeButRoles { w with
        requests := w.requests.put
          (moved { r with snapshot := some snapshot } .approved actor w.now comments) } left →
      (w.AllAnswer setup →
        ∃ before after, ChangeShown setup w key change snapshot before after left) →
      good (moved { r with snapshot := some snapshot } .approved actor w.now comments) left)
    (prepared : ∀ e snapshot left, Notes change snapshot → ¬ w.AllAnswer setup →
      AlikeButRoles { w with requests := w.requests.put { r with snapshot := some snapshot } } left →
      bad e left)
    (unsaved : ∀ e left, ¬ w.AllAnswer setup ∨ w.requests.find? r.id = none →
      AlikeButRoles w left → bad e left)
    (unread : ∀ e left, Alike w left → bad e left) :
    Ends setup w (approve r route actor comments) good bad := by
  unfold approve
  simp only [target, ends_bind, ends_pure, ends_lift, ends_quietly, ends_discard]
  refine ⟨fun key own => ?_, fun e _ => unread e w (.refl w)⟩
  refine ends_applyChange (fun snapshot noted notes alike made => ?_) prepared unsaved unread
  have now : noted.now = w.now := alike.now
  refine ends_recordStatus (fun recorded alike' => ?_) fun e left why alike' => ?_
  · have replaced : noted.requests.put
          (moved { r with snapshot := some snapshot } .approved actor noted.now comments) =
        w.requests.put
          (moved { r with snapshot := some snapshot } .approved actor w.now comments) := by
      rw [alike.requests, now]
      exact RequestStore.put_put _ rfl
    rw [replaced] at alike'
    have done := (alike.setRequests _).trans (.of_alike alike')
    have changed (answers : w.AllAnswer setup) : recorded.AllAnswer setup ∧
        ∃ before after, ChangeMade setup w key change snapshot before after recorded := by
      obtain ⟨before, after, describes, same, cloud⟩ := made answers
      refine ⟨answers.rest done.leftOver, before, after, describes, same, ?_⟩
      rw [alike'.cloud]
      exact cloud
    have still : recorded.now = w.now := done.now
    rw [now]
    exact ends_reread_changed still changed fun left alike'' shown =>
      approved key snapshot left own notes (done.trans alike'') shown
  · refine prepared e snapshot left notes (fun calm => ?_) (alike.trans (.of_alike alike'))
    rcases why with disturbed | unknown
    · exact disturbed ((calm.undisturbed _).rest alike.leftOver)
    · rw [alike.requests, RequestStore.find?_put, if_pos rfl] at unknown
      cases unknown

/-- Approval stores the request as approved, or gives up with at most the policy noted. -/
theorem ends_approve {r : Request} {route : Route} {actor : String} {comments : Option String}
    {good : Request → World → Prop}
    (approved : ∀ snapshot left, (snapshot = r.snapshot ∨ ∀ group, r.target ≠ .group group) →
      (∀ group, r.target = .group group → route.restricted = false) →
      left.requests = w.requests.put
        (moved { r with snapshot := snapshot } .approved actor w.now comments) →
      good (moved { r with snapshot := snapshot } .approved actor w.now comments) left)
    (prepared : ∀ e snapshot left, (∀ group, r.target ≠ .group group) →
      left.requests = w.requests.put { r with snapshot := some snapshot } → bad e left)
    (failed : ∀ e left, left.requests = w.requests → bad e left) :
    Ends setup w (approve r route actor comments) good bad := by
  cases target : r.target with
  | group group =>
    refine ends_approve_group target (fun eligible left unrestricted _ _ alike => ?_)
      (fun e left _ alike => failed e left alike.requests)
      fun e left _ alike => failed e left alike.requests
    exact approved r.snapshot left (.inl rfl) (fun _ _ => unrestricted) alike.requests
  | policy account arn change =>
    have policy : ∀ group, r.target ≠ .group group := by simp [target]
    refine ends_approve_policy target (fun _ snapshot left _ _ alike _ => ?_)
      (fun e snapshot left _ _ alike => prepared e snapshot left policy alike.requests)
      (fun e left _ alike => failed e left alike.requests)
      fun e left alike => failed e left alike.requests
    exact approved (some snapshot) left (.inr policy) (fun group h => absurd h (policy group))
      alike.requests

/-! ## Looking for pending requests -/

theorem ends_ensureNonePending {requester : String} {target : Target}
    {good : Unit → World → Prop} (passed : ∀ left, Alike w left → good () left)
    (failed : ∀ e left,
      ¬ w.Undisturbed .findPending ∨ ¬ w.requests.NonePending requester target.key →
      Alike w left → bad e left) :
    Ends setup w (ensureNonePending requester target) good bad := by
  simp only [ensureNonePending, ends_bind]
  refine ends_findPending (fun answer left alike honest => ?_) fun e left fails alike =>
    failed e left (.inl fun calm => calm.not_fail fails) alike
  split
  · next other =>
    by_cases seen : w.Undisturbed .findPending
    · refine failed _ left (.inr fun free => ?_) alike
      have found := honest (by simp [seen.effect])
      rw [RequestStore.findPending?_eq_none_iff.2 free] at found
      cases found
    · exact failed _ left (.inl seen) alike
  · exact passed left alike

/-- Nobody else's request stands in the way of one that is not pending itself. -/
theorem ends_ensureNoOtherPending {r : Request} {good : Unit → World → Prop}
    (passed : ∀ left, Alike w left →
      ((∀ other, w.requests.find? r.id = some other →
          RequestStore.isPendingFor r.requester r.target.key other = false) →
        w.Candid → w.requests.NonePending r.requester r.target.key) → good () left)
    (failed : ∀ e left, Alike w left → bad e left) :
    Ends setup w (ensureNoOtherPending r) good bad := by
  simp only [ensureNoOtherPending, ends_bind]
  refine ends_findPending (fun answer left alike honest => ?_) fun e left _ alike =>
    failed e left alike
  split
  · next other =>
    split
    · exact failed _ left alike
    · next same =>
      refine passed left alike fun stored candid => ?_
      -- The answer would be the stored `r`, which is not pending for its own key.
      have found := (honest candid.effect).symm
      have pending := List.find?_some found
      have here := RequestStore.mem_all_iff.1 (List.mem_of_find?_eq_some found)
      rw [Decidable.not_not.1 same] at here
      rw [stored other here] at pending
      cases pending
  · exact passed left alike fun _ candid =>
      RequestStore.findPending?_eq_none_iff.1 (honest candid.effect).symm

theorem ends_reopen {who : Identity} {r : Request} {comments : Option String}
    {good : Request → World → Prop} (stored : w.requests.find? r.id = some r)
    (closed : r.status ≠ .pending)
    (reopened : ∀ left, r.isReopenable w.now setup.settings.reopenWindow = true →
      (w.Candid → w.requests.NonePending r.requester r.target.key) →
      Alike { w with requests := w.requests.put (moved r .pending who.user w.now comments) } left →
      good (moved r .pending who.user w.now comments) left)
    (failed : ∀ e left, Alike w left → bad e left) :
    Ends setup w (reopen who r comments) good bad := by
  simp only [reopen, ends_bind, ends_settings, ends_now]
  refine ends_refuse (fun _ => failed _ w (.refl w)) fun young => ?_
  rw [ends_bind]
  refine ends_ensureNoOtherPending (fun checked alike free => ?_) failed
  have now : checked.now = w.now := alike.now
  refine ends_recordStatus (fun left alike' => ?_) fun e left _ alike' =>
    failed e left (alike.trans alike')
  rw [alike.requests, now] at alike'
  rw [now]
  refine reopened left (by simpa using young) (free fun other here => ?_)
    ((alike.setRequests _).trans alike')
  rw [stored, Option.some.injEq] at here
  simp [← here, RequestStore.isPendingFor, closed]

end Service

end AccessBroker
