import AccessBroker.Proofs.Steps

/-! # What an operation comes to

An operation on a request succeeds with one of a few changes of the world, or
fails and leaves the world as it was, unless a call that it needs on the way is
disturbed.
-/

namespace AccessBroker.Service

open World (Alike AlikeButRoles)

variable {setup : Setup} {w left : World} {bad : Error → World → Prop} {r : Request}

/-! ## Reviews -/

inductive Approved (setup : Setup) (w : World) (r : Request) (actor : String)
    (comments : Option String) : Request → World → Prop where
  | joined {group : String} {eligible : EligibleCache} {left : World}
      (target : r.target = .group group) (known : w.directory.attributes? group ≠ none)
      (forgot : w.Forgot r.requester eligible)
      (alike : Alike { w with
        directory := (w.directory.addMember group r.requester).2
        requests := w.requests.put (moved r .approved actor w.now comments)
        eligible := eligible } left) :
      Approved setup w r actor comments (moved r .approved actor w.now comments) left
  | applied {account arn : String} {change : PolicyChange} {key : RoleKey} {snapshot : Json}
      {left : World} (target : r.target = .policy account arn change)
      (own : RoleKey.of account arn = .ok key)
      (alike : AlikeButRoles { w with
        requests := w.requests.put
          (moved { r with snapshot := some snapshot } .approved actor w.now comments) } left)
      (shown : w.AllAnswer setup →
        ∃ before after, ChangeShown setup w key change snapshot before after left)
      (notes : Notes change snapshot) :
      Approved setup w r actor comments
        (moved { r with snapshot := some snapshot } .approved actor w.now comments) left

theorem Approved.requests {actor : String} {comments : Option String} {answer : Request}
    (done : Approved setup w r actor comments answer left) :
    left.requests = w.requests.put answer ∧ answer.id = r.id := by
  cases done with
  | joined _ _ _ alike => exact ⟨alike.requests, rfl⟩
  | applied _ _ alike _ => exact ⟨alike.requests, rfl⟩

theorem Approved.requester {actor : String} {comments : Option String} {answer : Request}
    (done : Approved setup w r actor comments answer left) : answer.requester = r.requester := by
  cases done <;> rfl

inductive Failed (setup : Setup) (w : World) (r : Request) : World → Prop where
  | refused {left : World} (alike : Alike w left) : Failed setup w r left
  /-- What was done could not be recorded. -/
  | unsaved {left : World} (disturbed : ¬ w.Undisturbed .saveRequest)
      (unchanged : left.requests = w.requests) : Failed setup w r left
  /-- The role was read, and no more. -/
  | unnoted {left : World} (disturbed : ¬ w.AllAnswer setup) (alike : AlikeButRoles w left) :
    Failed setup w r left
  /-- The policy was noted as it was, but the request was not approved. -/
  | prepared {change : PolicyChange} {snapshot : Json} {left : World}
      (disturbed : ¬ w.AllAnswer setup)
      (alike : AlikeButRoles { w with
        requests := w.requests.put { r with snapshot := some snapshot } } left)
      (notes : Notes change snapshot) : Failed setup w r left

/-- Only disturbed calls leave an operation half done. -/
theorem Failed.alike (h : Failed setup w r left) (answers : w.AllAnswer setup) : Alike w left := by
  cases h with
  | refused alike => exact alike
  | unsaved disturbed => exact absurd (answers.undisturbed _) disturbed
  | unnoted disturbed => exact absurd answers disturbed
  | prepared disturbed => exact absurd answers disturbed

/-- If it could be saved, nothing is stored of it but the policy as it was. -/
theorem Failed.requests (h : Failed setup w r left) (calm : w.Undisturbed .saveRequest) :
    left.requests = w.requests ∨
      ∃ snapshot, left.requests = w.requests.put { r with snapshot := snapshot } := by
  cases h with
  | refused alike => exact .inl alike.requests
  | unsaved disturbed => exact absurd calm disturbed
  | unnoted _ alike => exact .inl alike.requests
  | prepared _ alike => exact .inr ⟨_, alike.requests⟩

/-- If it could be saved, all remembered roles stay. -/
theorem Failed.eligible (h : Failed setup w r left) (calm : w.Undisturbed .saveRequest) :
    left.eligible = w.eligible := by
  cases h with
  | refused alike => exact alike.eligible
  | unsaved disturbed => exact absurd calm disturbed
  | unnoted _ alike => exact alike.eligible
  | prepared _ alike => exact alike.eligible

/-- Where a request is stored, only a disturbed call keeps it from being saved. -/
theorem disturbed_of_stored {disturbed : Prop} {found : Request}
    (stored : w.requests.find? r.id = some found)
    (why : disturbed ∨ w.requests.find? r.id = none) : disturbed := by
  rcases why with disturbed | absent
  · exact disturbed
  · rw [stored] at absent
    cases absent

theorem ends_approve_stored {route : Route} {actor : String} {comments : Option String}
    (stored : w.requests.find? r.id = some r) :
    Ends setup w (approve r route actor comments) (Approved setup w r actor comments)
      fun _ => Failed setup w r := by
  cases target : r.target with
  | group group =>
    exact ends_approve_group target
      (fun eligible left _ known forgot alike => .joined target known forgot alike)
      (fun e left why alike => .unsaved (disturbed_of_stored stored why) alike.requests)
      fun e left _ alike => .refused alike
  | policy account arn change =>
    exact ends_approve_policy target
      (fun key snapshot left own notes alike shown => .applied target own alike shown notes)
      (fun e snapshot left notes disturbed alike => .prepared disturbed alike notes)
      (fun e left why alike => .unnoted (disturbed_of_stored stored why) alike)
      fun e left alike => .refused alike

/-- A verdict on a request has been carried out, and the request is answered as it is now. -/
inductive Reviewed (setup : Setup) (w : World) (who : Identity) (r : Request) (v : Verdict) :
    Request → World → Prop where
  | recorded {left : World}
      (waits : r.status = .pending ∨ r.status = .rejected ∨ r.status = .cancelled)
      (next : v.status = .pending ∨ v.status = .rejected ∨ v.status = .cancelled)
      (alike : Alike { w with
        requests := w.requests.put (moved r v.status who.user w.now v.comments) } left) :
      Reviewed setup w who r v (moved r v.status who.user w.now v.comments) left
  | approved {answer : Request} {left : World} (pending : r.status = .pending)
      (done : Approved setup w r who.user v.comments answer left) :
      Reviewed setup w who r v answer left
  | removed {group : String} {eligible : EligibleCache} {left : World}
      (approved : r.status = .approved) (target : r.target = .group group)
      (forgot : w.Forgot r.requester eligible)
      (alike : Alike { w with
        directory := (w.directory.removeMember group r.requester).2
        requests := w.requests.put (moved r .removed who.user w.now v.comments)
        eligible := eligible } left) :
      Reviewed setup w who r v (moved r .removed who.user w.now v.comments) left

/-- What is only recorded is no approval. -/
theorem ne_approved_of_recorded {status : Status}
    (next : status = .pending ∨ status = .rejected ∨ status = .cancelled) :
    status ≠ .approved := by
  rcases next with rfl | rfl | rfl <;> decide

theorem Reviewed.requests {who : Identity} {v : Verdict} {answer : Request}
    (done : Reviewed setup w who r v answer left) :
    left.requests = w.requests.put answer ∧ answer.id = r.id := by
  cases done with
  | recorded _ _ alike => exact ⟨alike.requests, rfl⟩
  | approved _ done => exact done.requests
  | removed _ _ _ alike => exact ⟨alike.requests, rfl⟩

theorem Reviewed.requester {who : Identity} {v : Verdict} {answer : Request}
    (done : Reviewed setup w who r v answer left) : answer.requester = r.requester := by
  cases done with
  | recorded => rfl
  | approved _ done => exact done.requester
  | removed => rfl

section

variable {who : Identity} {v : Verdict} {route : Route} {lists : AllowLists}

theorem ends_recordStatus_stored {status : Status} {actor : String} {comments : Option String}
    {good : Request → World → Prop} (stored : w.requests.find? r.id = some r)
    (recorded : ∀ left,
      Alike { w with requests := w.requests.put (moved r status actor w.now comments) } left →
      good (moved r status actor w.now comments) left) :
    Ends setup w (recordStatus r status actor comments) good fun _ => Failed setup w r :=
  ends_recordStatus recorded fun _ _ why alike =>
    .unsaved (disturbed_of_stored stored why) alike.requests

theorem ends_step (stored : w.requests.find? r.id = some r) :
    Ends setup w (step who r route lists v) (Reviewed setup w who r v)
      fun _ => Failed setup w r := by
  have untouched : Failed setup w r w := .refused (.refl w)
  have recorded {status : Status} {left : World} (next : v.status = status)
      (waits : r.status = .pending ∨ r.status = .rejected ∨ r.status = .cancelled)
      (open_ : status = .pending ∨ status = .rejected ∨ status = .cancelled)
      (alike : Alike { w with
        requests := w.requests.put (moved r status who.user w.now v.comments) } left) :
      Reviewed setup w who r v (moved r status who.user w.now v.comments) left := by
    subst next
    exact .recorded waits open_ alike
  unfold step
  split
  · next pending approves =>
    refine ends_check (fun _ _ => ?_) fun e => untouched
    exact (ends_approve_stored stored).mono (fun _ _ done => .approved pending done) fun _ _ h => h
  · next pending rejects =>
    refine ends_check (fun _ _ => ?_) fun e => untouched
    exact ends_recordStatus_stored stored fun left =>
      recorded rejects (.inl pending) (.inr (.inl rfl))
  · next pending cancels =>
    refine ends_check (fun _ _ => ?_) fun e => untouched
    exact ends_recordStatus_stored stored fun left =>
      recorded cancels (.inl pending) (.inr (.inr rfl))
  · next rejected reopens =>
    refine ends_check (fun _ _ => ?_) fun e => untouched
    exact ends_reopen stored (by simp [rejected])
      (fun left _ _ => recorded reopens (.inr (.inl rejected)) (.inl rfl)) fun e left => .refused
  · next cancelled reopens =>
    refine ends_check (fun _ _ => ?_) fun e => untouched
    exact ends_reopen stored (by simp [cancelled])
      (fun left _ _ => recorded reopens (.inr (.inr cancelled)) (.inl rfl)) fun e left => .refused
  · next approved removes =>
    simp only [ends_bind]
    refine ends_requireCapability (fun _ => ?_) fun e _ => untouched
    refine ends_leave (fun group eligible gone target forgot alike => ?_) fun e left _ alike =>
      .refused alike
    have now : gone.now = w.now := alike.now
    refine ends_recordStatus (fun left alike' => ?_) fun e left why alike' => ?_
    · rw [alike.requests, now] at alike'
      rw [now]
      exact .removed approved target forgot ((alike.setRequests _).trans alike')
    · rw [alike.requests] at why
      refine .unsaved (disturbed_of_stored stored (why.imp_left fun disturbed calm => ?_))
        (alike'.requests.trans alike.requests)
      exact disturbed (calm.rest alike.leftOver)
  · exact untouched
  · exact untouched

/-- A verdict is carried out in a world like the one that it was handed in to, or fails there. -/
theorem ends_updateStatus {id : String} {good : Request → World → Prop}
    (reviewed : ∀ r mid changed left after, r.id = id → Alike w mid →
      mid.requests.find? r.id = some r → Reviewed setup mid who r v changed left →
      Alike left after → good changed after)
    (failed : ∀ e r mid left, Alike w mid → mid.requests.find? r.id = some r →
      Failed setup mid r left → bad e left)
    (refused : ∀ e left, Alike w left → bad e left) :
    Ends setup w (updateStatus who id v) good bad := by
  simp only [updateStatus, ends_bind, ends_lift, ends_allowLists, ends_pure]
  refine ends_requireRequest (fun r found stored alike => ?_) refused
  obtain rfl : r.id = id := (RequestStore.find?_eq_some_iff.1 stored).2
  refine ⟨fun _ _ => ?_, fun e _ => refused e found alike⟩
  refine ends_approvalRoute (fun route mid routed alike' => ?_) fun e left _ alike' =>
    refused e left (alike.trans alike')
  have same := alike.trans alike'
  have here : mid.requests.find? r.id = some r := same.requests ▸ stored
  refine (ends_step here).mono (fun changed left done => ?_) fun e left h => failed e r mid left same here h
  exact ends_announce fun after alike'' => reviewed r mid changed left after rfl same here done alike''

/-! ## Proposals -/

def retargeted (r : Request) (target : Target) (actor : String) (now : Timestamp) : Request :=
  { r with target := target, updatedBy := actor, lastUpdated := now }

/-- The proposal of a pending request is replaced, or the world stays as it is. -/
theorem ends_updateProposal {id : String} {proposed : PolicyChange}
    {good : Request → World → Prop}
    (changed : ∀ r target left, w.requests.find? r.id = some r → r.status = .pending →
      Alike { w with requests := w.requests.put (retargeted r target who.user w.now) } left →
      good (retargeted r target who.user w.now) left)
    (failed : ∀ e left, Alike w left → bad e left) :
    Ends setup w (updateProposal who id proposed) good bad := by
  simp only [updateProposal, ends_bind]
  refine ends_requireRequest (fun r found stored alike => ?_) failed
  obtain rfl : r.id = id := (RequestStore.find?_eq_some_iff.1 stored).2
  refine ends_refuse (fun _ => failed _ found alike) fun pending => ?_
  have store {before : World} (alike : Alike w before) (target : Target) :
      Ends setup before (do
        let edited := { r with target := target, updatedBy := who.user, lastUpdated := ← now }
        saveRequest edited
        return edited) good bad := by
    simp only [ends_bind, ends_now, ends_pure]
    refine ends_saveRequest (fun left alike' => ?_) fun e left _ alike' =>
      failed e left (alike.trans alike')
    rw [alike.requests, alike.now] at alike'
    rw [alike.now]
    exact changed r target left stored (Decidable.not_not.1 pending)
      ((alike.setRequests _).trans alike')
  cases target : r.target with
  | group group => exact failed _ found alike
  | policy account arn change =>
    simp only [ends_bind, ends_allowLists, ends_lift]
    refine ends_approvalRoute (fun route left routed alike' => ?_) fun e left _ alike' =>
      failed e left (alike.trans alike')
    have same := alike.trans alike'
    refine ⟨fun _ _ => ?_, fun e _ => failed e left same⟩
    refine ends_refuse (fun _ => failed _ left same) fun _ => ?_
    refine ends_check (fun _ _ => ?_) fun e => failed e left same
    split
    · rw [ends_bind]
      exact ends_ensureNoOtherPending (fun checked alike'' _ => store (same.trans alike'') _)
        fun e checked alike'' => failed e checked (same.trans alike'')
    · exact store same _

/-! ## Submissions -/

structure Admitted (setup : Setup) (w : World) (who : Identity) (s : Submission) (route : Route) :
    Prop where
  valid : s.validate w.now = .ok ()
  routed : routeIn setup w s.target = some route
  requestable : ensureRequestable s.target route = .ok ()
  free : w.requests.NonePending who.user s.target.key
  fresh : w.requests.find? w.nextId = none

def nextRequest (w : World) (who : Identity) (s : Submission) : Request :=
  newRequest w.nextId who s w.now

/-- A submission has passed every check, and the request that it becomes is stored. -/
structure JustStored (setup : Setup) (w : World) (who : Identity) (s : Submission) (route : Route)
    (left : World) : Prop where
  admitted : Admitted setup w who s route
  held : ∀ id, left.requests.find? id = (w.requests.put (nextRequest w who s)).find? id
  appended : w.Undisturbed .appendUser → left.requests =
    (w.requests.put (nextRequest w who s)).append who.user (nextRequest w who s).id
  alike : Alike { w with requests := left.requests, drawn := w.drawn + 1 } left

theorem JustStored.stored {s : Submission} {route : Route} (h : JustStored setup w who s route left) :
    left.requests.find? (nextRequest w who s).id = some (nextRequest w who s) := by
  rw [h.held, RequestStore.find?_put, if_pos rfl]

def settle (who : Identity) (r : Request) (route : Route) : Service Request := do
  if AllowLists.autoApproves who route.approvers route.selfApprovalGroups route.openWhenUnowned then
    let r ← approve r route who.user (some "auto-approved")
    announce r none
    return r
  else
    announce r none
    return r

/-- A new request is approved at once or waits, and then a listener is told. -/
theorem ends_settle {route : Route} {good : Request → World → Prop}
    (stored : w.requests.find? r.id = some r) (waits : ∀ left, Alike w left → good r left)
    (approved : ∀ answer mid left,
      Approved setup w r who.user (some "auto-approved") answer mid → Alike mid left →
        good answer left)
    (failed : ∀ e left, Failed setup w r left → bad e left) :
    Ends setup w (settle who r route) good bad := by
  unfold settle
  split
  · simp only [ends_bind, ends_pure]
    refine (ends_approve_stored stored).mono (fun answer mid done => ?_) failed
    exact ends_announce fun left alike => approved answer mid left done alike
  · simp only [ends_bind, ends_pure]
    exact ends_announce waits

/-- A new request is stored and noted for its user, unless that note gets lost. -/
theorem ends_storeNew {user : String} {good : Unit → World → Prop}
    (stored : ∀ requests noted, w.requests.insert r = .ok (w.requests.put r) →
      (∀ id, requests.find? id = (w.requests.put r).find? id) →
      (w.Undisturbed .appendUser → requests = (w.requests.put r).append user r.id) →
      Alike { w with requests := requests } noted → good () noted)
    (failed : ∀ e left, w.effect .insertRequest = .fail e ∨ w.requests.insert r = .error e →
      Alike w left → bad e left) :
    Ends setup w (do insertRequest r; quietly (appendUserRequest user r.id)) good bad := by
  simp only [ends_bind, ends_quietly]
  refine ends_insertRequest (fun inserted fits alike => ?_) failed
  refine ends_appendUserRequest (fun noted appended => ?_) fun e noted fails appended => ?_
  · rw [alike.requests] at appended
    exact stored _ noted fits (fun id => RequestStore.find?_append _ _ _ id) (fun _ => rfl)
      ((alike.setRequests _).trans appended)
  · refine stored _ noted fits (fun _ => rfl) (fun calm => ?_) (alike.trans appended)
    exact ((calm.rest alike.leftOver).not_fail fails).elim

/-- A submission that passes every check is stored and settled; any other leaves no trace. -/
theorem ends_submit {s : Submission} {good : Request → World → Prop}
    (refused : ∀ e drawn left, (w.AllAnswer setup → ∀ route, ¬ Admitted setup w who s route) →
      Alike { w with drawn := drawn } left → bad e left)
    (stored : ∀ route noted, JustStored setup w who s route noted →
      Ends setup noted (settle who (nextRequest w who s) route) good bad) :
    Ends setup w (submit who s) good bad := by
  simp only [submit, ends_bind, ends_now, ends_lift, ends_drawId]
  -- Whatever refuses the submission contradicts one of the checks that an admitted one passes.
  refine ⟨fun _ valid => ?_, fun e invalid => refused e w.drawn w (fun _ route admitted => ?_) (.refl w)⟩
  · refine ends_approvalRoute (fun route found routed alike => ⟨fun _ requestable => ?_, fun e forbids =>
      refused e w.drawn found (fun _ other admitted => ?_) alike⟩) fun e left why alike =>
        refused e w.drawn left (fun answers route admitted => ?_) alike
    · refine ends_ensureNonePending (fun checked alike' => ?_) fun e left why alike' =>
        refused e w.drawn left (fun answers other admitted => ?_) (alike.trans alike')
      · have same := alike.trans alike'
        have drawn := same.setDrawn (w.drawn + 1)
        rw [same.drawn, same.nextId]
        refine ends_bind.1 (ends_storeNew (fun requests noted fits held appended alike'' => ?_)
          fun e left why alike'' => refused e (w.drawn + 1) left (fun answers other admitted => ?_)
            (drawn.trans alike''))
        · rw [same.requests] at held appended fits
          obtain ⟨fresh, free, -⟩ := RequestStore.insert_eq_ok_iff.1 fits
          obtain rfl : noted.requests = requests := alike''.requests
          exact stored route noted {
            admitted :=
              ⟨valid, routed, requestable, RequestStore.findPending?_eq_none_iff.1 free, fresh⟩
            held := held
            appended := fun calm => appended (calm.rest drawn.leftOver)
            alike := (drawn.setRequests noted.requests).trans alike'' }
        · rcases why with fails | exists_
          · exact ((answers.undisturbed .insertRequest).rest drawn.leftOver).not_fail fails
          · rw [same.requests, RequestStore.insert_eq_ok_iff.2 ⟨admitted.fresh,
              RequestStore.findPending?_eq_none_iff.2 admitted.free, rfl⟩] at exists_
            cases exists_
      · rw [alike.requests] at why
        rcases why with disturbed | pending
        · exact disturbed ((answers.undisturbed _).rest alike.leftOver)
        · exact pending admitted.free
    · obtain rfl : other = route := Option.some.inj (admitted.routed.symm.trans routed)
      rw [admitted.requestable] at forbids
      cases forbids
    · rcases why with fails | ⟨unrouted, -⟩
      · exact (answers.undisturbed .groupAttributes).not_fail fails
      · cases unrouted.symm.trans admitted.routed
  · rw [admitted.valid] at invalid
    cases invalid

/-! ## Groups -/

structure AttributesAnswer (w : World) : Prop where
  read : w.Undisturbed .groupAttributes
  put : w.Undisturbed .putGroup

theorem AttributesAnswer.rest (h : AttributesAnswer w) (rest : LeftOver left.plan w.plan) :
    AttributesAnswer left :=
  ⟨h.read.rest rest, h.put.rest rest⟩

structure MayEdit (setup : Setup) (w : World) (who : Identity) (group : String) : Prop where
  named : group ≠ ""
  permitted : (listsIn setup w).permits who .editAttributes false = true

/-- Attributes are edited alike of restricted groups and of others. -/
theorem permits_editAttributes (lists : AllowLists) (who : Identity) (restricted : Bool) :
    lists.permits who .editAttributes restricted = lists.permits who .editAttributes false := by
  simp [AllowLists.permits, Capability.modifiesMembers]

/-- How an update of a trimmed name goes: it lays down the attributes, or it does nothing, which
needs a reason if the directory answers. -/
inductive Updated (setup : Setup) (w : World) (who : Identity) (group : String)
    (a : GroupAttributes) : Except Error GroupAttributes × World → Prop where
  | laid {left : World} (may : MayEdit setup w who group)
    (alike : Alike { w with
      directory := w.directory.putAttributes group (tidyAttributes a) } left) :
    Updated setup w who group a (.ok (tidyAttributes a), left)
  | refused {e : Error} {left : World}
    (mayNot : AttributesAnswer w → ¬ MayEdit setup w who group) (alike : Alike w left) :
    Updated setup w who group a (.error e, left)

theorem updated (setup : Setup) (w : World) (who : Identity) (name : String)
    (a : GroupAttributes) :
    Updated setup w who (Text.trim name) a ((updateGroup who name a).perform setup w) := by
  refine Ends.outcome (p := Updated setup w who (Text.trim name) a) ?_
  simp only [updateGroup]
  generalize Text.trim name = group
  refine ends_refuse (fun blank => ?_) fun solid => ?_
  · exact .refused (fun _ may => may.named (String.isEmpty_iff.1 blank)) (.refl w)
  have named : group ≠ "" := fun blank => solid (String.isEmpty_iff.2 blank)
  simp only [ends_bind, ends_pure]
  refine ends_groupAttributes? (fun found alike => ?_) fun e left fails alike =>
    .refused (fun answers => (answers.read.not_fail fails).elim) alike
  refine ends_requireCapability (fun permitted => ?_) fun e forbidden => ?_
  · rw [listsIn_alike alike, permits_editAttributes] at permitted
    refine ends_putGroupAttributes (fun left alike' => ?_) fun e left fails alike' =>
      .refused (fun answers => ((answers.put.rest alike.leftOver).not_fail fails).elim)
        (alike.trans alike')
    rw [alike.directory] at alike'
    exact .laid ⟨named, permitted⟩ ((alike.setDirectory _).trans alike')
  · rw [listsIn_alike alike, permits_editAttributes] at forbidden
    refine .refused (fun _ may => ?_) alike
    rw [may.permitted] at forbidden
    cases forbidden

/-- Whoever may do so lays down the attributes of a group, or the world stays as it is. -/
theorem left_updateGroup {group : String} {attributes : GroupAttributes} {p : World → Prop}
    (laid : ∀ left,
      (listsIn setup w).permits who .editAttributes
        ((w.directory.attributes? (Text.trim group)).any (·.restricted)) = true →
      Alike { w with
        directory := w.directory.putAttributes (Text.trim group) (tidyAttributes attributes) } left →
      p left)
    (failed : ∀ left, Alike w left → p left) :
    p ((updateGroup who group attributes).perform setup w).2 := by
  have outcome := updated setup w who group attributes
  generalize (updateGroup who group attributes).perform setup w = outcome at outcome ⊢
  cases outcome with
  | laid may alike => exact laid _ ((permits_editAttributes ..).trans may.permitted) alike
  | refused _ alike => exact failed _ alike

def LaidDown (w left : World) : Prop :=
  ∃ directory, Alike { w with directory := directory } left ∧
    (directory = w.directory ∨ ∃ name tidy, directory = w.directory.putAttributes name tidy)

theorem laidDown_updateGroup (setup : Setup) (w : World) (who : Identity) (group : String)
    (attributes : GroupAttributes) :
    LaidDown w ((updateGroup who group attributes).perform setup w).2 :=
  left_updateGroup (fun _ _ alike => ⟨_, alike, .inr ⟨_, _, rfl⟩⟩)
    fun _ alike => ⟨w.directory, alike, .inl rfl⟩

end

end AccessBroker.Service
