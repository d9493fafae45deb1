import AccessBroker.Proofs.Authority
import AccessBroker.Proofs.Membership

/-! # Restricted groups

The mark of a restricted group is looked at in three places: when a request is
handed in, when it is put into effect, and when somebody is to be taken out of
the group.  Each time it is read from the route of the name that the request
gives, in whatever spelling.  Only a sweep does not look at it, and takes out
who was let in for a time that is over.
-/

namespace AccessBroker

open World (Alike AlikeButRoles)

namespace Directory

variable {d before after later : Directory} {name user : String}

def Restricts (d : Directory) (name : String) : Prop :=
  ∃ a, d.attributes? name = some a ∧ a.restricted = true

structure SameButOpen (before after : Directory) : Prop where
  attributes : ∀ name, after.attributes? name = before.attributes? name
  restricted : ∀ name, before.Restricts name → after.members name = before.members name

namespace SameButOpen

theorem refl (d : Directory) : d.SameButOpen d :=
  ⟨fun _ => rfl, fun _ _ => rfl⟩

theorem of_eq (same : after = before) : before.SameButOpen after := by
  rw [same]
  exact refl before

theorem restricts (same : before.SameButOpen after) :
    after.Restricts name ↔ before.Restricts name := by
  unfold Restricts
  rw [same.attributes]

theorem trans (first : before.SameButOpen after) (second : after.SameButOpen later) :
    before.SameButOpen later where
  attributes name := (second.attributes name).trans (first.attributes name)
  restricted name locked :=
    (second.restricted name (first.restricts.2 locked)).trans (first.restricted name locked)

end SameButOpen

theorem restricts_congr {other : String} (same : Text.normalize other = Text.normalize name) :
    d.Restricts other ↔ d.Restricts name := by
  unfold Restricts attributes?
  rw [group?_congr same]

theorem group?_addMember_of_ne {other : String} (apart : Text.normalize other ≠ Text.normalize name) :
    (d.addMember name user).2.group? other = d.group? other := by
  unfold addMember
  split
  · rfl
  · split
    · rfl
    · rw [group?, Table.get?_insert, if_neg apart]
      rfl

theorem attributes?_addMember (d : Directory) (name user other : String) :
    (d.addMember name user).2.attributes? other = d.attributes? other := by
  by_cases same : Text.normalize other = Text.normalize name
  · unfold addMember
    cases found : d.group? name with
    | none => rfl
    | some g =>
      dsimp only
      split
      · rfl
      · rw [attributes?, attributes?, group?, Table.get?_insert, if_pos same, group?_congr same, found]
        rfl
  · rw [attributes?, group?_addMember_of_ne same]
    rfl

theorem members_putAttributes (d : Directory) (name : String) (attributes : GroupAttributes)
    (other : String) : (d.putAttributes name attributes).members other = d.members other := by
  by_cases same : Text.normalize other = Text.normalize name
  · rw [members, group?, putAttributes, Table.get?_insert, if_pos same, members, members,
      group?_congr same]
  · rw [members, group?, putAttributes, Table.get?_insert, if_neg same]
    rfl

/-- Another spelling of a name that is not restricted is not the name of a restricted group. -/
theorem ne_of_restricts {other : String} (unlocked : ¬ d.Restricts name)
    (locked : d.Restricts other) : Text.normalize other ≠ Text.normalize name :=
  fun same => unlocked ((restricts_congr same).1 locked)

theorem sameButOpen_addMember (unlocked : ¬ d.Restricts name) :
    d.SameButOpen (d.addMember name user).2 where
  attributes := attributes?_addMember d name user
  restricted other locked := by
    unfold members
    rw [group?_addMember_of_ne (ne_of_restricts unlocked locked)]

theorem sameButOpen_removeMember (unlocked : ¬ d.Restricts name) :
    d.SameButOpen (d.removeMember name user).2 where
  attributes := attributes?_removeMember d name user
  restricted other locked := by
    unfold members
    rw [group?_removeMember, if_neg (ne_of_restricts unlocked locked)]

end Directory

namespace Service

variable {setup : Setup} {w : World} {r : Request} {route : Route}

/-! ## Calls that look at the mark -/

/-- However the service ends, it has changed no members of a restricted group and no attributes. -/
abbrev SparesRestricted {α : Type} (setup : Setup) (w : World) (service : Service α) : Prop :=
  Ends setup w service (fun _ left => w.directory.SameButOpen left.directory)
    fun _ left => w.directory.SameButOpen left.directory

/-- The route of a restricted group is restricted, and an unrestricted one is of no such group. -/
theorem not_restricts_of_route {group : String}
    (routed : routeIn setup w (.group group) = some route) (unrestricted : route.restricted = false) :
    ¬ w.directory.Restricts group := by
  rintro ⟨a, here, restricted⟩
  simp only [routeIn, here, Option.map_some, Option.some.injEq] at routed
  subst routed
  have same : (groupRoute (listsIn setup w) a).restricted = a.restricted := rfl
  rw [same, restricted] at unrestricted
  cases unrestricted

theorem sparesRestricted_approve {actor : String} {comments : Option String}
    (routed : routeIn setup w r.target = some route) :
    SparesRestricted setup w (approve r route actor comments) := by
  have stays {left : World} (same : left.directory = w.directory) :
      w.directory.SameButOpen left.directory := .of_eq same
  cases target : r.target with
  | policy account arn change =>
    exact ends_approve_policy target (fun _ _ _ _ _ alike _ => stays alike.directory)
      (fun _ _ _ _ _ alike => stays alike.directory) (fun _ _ _ alike => stays alike.directory)
      fun _ _ alike => stays alike.directory
  | group group =>
    rw [target] at routed
    unfold approve
    simp only [target, ends_bind, ends_pure]
    refine ends_join (fun joined unrestricted _ alike => ?_) fun _ _ _ alike => stays alike.directory
    have unlocked := not_restricts_of_route routed unrestricted
    have moved : w.directory.SameButOpen joined.directory := by
      rw [alike.directory]
      exact Directory.sameButOpen_addMember unlocked
    refine ends_recordStatus (fun recorded alike' => ?_) fun e left _ alike' => ?_
    · refine ends_invalidateUser fun eligible left _ alike'' => ?_
      rw [alike''.directory, alike'.directory]
      exact moved
    · rw [alike'.directory]
      exact moved

theorem sparesRestricted_recordStatus {status : Status} {actor : String}
    {comments : Option String} : SparesRestricted setup w (recordStatus r status actor comments) :=
  ends_recordStatus (fun _ alike => .of_eq alike.directory) fun _ _ _ alike => .of_eq alike.directory

theorem sparesRestricted_step {who : Identity} {lists : AllowLists} {v : Verdict}
    (routed : routeIn setup w r.target = some route) (stored : w.requests.find? r.id = some r) :
    SparesRestricted setup w (step who r route lists v) := by
  have untouched : w.directory.SameButOpen w.directory := .refl _
  have reopened (closed : r.status ≠ .pending) :
      SparesRestricted setup w (reopen who r v.comments) :=
    ends_reopen stored closed (fun _ _ _ alike => .of_eq alike.directory)
      fun _ _ alike => .of_eq alike.directory
  unfold step
  split
  · exact ends_check (fun _ _ => sparesRestricted_approve routed) fun _ => untouched
  · exact ends_check (fun _ _ => sparesRestricted_recordStatus) fun _ => untouched
  · exact ends_check (fun _ _ => sparesRestricted_recordStatus) fun _ => untouched
  · next rejected _ =>
    exact ends_check (fun _ _ => reopened (by simp [rejected])) fun _ => untouched
  · next cancelled _ =>
    exact ends_check (fun _ _ => reopened (by simp [cancelled])) fun _ => untouched
  · unfold SparesRestricted
    rw [ends_bind]
    refine ends_requireCapability (fun permitted => ?_) fun _ _ => untouched
    obtain ⟨unrestricted, -⟩ := AllowLists.permits_modifyMembers permitted
    rw [ends_bind]
    refine ends_leave (fun group eligible gone target _ alike => ?_) fun _ _ _ alike =>
      .of_eq alike.directory
    rw [target] at routed
    have moved : w.directory.SameButOpen gone.directory := by
      rw [alike.directory]
      exact Directory.sameButOpen_removeMember (not_restricts_of_route routed unrestricted)
    exact sparesRestricted_recordStatus.mono (fun _ _ same => moved.trans same)
      fun _ _ same => moved.trans same
  · exact untouched
  · exact untouched

theorem sparesRestricted_updateStatus (who : Identity) (id : String) (v : Verdict) :
    SparesRestricted setup w (updateStatus who id v) := by
  have stays {left : World} (alike : Alike w left) : w.directory.SameButOpen left.directory :=
    .of_eq alike.directory
  simp only [SparesRestricted, updateStatus, ends_bind, ends_lift, ends_allowLists, ends_pure]
  refine ends_requireRequest (fun r found stored alike => ?_) fun _ _ => stays
  obtain rfl : r.id = id := (RequestStore.find?_eq_some_iff.1 stored).2
  refine ⟨fun _ _ => ?_, fun _ _ => stays alike⟩
  refine ends_approvalRoute (fun route mid routed alike' => ?_) fun _ _ _ alike' =>
    stays (alike.trans alike')
  have same := alike.trans alike'
  have here : mid.requests.find? r.id = some r := same.requests ▸ stored
  have routed : routeIn setup mid r.target = some route := by
    rw [routeIn_alike alike']
    exact routed
  have begun : w.directory.SameButOpen mid.directory := stays same
  refine (sparesRestricted_step routed here).mono (fun changed left done => ?_)
    fun _ _ done => begun.trans done
  refine ends_announce fun after alike'' => ?_
  rw [alike''.directory]
  exact begun.trans done

theorem sparesRestricted_submit (who : Identity) (s : Submission) :
    SparesRestricted setup w (submit who s) := by
  refine ends_submit (fun _ _ _ _ alike => .of_eq alike.directory)
    fun route noted just => ?_
  have routed : routeIn setup noted (nextRequest w who s).target = some route := by
    rw [routeIn_alike just.alike]
    exact just.admitted.routed
  have begun : w.directory.SameButOpen noted.directory := .of_eq just.alike.directory
  have told {mid : World} {r : Request} (done : w.directory.SameButOpen mid.directory) :
      Ends setup mid (announce r none) (fun _ left => w.directory.SameButOpen left.directory)
        fun _ left => w.directory.SameButOpen left.directory := by
    refine ends_announce fun left alike => ?_
    rw [alike.directory]
    exact done
  unfold settle
  split
  · simp only [ends_bind, ends_pure]
    exact (sparesRestricted_approve routed).mono (fun _ _ done => told (begun.trans done))
      fun _ _ done => begun.trans done
  · simp only [ends_bind, ends_pure]
    exact told begun

end Service

/-- Every call but a sweep changes no members of a restricted group and no attributes. -/
theorem RequestCall.sameButOpen_after (setup : Setup) (w : World) (c : RequestCall)
    (noSweep : ∀ batch, c ≠ .expireDue batch) :
    w.directory.SameButOpen (c.after setup w).directory := by
  cases c with
  | submit who s => exact (Service.sparesRestricted_submit who s).left
  | updateStatus who id v => exact (Service.sparesRestricted_updateStatus who id v).left
  | updateProposal who id proposed =>
    have ends : Service.SparesRestricted setup w (Service.updateProposal who id proposed) :=
      Service.ends_updateProposal (fun _ _ _ _ _ alike => .of_eq alike.directory)
        fun _ _ alike => .of_eq alike.directory
    exact ends.left
  | expireDue batch => exact absurd rfl (noSweep batch)

/-! ## Sweeps -/

def World.RunOut (w : World) (group user : String) : Prop :=
  ∃ r ∈ w.requests.all, r.Confers group user ∧ ∃ t, r.expiresAt = some t ∧ t ≤ w.now

structure Directory.OnlyLeavers (reason : String → String → Prop) (before after : Directory) :
    Prop where
  attributes : ∀ name, after.attributes? name = before.attributes? name
  fewer : ∀ group user, after.HasMember group user → before.HasMember group user
  why : ∀ group user, before.HasMember group user → after.HasMember group user ∨ reason group user

namespace Directory.OnlyLeavers

variable {reason : String → String → Prop} {before after : Directory}

theorem refl (d : Directory) : OnlyLeavers reason d d :=
  ⟨fun _ => rfl, fun _ _ member => member, fun _ _ member => .inl member⟩

theorem removeMember {name user : String} (h : OnlyLeavers reason before after)
    (may : reason (Text.normalize name) (Text.normalize user)) :
    OnlyLeavers reason before (after.removeMember name user).2 where
  attributes other := (attributes?_removeMember after name user other).trans (h.attributes other)
  fewer group member here := h.fewer group member (hasMember_removeMember.1 here).1
  why group member here := by
    rcases h.why group member here with stays | left
    · by_cases named : group = Text.normalize name ∧ member = Text.normalize user
      · rw [named.1, named.2]
        exact .inr may
      · exact .inl (hasMember_removeMember.2 ⟨stays, named⟩)
    · exact .inr left

end Directory.OnlyLeavers

namespace Service

variable {setup : Setup} {w left : World} {batch limit : Nat}

def MayHaveLeft (w : World) (now : Timestamp) (r : Request) (left : World) : Prop :=
  left.directory = w.directory ∨
    r.isPastExpiry now = true ∧ ∃ group, r.target = .group group ∧
      left.directory = (w.directory.removeMember group r.requester).2

theorem mayHaveLeft_expire {r : Request} {now : Timestamp} :
    Ends setup w (expire now r) (fun _ => MayHaveLeft w now r) fun _ => MayHaveLeft w now r := by
  unfold expire
  split
  · exact .inl rfl
  · next due =>
    simp only [ends_bind, ends_tryCatch, ends_pure]
    refine ends_leave (fun group eligible gone target _ alike => ?_) fun e left _ alike => ?_
    · have gone : MayHaveLeft w now r gone :=
        .inr ⟨by simpa using due, group, target, alike.directory⟩
      simp only [Bool.not_true, Bool.false_eq_true, if_false, ends_bind, ends_pure]
      refine ends_saveRequest (fun saved alike' => ?_) fun e left _ alike' => ?_
      · refine ends_announce fun left alike'' => ?_
        unfold MayHaveLeft
        rw [alike''.directory, alike'.directory]
        exact gone
      · unfold MayHaveLeft
        rw [alike'.directory]
        exact gone
    · simp only [Bool.not_false, if_true, ends_pure]
      exact .inl alike.directory

abbrev SweptOut (w left : World) : Prop :=
  Directory.OnlyLeavers w.RunOut w.directory left.directory

theorem SweptOut.congr {after : World} (h : SweptOut w left)
    (same : after.directory = left.directory) : SweptOut w after := by
  unfold SweptOut
  rw [same]
  exact h

theorem SweptOut.expired {r : Request} {after : World} (h : SweptOut w left)
    (stored : w.requests.find? r.id = some r) (gone : MayHaveLeft left w.now r after) :
    SweptOut w after := by
  rcases gone with same | ⟨due, group, target, directory⟩
  · exact h.congr same
  · obtain ⟨approved, expiry⟩ := Request.isPastExpiry_iff.1 due
    have runOut : w.RunOut (Text.normalize group) (Text.normalize r.requester) :=
      ⟨r, RequestStore.mem_all_iff.2 stored, ⟨approved, group, target, rfl, rfl⟩, expiry⟩
    unfold SweptOut
    rw [directory]
    exact h.removeMember runOut

/-- A sweep comes across requests that are as they were when it began, so whoever leaves had a
request that had run out by then. -/
theorem sweepKeeps_sweptOut :
    SweepKeeps setup w.now limit (fun page mid => Recorded setup w batch page mid ∧ SweptOut w mid)
      fun _ => SweptOut w := by
  have recorded : SweepKeeps setup w.now limit (Recorded setup w batch)
      fun _ => History setup w (.expireDue batch) := sweepKeeps_recorded
  refine ⟨fun cursor mid h => ?_, fun r rest mid h => ?_,
    fun page mid h => ⟨recorded.stops page mid h.1, h.2⟩⟩
  · have listed : Ends setup mid (listExpired w.now cursor limit) (fun _ => SweptOut w)
        fun _ => SweptOut w :=
      ends_listExpired (fun left alike => h.2.congr alike.directory)
        fun e left _ alike => h.2.congr alike.directory
    exact ((recorded.lists cursor mid h.1).and listed).mono (fun _ _ done => done)
      fun _ _ failed => failed.2
  · have here := h.1.stored r List.mem_cons_self
    exact ((recorded.ends r rest mid h.1).and mayHaveLeft_expire).mono
      (fun _ _ done => ⟨done.1, h.2.expired here done.2⟩) fun _ _ failed => h.2.expired here failed.2

theorem sweptOut_expireDue (batch : Nat) :
    Ends setup w (expireDue batch) (fun _ => SweptOut w) fun _ => SweptOut w := by
  have start : Recorded setup w batch [] w := ⟨.unchanged rfl, List.forall_mem_nil _⟩
  exact (sweepKeeps_sweptOut.expireDue ⟨start, .refl _⟩).mono (fun _ _ done => done.2)
    fun _ _ left => left

end Service

/-! ## Runs -/

/-- The group is restricted afterwards, and has the members that it had: anything else may have
changed, or the attributes of some group have been laid down through the services. -/
inductive World.StaysRestricted (group : String) : World → World → Prop where
  | elsewhere {before after : World} (restricted : after.directory.Restricts group)
      (members : after.directory.members group = before.directory.members group) :
      StaysRestricted group before after
  | updateGroup {before after : World} (setup : Setup) (who : Identity) (name : String)
      (attributes : GroupAttributes)
      (called : after = ((Service.updateGroup who name attributes).perform setup before).2)
      (restricted : after.directory.Restricts group) : StaysRestricted group before after

/-- Runs of calls by anyone, with any disturbances, in which the group stays restricted. -/
abbrev LockedRun (group : String) : World → World → Prop :=
  Run (World.StaysRestricted group) fun _ => True

/-- In a sweep on the way the user has left the group because of an approved request that had run
out by then. -/
def LockedRun.Expelled (group : String) (start w : World) (user : String) : Prop :=
  ∃ before setup batch, LockedRun group start before ∧
    user ∈ before.directory.members group ∧ before.RunOut (Text.normalize group) user ∧
    let swept := (RequestCall.expireDue batch).after setup before
    user ∉ swept.directory.members group ∧ LockedRun group swept w

structure LockedRun.Kept (group : String) (start w : World) : Prop where
  restricted : w.directory.Restricts group
  fewer : ∀ user, user ∈ w.directory.members group → user ∈ start.directory.members group
  why : ∀ user, user ∈ start.directory.members group →
    user ∈ w.directory.members group ∨ LockedRun.Expelled group start w user

namespace LockedRun

variable {group : String} {start w : World}

/-- Nobody comes or goes when the world moves on to one in which the members are the same. -/
theorem Kept.same {left : World} (h : Kept group start w)
    (restricted : left.directory.Restricts group)
    (members : left.directory.members group = w.directory.members group)
    (more : ∀ before, LockedRun group before w → LockedRun group before left) :
    Kept group start left where
  restricted := restricted
  fewer user member := h.fewer user (members ▸ member)
  why user member := by
    rcases h.why user member with stays | ⟨before, setup, batch, run, was, runOut, gone, on⟩
    · exact .inl (members ▸ stays)
    · exact .inr ⟨before, setup, batch, run, was, runOut, gone, more _ on⟩

theorem members_of_moves {left : World} (moves : World.StaysRestricted group w left) :
    left.directory.Restricts group ∧ left.directory.members group = w.directory.members group := by
  cases moves with
  | elsewhere restricted members => exact ⟨restricted, members⟩
  | updateGroup setup who name attributes called restricted =>
    refine ⟨restricted, ?_⟩
    obtain ⟨directory, alike, laid⟩ := Service.laidDown_updateGroup setup w who name attributes
    rw [called, alike.directory]
    rcases laid with rfl | ⟨name, tidy, rfl⟩
    · rfl
    · exact Directory.members_putAttributes w.directory name tidy group

theorem Kept.swept {batch : Nat} (h : Kept group start w) (run : LockedRun group start w)
    (setup : Setup) : Kept group start ((RequestCall.expireDue batch).after setup w) := by
  have swept : Service.SweptOut w ((RequestCall.expireDue batch).after setup w) :=
    (Service.sweptOut_expireDue batch).left
  have on {before : World} (run : LockedRun group before w) :
      LockedRun group before ((RequestCall.expireDue batch).after setup w) :=
    .call run trivial setup (.expireDue batch)
  refine ⟨?_, fun user member => ?_, fun user member => ?_⟩
  · obtain ⟨a, here, restricted⟩ := h.restricted
    exact ⟨a, (swept.attributes group).trans here, restricted⟩
  · have here := swept.fewer _ _ (Directory.hasMember_normalize.2 member)
    exact h.fewer user (Directory.hasMember_normalize.1 here)
  · rcases h.why user member with stays | ⟨before, setup', batch', run', was, runOut, gone, rest⟩
    · by_cases still :
          user ∈ ((RequestCall.expireDue batch).after setup w).directory.members group
      · exact .inl still
      · rcases swept.why _ _ (Directory.hasMember_normalize.2 stays) with here | runOut
        · exact absurd (Directory.hasMember_normalize.1 here) still
        · exact .inr ⟨w, setup, batch, run, stays, runOut, still, .start⟩
    · exact .inr ⟨before, setup', batch', run', was, runOut, gone, on rest⟩

theorem Kept.after (h : Kept group start w) (run : LockedRun group start w) (setup : Setup)
    (c : RequestCall) : Kept group start (c.after setup w) := by
  by_cases sweep : ∃ batch, c = .expireDue batch
  · obtain ⟨batch, rfl⟩ := sweep
    exact h.swept run setup
  · have noSweep (batch : Nat) : c ≠ .expireDue batch := fun is => sweep ⟨batch, is⟩
    have same := c.sameButOpen_after setup w noSweep
    exact h.same (same.restricts.2 h.restricted) (same.restricted group h.restricted)
      fun _ on => .call on trivial setup c

theorem kept (run : LockedRun group start w) (restricted : start.directory.Restricts group) :
    Kept group start w := by
  induction run with
  | start => exact ⟨restricted, fun _ member => member, fun _ member => .inl member⟩
  | move run goes ih =>
    obtain ⟨restricted, members⟩ := members_of_moves goes
    exact ih.same restricted members fun _ on => .move on goes
  | call run _ setup c ih => exact ih.after run setup c

/-- A group that is restricted keeps its members in every call but a sweep, whoever makes it and
however it spells the name.  Along a run in which the group stays restricted nobody joins it, and
whoever leaves it has been taken out in a sweep, because of an approved request that had run out. -/
theorem members_locked (run : LockedRun group start w)
    (restricted : start.directory.Restricts group) :
    w.directory.Restricts group ∧
    (∀ setup (c : RequestCall), (∀ batch, c ≠ .expireDue batch) →
      ∀ name, Text.normalize name = Text.normalize group →
        (c.after setup w).directory.members name = w.directory.members name) ∧
    ∀ user, (user ∈ w.directory.members group → user ∈ start.directory.members group) ∧
      (user ∈ start.directory.members group →
        user ∈ w.directory.members group ∨ Expelled group start w user) := by
  obtain ⟨locked, fewer, why⟩ := kept run restricted
  refine ⟨locked, fun setup c noSweep name same => ?_, fun user => ⟨fewer user, why user⟩⟩
  exact (c.sameButOpen_after setup w noSweep).restricted name
    ((Directory.restricts_congr same).2 locked)

end LockedRun

def World.withOpsLocked : World :=
  { withRequest with
    directory := withRequest.directory.putAttributes "ops" ⟨["lead"], [], true, true⟩ }

/-- `lead` cannot let `alice` in any more. -/
theorem LockedRun.alice_kept_out :
    World.withOpsLocked.directory.Restricts "ops" ∧ Request.forOps.status = .pending ∧
      Request.forOps ∈ World.withOpsLocked.requests.all ∧
      let verdict := RequestCall.updateStatus (.of "lead" []) (World.numberedId 1) ⟨.approved, none⟩
      (verdict.after default World.withOpsLocked).directory.members " OPS" =
        World.withOpsLocked.directory.members " OPS" := by
  have locked : World.withOpsLocked.directory.Restricts "ops" :=
    ⟨⟨["lead"], [], true, true⟩, by decide +kernel, rfl⟩
  have run : LockedRun "ops" World.withOpsLocked World.withOpsLocked := .start
  obtain ⟨-, calls, -⟩ := run.members_locked locked
  refine ⟨locked, rfl, World.forOps_mem_withRequest, ?_⟩
  exact calls default (.updateStatus (.of "lead" []) (World.numberedId 1) ⟨.approved, none⟩) nofun
    " OPS" (by decide +kernel)

end AccessBroker
