import AccessBroker.Proofs.Expiry

/-! # What work on requests leaves alone

Requests are read and stored, members come and go, the cloud is changed, ids
are drawn, and roles are read.  A property of the world that looks at none of
this, and that outlives the reading of roles, outlives every operation on
requests.
-/

namespace AccessBroker

namespace Service

/-- The property does not depend on what the work on requests changes.  The only calls that it may
depend on are those to listeners. -/
structure Aloof (setup : Setup) (heeds : CallKind → Bool) (p : World → Prop) : Prop where
  books : OverlooksBut heeds p
  quiet : ∀ kind, kind ≠ .notify → heeds kind = false
  requests : ∀ w s, p w → p { w with requests := s }
  directory : ∀ w d, p w → p { w with directory := d }
  cloud : ∀ w c, p w → p { w with cloud := c }
  eligible : ∀ w c, p w → p { w with eligible := c }
  drawn : ∀ w n, p w → p { w with drawn := n }
  reading : ∀ key force, Keeps setup p (fetchRole key force)

namespace Aloof

variable {setup : Setup} {heeds : CallKind → Bool} {p : World → Prop}

/-! ## Calls -/

theorem log (h : Aloof setup heeds p) {call : Call} (other : call.kind ≠ .notify) :
    Keeps setup p (log call) :=
  .log h.books (h.quiet _ other)

theorem meet (h : Aloof setup heeds p) (kind : CallKind) : Keeps setup p (meet kind) :=
  .meet h.books kind

theorem findRequest (h : Aloof setup heeds p) (id : String) : Keeps setup p (findRequest? id) :=
  .bind (.discard (h.meet _)) fun _ => .bind .get fun _ => .pure _

theorem findPending (h : Aloof setup heeds p) (requester key : String) :
    Keeps setup p (findPending? requester key) := by
  refine .bind (h.meet _) fun effect => ?_
  split
  · exact .pure _
  · exact .bind .get fun _ => .pure _

theorem listExpired (h : Aloof setup heeds p) (now : Timestamp) (after : Option ExpiryCursor)
    (limit : Nat) : Keeps setup p (listExpired now after limit) :=
  .bind (h.log nofun) fun _ => .bind (.discard (h.meet _)) fun _ => .bind .get fun _ => .pure _

theorem insertRequest (h : Aloof setup heeds p) (r : Request) :
    Keeps setup p (insertRequest r) :=
  .bind (h.log nofun) fun _ => .bind (.discard (h.meet _)) fun _ => .bind .get fun _ =>
    .bind (.lift _) fun _ => .modify fun w => h.requests w _

theorem saveRequest (h : Aloof setup heeds p) (r : Request) : Keeps setup p (saveRequest r) :=
  .bind (h.log nofun) fun _ => .bind (.discard (h.meet _)) fun _ => .bind .get fun _ =>
    .bind (.lift _) fun _ => .modify fun w => h.requests w _

theorem appendUserRequest (h : Aloof setup heeds p) (user id : String) :
    Keeps setup p (appendUserRequest user id) :=
  .bind (h.log nofun) fun _ => .bind (.discard (h.meet _)) fun _ =>
    .modify fun w => h.requests w _

theorem groupAttributes (h : Aloof setup heeds p) (group : String) :
    Keeps setup p (groupAttributes group) := by
  refine .bind (.bind (.discard (h.meet _)) fun _ => .bind .get fun _ => .pure _) fun found => ?_
  split
  · exact .pure _
  · exact .throw _

theorem addMember (h : Aloof setup heeds p) (group user : String) :
    Keeps setup p (addMember group user) := by
  refine .bind (h.log nofun) fun _ => .bind (h.meet _) fun effect => ?_
  split
  · exact .pure _
  · exact .modifyGet fun w => h.directory w _

theorem removeMember (h : Aloof setup heeds p) (group user : String) :
    Keeps setup p (removeMember group user) := by
  refine .bind (h.log nofun) fun _ => .bind (h.meet _) fun effect => ?_
  split
  · exact .pure _
  · exact .modifyGet fun w => h.directory w _

theorem invalidateUser (h : Aloof setup heeds p) (user : String) :
    Keeps setup p (invalidateUser user) :=
  .quietly <| .bind (h.log nofun) fun _ => .bind (.discard (h.meet _)) fun _ =>
    .modify fun w => h.eligible w _

theorem changeRole (h : Aloof setup heeds p) (key : RoleKey) (change : PolicyChange) :
    Keeps setup p (changeRole key change) := by
  have changed (operation : String) (call : Call) (other : call.kind ≠ .notify)
      (change : Cloud → Except Error Cloud) :
      Keeps setup p (retried operation call fun _ => changeCloud change) :=
    .retried h.books operation call (h.quiet _ other) fun _ _ =>
      Keeps.changeCloud h.cloud
  cases change with
  | inlinePolicy name document => exact changed _ (.putInlinePolicy key.arn name) nofun _
  | managedPolicy arn => exact changed _ (.attachManagedPolicy key.arn arn) nofun _

/-- Only a property that does not depend on the calls to listeners outlives one. -/
theorem announce (h : Aloof setup heeds p) (unheeded : heeds .notify = false) (r : Request)
    (previous : Option Status) : Keeps setup p (announce r previous) :=
  .quietly <| .bind (.log h.books unheeded) fun _ => .discard (h.meet _)

/-! ## Steps -/

theorem requireRequest (h : Aloof setup heeds p) (id : String) :
    Keeps setup p (requireRequest id) := by
  refine .bind (h.findRequest id) fun found => ?_
  split
  · exact .pure _
  · exact .throw _

theorem allowLists : Keeps setup p allowLists :=
  .bind .read fun _ => .bind .get fun _ => .pure _

theorem approvalRoute (h : Aloof setup heeds p) (target : Target) :
    Keeps setup p (approvalRoute target) := by
  refine .bind allowLists fun lists => ?_
  split
  · exact .bind (h.groupAttributes _) fun _ => .pure _
  · exact .pure _

theorem requireCapability {who : Identity} {c : Capability} {restricted : Bool} :
    Keeps setup p (requireCapability who c restricted) := by
  refine .bind (.bind allowLists fun _ => .pure _) fun permitted => ?_
  split
  · exact .throw _
  · exact .pure _

theorem recordStatus (h : Aloof setup heeds p) {r : Request} {status : Status} {actor : String}
    {comments : Option String} : Keeps setup p (recordStatus r status actor comments) :=
  .bind .now fun _ => .bind (h.saveRequest _) fun _ => .pure _

theorem join (h : Aloof setup heeds p) {r : Request} {route : Route} {group : String} :
    Keeps setup p (join r route group) := by
  refine .refuse (.bind (h.addMember _ _) fun outcome => ?_)
  split
  · exact .pure _
  · exact .pure _
  · exact .throw _

theorem leave (h : Aloof setup heeds p) {r : Request} : Keeps setup p (leave r) := by
  unfold Service.leave
  split
  · exact .throw _
  · refine .bind (h.removeMember _ _) fun outcome => ?_
    split
    · exact h.invalidateUser _
    · exact h.invalidateUser _
    · exact .throw _

theorem applyChange (h : Aloof setup heeds p) {r : Request} {key : RoleKey}
    {change : PolicyChange} : Keeps setup p (applyChange r key change) := by
  refine .bind (h.reading key true) fun found => ?_
  split
  · exact .throw _
  · refine .bind (h.saveRequest _) fun _ => ?_
    split
    · exact .bind (h.changeRole key change) fun _ => .pure _
    · exact .pure _

theorem approve (h : Aloof setup heeds p) {r : Request} {route : Route} {actor : String}
    {comments : Option String} : Keeps setup p (approve r route actor comments) := by
  unfold Service.approve
  split
  · exact .bind h.join fun _ => .bind h.recordStatus fun _ =>
      .bind (h.invalidateUser _) fun _ => .pure _
  · exact .bind (.lift _) fun key => .bind h.applyChange fun _ =>
      .bind h.recordStatus fun _ =>
        .bind (.quietly (.discard (h.reading key true))) fun _ => .pure _

theorem ensureNonePending (h : Aloof setup heeds p) {requester : String} {target : Target} :
    Keeps setup p (ensureNonePending requester target) := by
  refine .bind (h.findPending _ _) fun found => ?_
  split
  · exact .throw _
  · exact .pure _

theorem ensureNoOtherPending (h : Aloof setup heeds p) {r : Request} :
    Keeps setup p (ensureNoOtherPending r) := by
  refine .bind (h.findPending _ _) fun found => ?_
  split
  · split
    · exact .throw _
    · exact .pure _
  · exact .pure _

theorem reopen (h : Aloof setup heeds p) {who : Identity} {r : Request}
    {comments : Option String} : Keeps setup p (reopen who r comments) :=
  .bind .settings fun _ => .bind .now fun _ =>
    .refuse (.bind h.ensureNoOtherPending fun _ => h.recordStatus)

theorem step (h : Aloof setup heeds p) {who : Identity} {r : Request} {route : Route}
    {lists : AllowLists} {v : Verdict} : Keeps setup p (step who r route lists v) := by
  unfold Service.step
  split
  · exact .bind (.lift _) fun _ => h.approve
  · exact .bind (.lift _) fun _ => h.recordStatus
  · exact .bind (.lift _) fun _ => h.recordStatus
  · exact .bind (.lift _) fun _ => h.reopen
  · exact .bind (.lift _) fun _ => h.reopen
  · exact .bind requireCapability fun _ => .bind h.leave fun _ => h.recordStatus
  · exact .throw _
  · exact .throw _

/-! ## Whole operations -/

theorem updateStatus (h : Aloof setup heeds p) (unheeded : heeds .notify = false) (who : Identity)
    (id : String) (v : Verdict) : Keeps setup p (updateStatus who id v) :=
  .bind (h.requireRequest id) fun _ => .bind (.lift _) fun _ =>
    .bind (h.approvalRoute _) fun _ => .bind allowLists fun _ => .bind h.step fun changed =>
      .bind (h.announce unheeded _ _) fun _ => .pure changed

theorem updateProposal (h : Aloof setup heeds p) (who : Identity) (id : String)
    (proposed : PolicyChange) : Keeps setup p (updateProposal who id proposed) := by
  refine .bind (h.requireRequest id) fun r => .refuse ?_
  cases r.target with
  | group group => exact .throw _
  | policy account arn change =>
    refine .bind (h.approvalRoute _) fun _ => .bind allowLists fun _ =>
      .bind (.lift _) fun _ => .refuse (.bind (.lift _) fun _ => ?_)
    split
    · exact .bind h.ensureNoOtherPending fun _ => .bind .now fun _ =>
        .bind (h.saveRequest _) fun _ => .pure _
    · exact .bind .now fun _ => .bind (h.saveRequest _) fun _ => .pure _

theorem submit (h : Aloof setup heeds p) (unheeded : heeds .notify = false) (who : Identity)
    (s : Submission) : Keeps setup p (submit who s) := by
  refine .bind .now fun _ => .bind (.lift _) fun _ => .bind (h.approvalRoute _) fun route =>
    .bind (.lift _) fun _ => .bind h.ensureNonePending fun _ =>
      .bind (.modifyGet fun w => h.drawn w _) fun id => .bind (h.insertRequest _) fun _ =>
        .bind (.quietly (h.appendUserRequest _ _)) fun _ => ?_
  split
  · exact .bind h.approve fun r => .bind (h.announce unheeded _ _) fun _ => .pure r
  · exact .bind (h.announce unheeded _ _) fun _ => .pure _

theorem expire (h : Aloof setup heeds p) (unheeded : heeds .notify = false) (now : Timestamp)
    (r : Request) : Keeps setup p (expire now r) := by
  unfold Service.expire
  split
  · exact .pure _
  · refine .bind (.tryCatch (.bind h.leave fun _ => .pure _) fun _ => .pure _) fun left => ?_
    split
    · exact .pure _
    · exact .bind (h.saveRequest _) fun _ => .bind (h.announce unheeded _ _) fun _ => .pure _

theorem expireDue (h : Aloof setup heeds p) (unheeded : heeds .notify = false) (batch : Nat) :
    Keeps setup p (expireDue batch) := by
  have keeps (now : Timestamp) (limit : Nat) :
      SweepKeeps setup now limit (fun _ => p) fun _ => p := {
    lists := fun cursor _ holds =>
      (h.listExpired now cursor limit).ends holds (fun _ _ kept => kept) fun _ _ kept => kept
    ends := fun r _ _ holds =>
      (h.expire unheeded now r).ends holds (fun _ _ kept => kept) fun _ _ kept => kept
    stops := fun _ _ kept => kept }
  exact .of_ends fun w holds => (keeps w.now (max batch 1)).expireDue holds

end Aloof

/-- What depends on the clock and the plan alone is aloof. -/
theorem aloof_of_overlooks {setup : Setup} {p : World → Prop} (books : Overlooks p)
    (others : ∀ w left, left.clock = w.clock → left.plan = w.plan → p w → p left) :
    Aloof setup (fun _ => false) p where
  books := books
  quiet _ _ := rfl
  requests w _ := others w _ rfl rfl
  directory w _ := others w _ rfl rfl
  cloud w _ := others w _ rfl rfl
  eligible w _ := others w _ rfl rfl
  drawn w _ := others w _ rfl rfl
  reading _ force := .fetchRole {
    books := books
    quiet := ⟨rfl, rfl⟩
    fast := fun w _ => others w _ rfl rfl
    durable := fun w _ _ _ => others w _ rfl rfl } rfl force

end Service

namespace RequestCall

variable {setup : Setup} {w : World}

/-- What is aloof from the work on requests outlives every call about them. -/
theorem keeps_after {heeds : CallKind → Bool} {p : World → Prop} (c : RequestCall)
    (aloof : Service.Aloof setup heeds p) (unheeded : heeds .notify = false) (h : p w) :
    p (c.after setup w) := by
  cases c with
  | submit who s => exact aloof.submit unheeded who s w h
  | updateStatus who id v => exact aloof.updateStatus unheeded who id v w h
  | updateProposal who id proposed => exact aloof.updateProposal who id proposed w h
  | expireDue batch => exact aloof.expireDue unheeded batch w h

/-- The clock stands still during a call. -/
theorem clock_after (c : RequestCall) : (c.after setup w).clock = w.clock :=
  c.keeps_after (p := fun left => left.clock = w.clock)
    (Service.aloof_of_overlooks (fun _ _ alike _ h => alike.clock.trans h)
      fun _ _ same _ h => same.trans h) rfl rfl

theorem now_after (c : RequestCall) : (c.after setup w).now = w.now :=
  congrArg Instant.timestamp c.clock_after

theorem undisturbed_after {kind : CallKind} (c : RequestCall) (h : w.Undisturbed kind) :
    (c.after setup w).Undisturbed kind := by
  have others (w left : World) (_ : left.clock = w.clock) (plan : left.plan = w.plan)
      (h : w.Undisturbed kind) : left.Undisturbed kind := by
    rwa [World.Undisturbed, plan]
  exact c.keeps_after
    (Service.aloof_of_overlooks (fun _ _ alike _ h => h.rest alike.leftOver) others) rfl h

end RequestCall

end AccessBroker
