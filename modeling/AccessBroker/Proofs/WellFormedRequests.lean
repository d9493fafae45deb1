import AccessBroker.Proofs.Bystanders
import AccessBroker.Proofs.Lifecycle
import AccessBroker.Proofs.NormalForms

/-! # Stored requests are well formed

What a request asks for is checked when it is handed in, and again when another
change is proposed.  Approvals, reopenings and sweeps look at nothing of the
kind, and rely on it: the key of the role has to come out, the membership has to
be one that can end.
-/

namespace AccessBroker

/-- What later steps take for granted in a stored request. -/
structure Request.WellFormed (r : Request) : Prop where
  valid : r.target.validate = .ok ()
  group : ∀ name, r.target = .group name →
    r.snapshot = none ∧ ∀ t, r.expiresAt = some t → r.requestTime < t
  policy : ∀ account arn change, r.target = .policy account arn change →
    (∃ key, RoleKey.of account arn = .ok key) ∧ r.expiresAt = none
  justification : Text.trim r.justification = r.justification ∧ r.justification ≠ ""
  requester : Text.trim r.requester = r.requester ∧ Text.lower r.requester = r.requester
  inOrder : r.requestTime ≤ r.lastUpdated
  expired : r.status = .expired → (∃ name, r.target = .group name) ∧
    r.updatedBy = Service.systemActor ∧ ∃ t, r.expiresAt = some t ∧ t ≤ r.lastUpdated

/-! ## Submissions -/

theorem Submission.validate_eq_ok {s : Submission} {now : Timestamp}
    (h : s.validate now = .ok ()) :
    s.target.validate = .ok () ∧ Text.isAllBlank s.justification = false ∧
      s.validateTarget now = .ok () := by
  cases target : s.target.validate with
  | error e =>
    simp only [validate, target, bind, Except.bind] at h
    cases h
  | ok =>
    simp only [validate, target, bind, Except.bind, throw, throwThe, MonadExceptOf.throw] at h
    by_cases blank : Text.isAllBlank s.justification = true
    · rw [if_pos blank] at h
      cases h
    · rw [if_neg blank] at h
      exact ⟨rfl, by simpa using blank, h⟩

theorem Submission.future_of_validateTarget {s : Submission} {now t : Timestamp} {name : String}
    (h : s.validateTarget now = .ok ()) (target : s.target = .group name)
    (expires : s.expiresAt = some t) : now < t := by
  simp only [validateTarget, target, expires, Option.any_some, decide_eq_true_eq] at h
  by_cases past : t ≤ now
  · rw [if_pos past] at h
    cases h
  · exact Int.not_le.1 past

theorem Submission.key_of_validateTarget {s : Submission} {now : Timestamp} {account arn : String}
    {change : PolicyChange} (h : s.validateTarget now = .ok ())
    (target : s.target = .policy account arn change) :
    (∃ key, RoleKey.of account arn = .ok key) ∧ s.expiresAt = none := by
  simp only [validateTarget, target] at h
  by_cases expires : s.expiresAt.isSome = true
  · rw [if_pos expires] at h
    cases h
  · rw [if_neg expires] at h
    cases found : RoleKey.of account arn with
    | error e =>
      rw [found] at h
      cases h
    | ok key => exact ⟨⟨key, rfl⟩, by simpa using expires⟩

variable {setup : Setup} {w : World} {c : RequestCall} {who : Identity} {s : Submission}
  {r r' : Request}

theorem newRequest_wellFormed {id user : String} {groups : List String} {now : Timestamp}
    (valid : s.validate now = .ok ()) (named : who = .of user groups) :
    (Service.newRequest id who s now).WellFormed := by
  obtain ⟨target, solid, fits⟩ := Submission.validate_eq_ok valid
  refine ⟨target, ?_, ?_, ⟨Text.trim_trim s.justification, ?_⟩, ?_, Int.le_refl _, ?_⟩
  · intro name group
    exact ⟨rfl, fun t expires => Submission.future_of_validateTarget fits group expires⟩
  · intro account arn change policy
    exact Submission.key_of_validateTarget fits policy
  · show Text.trim s.justification ≠ ""
    rw [ne_eq, Text.trim_eq_empty_iff, solid]
    exact Bool.false_ne_true
  · subst named
    exact ⟨Text.trim_normalize user, Text.lower_normalize user⟩
  · intro expired
    cases expired

/-- A new request is well formed, also if it was approved at once. -/
theorem Created.wellFormed {user : String} {groups : List String}
    (created : Created setup w who s r) (named : who = .of user groups) :
    r.WellFormed ∧ r.requestTime = w.now := by
  have fresh (id : String) : (Service.newRequest id who s w.now).WellFormed :=
    newRequest_wellFormed created.valid named
  obtain ⟨route, -, -, -, started⟩ := created.started
  cases started with
  | waiting id => exact ⟨fresh id, rfl⟩
  | prepared id _ policy =>
    have h := fresh id
    exact ⟨{ h with group := fun name group => absurd group (policy name) }, rfl⟩
  | approved id _ snapshotKept =>
    have h := fresh id
    refine ⟨{ h with group := ?_, inOrder := Int.le_refl _, expired := ?_ }, rfl⟩
    · intro name group
      have kept := snapshotKept.resolve_right fun policy => policy name group
      exact ⟨kept, (h.group name group).2⟩
    · intro expired
      cases expired

/-! ## Edits -/

/-- Nobody moves a request to its expiry by hand. -/
theorem MayMove.ne_expired {next : Status} (may : MayMove setup w who r next) :
    next ≠ .expired := by
  rintro rfl
  obtain ⟨route, -, allowed⟩ := may
  cases former : r.status <;> simp only [former] at allowed

theorem Request.WellFormed.edit (h : r.WellFormed) (past : r.requestTime ≤ w.now)
    (edit : Edit setup w c r r') : r'.WellFormed := by
  cases edit with
  | move may snapshotKept =>
    refine { h with group := ?_, inOrder := past, expired := ?_ }
    · intro name group
      have kept := snapshotKept.resolve_right fun approval => approval.2 name group
      exact ⟨kept.trans (h.group name group).1, (h.group name group).2⟩
    · intro expired
      exact absurd expired may.ne_expired
  | prepare _ _ policy => exact { h with group := fun name group => absurd group (policy name) }
  | propose pending target _ valid =>
    refine { h with
      valid := valid, group := ?_, policy := ?_, inOrder := past, expired := ?_ }
    · intro name group
      cases group
    · intro account arn change policy
      cases policy
      exact h.policy _ _ _ target
    · intro expired
      rw [pending] at expired
      cases expired
  | expire due target =>
    obtain ⟨-, t, expires, elapsed⟩ := Request.isPastExpiry_iff.1 due
    exact { h with inOrder := past, expired := fun _ => ⟨⟨_, target⟩, rfl, t, expires, elapsed⟩ }

/-! ## Calls and runs -/

/-- Whoever submits is the identity of some user, however the name was spelled. -/
def RequestCall.FromUser : RequestCall → Prop
  | submit who _ => ∃ user groups, who = Identity.of user groups
  | updateStatus .. | updateProposal .. | expireDue _ => True

def World.AllWellFormed (w : World) : Prop :=
  ∀ r ∈ w.requests.all, r.WellFormed ∧ r.requestTime ≤ w.now

theorem RequestCall.allWellFormed_after (setup : Setup) (c : RequestCall) (named : c.FromUser)
    (h : w.AllWellFormed) : (c.after setup w).AllWellFormed := by
  intro r' stored
  rw [c.now_after]
  rcases RequestCall.stored_after stored with here | ⟨r, here, edit⟩ | ⟨who, s, submitted, created⟩
  · exact h r' here
  · obtain ⟨formed, past⟩ := h r here
    refine ⟨formed.edit past edit, ?_⟩
    rw [edit.continues.requestTime]
    exact past
  · subst submitted
    obtain ⟨user, groups, here⟩ := named
    obtain ⟨formed, now⟩ := created.wellFormed here
    exact ⟨formed, Int.le_of_eq (congrArg Timestamp.seconds now)⟩

/-- The worlds that are reached from one without requests, by calls, while the clock is never
turned back.  In between anything but the requests may change. -/
inductive World.Reached : World → Prop where
  | start {w : World} (empty : w.requests.all = []) : Reached w
  | move {w moved : World} (reached : Reached w) (stay : w.RequestsStay moved)
    (later : w.clock.micros ≤ moved.clock.micros) : Reached moved
  | call {w : World} (reached : Reached w) (setup : Setup) (c : RequestCall) (named : c.FromUser) :
    Reached (c.after setup w)

theorem World.Reached.allWellFormed (reached : w.Reached) : w.AllWellFormed := by
  induction reached with
  | start empty =>
    intro r stored
    rw [empty] at stored
    cases stored
  | move _ stay later ih =>
    intro r stored
    rw [stay] at stored
    obtain ⟨formed, past⟩ := ih r stored
    exact ⟨formed, Int.le_trans past (World.now_le_now later)⟩
  | call _ setup c named ih => exact c.allWellFormed_after setup named ih

/-- Every request that is ever stored is well formed. -/
theorem World.Reached.requests_wellFormed (reached : w.Reached) :
    ∀ r ∈ w.requests.all, r.WellFormed := by
  intro r stored
  exact (reached.allWellFormed r stored).1

/-! ## A membership that has run out -/

namespace World

def withClub : World :=
  { (default : World) with
    directory := Directory.empty.putAttributes "club" ⟨[], [], false, true⟩ }

def clubJoined : World :=
  (RequestCall.submit (.of " Alice" ["staff"])
    ⟨.group "club", "chess ", some (.clamp 3600)⟩).after default withClub

def clubOver : World :=
  clubJoined.atTime ⟨3600000000, by decide, by decide⟩

def clubLeft : World :=
  (RequestCall.expireDue 10).after default clubOver

/-- The request of `alice` has expired, and is well formed. -/
theorem clubLeft_wellFormed :
    ∃ r ∈ clubLeft.requests.all, r.status = .expired ∧ r.requester = "alice" ∧ r.WellFormed := by
  have joined : clubJoined.Reached := .call (.start rfl) default _ ⟨_, _, rfl⟩
  have later : clubJoined.clock.micros ≤ clubOver.clock.micros := by
    rw [clubJoined, RequestCall.clock_after]
    decide
  have ended : clubOver.Reached := .move joined rfl later
  have left : clubLeft.Reached := .call ended default _ trivial
  have there : (clubLeft.requests.all.any fun r =>
      r.status = .expired && r.requester = "alice") = true := by
    decide +kernel
  obtain ⟨r, stored, shown⟩ := List.any_eq_true.1 there
  simp only [Bool.and_eq_true, decide_eq_true_eq] at shown
  exact ⟨r, stored, shown.1, shown.2, left.requests_wellFormed r stored⟩

end World

end AccessBroker
