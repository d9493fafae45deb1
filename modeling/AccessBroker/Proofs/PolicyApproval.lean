import AccessBroker.Proofs.FailedCalls
import AccessBroker.Proofs.RoleCache

/-! # What the approval of a change of policies leaves behind

The role is read before it is changed and once more afterwards.  The first
reading tells how the policy was, the second one goes into both tiers.
-/

namespace AccessBroker

namespace Service

open World (Alike)

variable {setup : Setup} {w mid left : World} {r answer : Request} {key : RoleKey}
  {change : PolicyChange} {snapshot : Json} {before after : RoleDocument}

/-- How the policy of a change was before: the inline policy, if there was one, or all managed
policies that were attached, in ascending order and each once. -/
def WasBefore (role : RoleDocument) : PolicyChange → Json → Prop
  | .inlinePolicy name _, previous => previous = (role.inlinePolicies.get? name).getD .null
  | .managedPolicy _, previous =>
    ∃ attachments : List Attachment, previous = .array (attachments.map fun a => .ofTree a.toTree) ∧
      (attachments.Pairwise fun a b => a.before b = true) ∧
      ∀ a, a ∈ attachments ↔ a ∈ role.managedPolicies

theorem wasBefore_previousPolicy (settings : Settings) (now : Timestamp) :
    WasBefore before change (previousPolicy (finalize settings now before) change) := by
  cases change with
  | inlinePolicy name document => exact rfl
  | managedPolicy arn =>
    exact ⟨Attachment.sort before.managedPolicies, rfl, Attachment.pairwise_sort _,
      fun _ => Attachment.mem_sort⟩

/-- A role took the change of a request, which is stored with the policy as it was before.  Both
tiers hold the role as it is now. -/
structure PolicyChanged (setup : Setup) (w : World) (r : Request) (key : RoleKey)
    (change : PolicyChange) (before after : RoleDocument) (left : World) : Prop where
  stored : left.requests.find? r.id = some r
  cloud : Cloud.Took key change w.cloud left.cloud before after
  noted : ∃ previous, WasBefore before change previous ∧ r.snapshot = some (.object [
    ("arn", .string before.arn),
    ("fetched_at", .ofTree w.now.toTree),
    ("policy", .string change.identifier),
    ("previous", previous)])
  fast : left.fast.get? key = some ⟨finalize setup.settings w.now after, w.now⟩
  durable : left.durable.find? key =
    some (durableRow setup.settings key (finalize setup.settings w.now after))

def PolicyEffect (setup : Setup) (w : World) (r : Request) (left : World) : Prop :=
  ∀ account arn change, r.status = .approved → r.target = .policy account arn change →
    ∃ key before after, RoleKey.of account arn = .ok key ∧
      PolicyChanged setup w r key change before after left

theorem ChangeShown.changed (shown : ChangeShown setup mid key change snapshot before after left)
    (cloud : mid.cloud = w.cloud) (now : mid.now = w.now)
    (stored : left.requests.find? r.id = some r) (same : r.snapshot = some snapshot) :
    PolicyChanged setup w r key change before after left := by
  obtain ⟨⟨-, noted, took⟩, fast, durable⟩ := shown
  rw [cloud] at took
  rw [now] at noted fast durable
  refine ⟨stored, took, ⟨_, wasBefore_previousPolicy setup.settings w.now, ?_⟩, fast, durable⟩
  rw [same, noted]
  rfl

theorem PolicyChanged.alike (h : PolicyChanged setup w r key change before after mid)
    (alike : Alike mid left) : PolicyChanged setup w r key change before after left where
  stored := by rw [alike.requests]; exact h.stored
  cloud := by rw [alike.cloud]; exact h.cloud
  noted := h.noted
  fast := by rw [alike.fast]; exact h.fast
  durable := by rw [alike.durable]; exact h.durable

theorem PolicyEffect.alike (h : PolicyEffect setup w r mid) (alike : Alike mid left) :
    PolicyEffect setup w r left := by
  intro account arn change approved target
  obtain ⟨key, before, after, own, changed⟩ := h account arn change approved target
  exact ⟨key, before, after, own, changed.alike alike⟩

theorem PolicyEffect.of_unapproved (h : r.status ≠ .approved) : PolicyEffect setup w r left :=
  fun _ _ _ approved _ => absurd approved h

theorem Approved.policyEffect {actor : String} {comments : Option String}
    (done : Approved setup mid r actor comments answer left) (answers : mid.AllAnswer setup)
    (cloud : mid.cloud = w.cloud) (now : mid.now = w.now) : PolicyEffect setup w answer left := by
  intro account arn change _ target
  cases done with
  | joined group _ _ _ =>
    have target : r.target = .policy account arn change := target
    cases group.symm.trans target
  | applied policy own alike shown =>
    have target : r.target = .policy account arn change := target
    cases policy.symm.trans target
    obtain ⟨before, after, shown⟩ := shown answers
    refine ⟨_, before, after, own, shown.changed cloud now ?_ rfl⟩
    rw [alike.requests, RequestStore.find?_put]
    exact if_pos rfl

theorem Reviewed.policyEffect {who : Identity} {v : Verdict}
    (done : Reviewed setup mid who r v answer left) (answers : mid.AllAnswer setup)
    (cloud : mid.cloud = w.cloud) (now : mid.now = w.now) : PolicyEffect setup w answer left := by
  cases done with
  | recorded _ next _ => exact .of_unapproved (ne_approved_of_recorded next)
  | approved _ done => exact done.policyEffect answers cloud now
  | removed _ _ _ _ => exact .of_unapproved (by simp [moved])

theorem policyEffect_updateStatus (answers : w.AllAnswer setup) (who : Identity) (id : String)
    (v : Verdict) :
    Ends setup w (updateStatus who id v) (PolicyEffect setup w) fun _ _ => True := by
  refine ends_updateStatus (fun r mid answer left after _ alike _ done alike' => ?_)
    (fun _ _ _ _ _ _ _ => trivial) fun _ _ _ => trivial
  have effect := done.policyEffect (answers.rest alike.leftOver) alike.cloud alike.now
  exact effect.alike alike'

theorem policyEffect_submit (answers : w.AllAnswer setup) (who : Identity) (s : Submission) :
    Ends setup w (submit who s) (PolicyEffect setup w) fun _ _ => True := by
  refine ends_submit (fun _ _ _ _ _ => trivial) fun route noted just => ?_
  have pending : (nextRequest w who s).status = .pending := rfl
  refine ends_settle just.stored (fun left _ => .of_unapproved (by simp [pending]))
    (fun answer mid left done alike' => ?_) fun _ _ _ => trivial
  have effect : PolicyEffect setup w answer mid :=
    done.policyEffect (answers.rest just.alike.leftOver) just.alike.cloud just.alike.now
  exact effect.alike alike'

/-- In a world where every call to another system is answered, a review or a submission that ends
with an approved change of policies has made the change and nothing else in the cloud, or left the
cloud alone where the change was there already.  The stored request tells how the policy was, and
both tiers hold the role as it is now. -/
theorem approved_policy_changed (answers : w.AllAnswer setup) :
    (∀ who id v r left, (updateStatus who id v).perform setup w = (.ok r, left) →
      PolicyEffect setup w r left) ∧
    ∀ who s r left, (submit who s).perform setup w = (.ok r, left) →
      PolicyEffect setup w r left :=
  ⟨fun who id v _ _ run => (policyEffect_updateStatus answers who id v).of_ok run,
    fun who s _ _ run => (policyEffect_submit answers who s).of_ok run⟩

/-! ## A change that is made at once -/

def forAuditor : Submission where
  target := .policy "123456789012" "arn:aws:iam::123456789012:role/auditor"
    (.managedPolicy "arn:aws:iam::aws:policy/ReadOnlyAccess")
  justification := "audit"
  expiresAt := none

/-- `root` asks for a policy and the role of the cloud has it from then on. -/
theorem root_attaches_policy :
    ∃ r left key before after,
      (submit (.of "root" []) forAuditor).perform rootSetup RoleRun.withAuditor = (.ok r, left) ∧
      PolicyChanged rootSetup RoleRun.withAuditor r key
        (.managedPolicy "arn:aws:iam::aws:policy/ReadOnlyAccess") before after left := by
  have answers : RoleRun.withAuditor.AllAnswer rootSetup :=
    World.allAnswer_of_unplanned rfl rootSetup
  have approved : ((submit (.of "root" []) forAuditor).perform rootSetup
      RoleRun.withAuditor).1.toOption.map (fun r => (r.status, r.target)) =
        some (.approved, forAuditor.target) := by decide +kernel
  rcases run : (submit (.of "root" []) forAuditor).perform rootSetup RoleRun.withAuditor with
    ⟨e | r, left⟩
  · rw [run] at approved
    cases approved
  · rw [run] at approved
    obtain ⟨status, target⟩ := Prod.mk.inj (Option.some.inj approved)
    obtain ⟨key, before, after, -, changed⟩ :=
      (approved_policy_changed answers).2 _ _ r left run _ _ _ status target
    exact ⟨r, left, key, before, after, rfl, changed⟩

end Service

end AccessBroker
