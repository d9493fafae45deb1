import AccessBroker.Proofs.Capabilities
import AccessBroker.Proofs.EligibleRoles
import AccessBroker.Proofs.Outcomes

/-! # Who decides about policies

The right to decide about policies is looked up in two places: in the list of
approvers that a route carries, and in the allow-lists themselves.  Both give
one answer, and where it is that nobody decides, a change of policies waits.
-/

namespace AccessBroker

namespace NameSet

/-- An identity is in the union of two sets if it is in one of them. -/
theorem isAmong_union {who : Identity} {s t : NameSet} :
    who.isAmong (s.union t).toList = true ↔
      who.isAmong s.toList = true ∨ who.isAmong t.toList = true := by
  simp only [Identity.isAmong, List.any_eq_true, ← mem_iff, mem_union]
  constructor
  · rintro ⟨name, listed | listed, named⟩
    · exact .inl ⟨name, listed, named⟩
    · exact .inr ⟨name, listed, named⟩
  · rintro (⟨name, listed, named⟩ | ⟨name, listed, named⟩)
    · exact ⟨name, .inl listed, named⟩
    · exact ⟨name, .inr listed, named⟩

end NameSet

def SelfApproves (fixed : FixedLists) (document : ConfigDocument) (x : String) : Prop :=
  x ∈ fixed.selfApprovalGroups ∨
    ConfigDocument.Lists (document.json.field? "self_approval_groups") x

namespace AllowLists

variable {lists : AllowLists} {who : Identity} {fixed : FixedLists} {document : ConfigDocument}

/-- The right to approve does not depend on whether a target is restricted. -/
theorem permits_approveRequests (restricted : Bool) :
    lists.permits who .approveRequests restricted = true ↔
      lists.isAdmin who = true ∨ who.isAmong (lists.holders .approveRequests).toList = true := by
  simp [permits, Capability.modifiesMembers]

theorem selfApproves_merge_iff :
    who.isAmong (merge fixed document).selfApprovalGroups.toList = true ↔
      ∃ x, SelfApproves fixed document x ∧ Text.isAllBlank x = false ∧ who.isNamed x = true :=
  isAmong_merged

/-- No name is written where those are who decide about policies. -/
def Undecided (fixed : FixedLists) (document : ConfigDocument) : Prop :=
  ∀ x, Text.isAllBlank x = false →
    ¬ Entitles fixed document .approveRequests x ∧ ¬ SelfApproves fixed document x

end AllowLists

namespace Service

open AllowLists (autoApproves permits_approveRequests)
open World (Alike)

variable {setup : Setup} {w : World} {lists : AllowLists} {who : Identity}
  {account arn : String} {change : PolicyChange}

/-! ## Two ways to one answer -/

/-- The approvers of a policy are those who have the capability. -/
theorem isAmong_approvers (restricted : Bool) :
    who.isAmong (policyRoute lists).approvers = true ↔
      lists.permits who .approveRequests restricted = true := by
  rw [permits_approveRequests, policyRoute, NameSet.isAmong_union, AllowLists.isAdmin]

theorem autoApproves_policyRoute (restricted : Bool) :
    autoApproves who (policyRoute lists).approvers (policyRoute lists).selfApprovalGroups
        (policyRoute lists).openWhenUnowned = true ↔
      lists.permits who .approveRequests restricted = true ∨
        who.isAmong lists.selfApprovalGroups.toList = true := by
  have closed : (policyRoute lists).openWhenUnowned = false := rfl
  have own : (policyRoute lists).selfApprovalGroups = lists.selfApprovalGroups.toList := rfl
  rw [autoApproves, closed, own, Bool.false_and, Bool.false_or, Bool.or_eq_true,
    isAmong_approvers restricted]
  exact Or.comm

/-- Administrators are among the approvers, so they are not asked for twice. -/
theorem isReviewer_policyRoute (restricted : Bool) :
    isReviewer lists who (.policy account arn change) (policyRoute lists) = true ↔
      lists.permits who .approveRequests restricted = true ∨ who.isNamed arn = true := by
  have admin : lists.isAdmin who = true → lists.permits who .approveRequests restricted = true := by
    intro admin
    exact (permits_approveRequests restricted).2 (.inl admin)
  rw [isReviewer, AllowLists.canApprove, Bool.or_eq_true, Bool.or_eq_true,
    isAmong_approvers restricted]
  constructor
  · rintro ((isAdmin | holds) | named)
    · exact .inl (admin isAdmin)
    · exact .inl holds
    · exact .inr named
  · rintro (holds | named)
    · exact .inl (.inr holds)
    · exact .inr named

theorem autoApproves_undecided
    (undecided : AllowLists.Undecided setup.lists w.published.document) (who : Identity) :
    autoApproves who (policyRoute (listsIn setup w)).approvers
      (policyRoute (listsIn setup w)).selfApprovalGroups
      (policyRoute (listsIn setup w)).openWhenUnowned = false := by
  rw [Bool.eq_false_iff, ne_eq, autoApproves_policyRoute false]
  rintro (holds | self)
  · obtain ⟨-, x, entitles, solid, -⟩ := AllowLists.permits_merge_iff.1 holds
    exact (undecided x solid).1 entitles
  · obtain ⟨x, self, solid, -⟩ := AllowLists.selfApproves_merge_iff.1 self
    exact (undecided x solid).2 self

/-! ## What the services answer -/

theorem perform_approvalRoute_policy (setup : Setup) (w : World) (account arn : String)
    (change : PolicyChange) :
    (approvalRoute (.policy account arn change)).perform setup w =
      (.ok (policyRoute (listsIn setup w)), w) := rfl

theorem perform_hasCapability (setup : Setup) (w : World) (who : Identity) (c : Capability)
    (restricted : Bool) :
    (hasCapability who c restricted).perform setup w =
      (.ok ((listsIn setup w).permits who c restricted), w) := rfl

/-- Whatever the configuration, a policy has a route.  Its approvers are those who can approve
requests; its requests are approved at once for them and for the members of the groups that
approve their own, and are decided by them and by the role itself.  Where no name is written in any
of the lists, nothing is approved at once. -/
theorem policyRoute_agrees (setup : Setup) (w : World) (account arn : String)
    (change : PolicyChange) :
    ∃ route, (approvalRoute (.policy account arn change)).perform setup w = (.ok route, w) ∧
      (∀ who restricted, ∃ holds,
        (hasCapability who .approveRequests restricted).perform setup w = (.ok holds, w) ∧
        (who.isAmong route.approvers = true ↔ holds = true) ∧
        (autoApproves who route.approvers route.selfApprovalGroups route.openWhenUnowned = true ↔
          holds = true ∨ who.isAmong (listsIn setup w).selfApprovalGroups.toList = true) ∧
        (isReviewer (listsIn setup w) who (.policy account arn change) route = true ↔
          holds = true ∨ who.isNamed arn = true)) ∧
      (AllowLists.Undecided setup.lists w.published.document → ∀ who,
        autoApproves who route.approvers route.selfApprovalGroups route.openWhenUnowned =
          false) := by
  refine ⟨_, perform_approvalRoute_policy setup w account arn change, ?_, autoApproves_undecided⟩
  intro who restricted
  refine ⟨_, perform_hasCapability setup w who .approveRequests restricted, ?_, ?_, ?_⟩
  · exact isAmong_approvers restricted
  · exact autoApproves_policyRoute restricted
  · exact isReviewer_policyRoute restricted

/-! ## What follows for submissions -/

/-- Where nobody decides about policies, a submitted change waits, whoever submits it. -/
theorem submit_waits {s : Submission} (target : s.target = .policy account arn change)
    (undecided : AllowLists.Undecided setup.lists w.published.document) :
    Ends setup w (submit who s) (fun r _ => r.status = .pending) fun _ _ => True := by
  apply ends_submit
  · exact fun _ _ _ _ _ => trivial
  · intro route noted just
    have routed : route = policyRoute (listsIn setup w) := by
      have routed := just.admitted.routed
      rw [target] at routed
      exact (Option.some.inj routed).symm
    have waits : autoApproves who route.approvers route.selfApprovalGroups route.openWhenUnowned ≠
        true := by
      rw [routed, autoApproves_undecided undecided who]
      exact Bool.false_ne_true
    rw [settle, if_neg waits]
    simp only [ends_bind, ends_pure]
    exact ends_announce fun left _ => rfl

end Service

/-! ## A team that decides -/

def securityDecides : ConfigDocument :=
  ⟨.object [("capabilities",
    .object [("approve_requests", .array [.string " Security@Example.com "])])], rfl⟩

namespace Service

theorem undecided_empty : AllowLists.Undecided .empty .empty := by
  intro x _
  constructor
  · intro entitles
    cases entitles with
    | fixedAdmin listed => cases listed
    | fixedHolder listed => cases listed
    | admin listed =>
      obtain ⟨items, here, -⟩ := listed
      cases here
    | holder listed =>
      obtain ⟨items, here, -⟩ := listed
      cases here
  · rintro (listed | ⟨items, here, -⟩)
    · cases listed
    · cases here

/-- A member of the team is an approver, and where no document is in force nothing is approved at
once. -/
theorem security_decides :
    (∃ route, (approvalRoute (.policy "1" "app" (.managedPolicy "admin"))).perform default
        (inForce securityDecides) = (.ok route, inForce securityDecides) ∧
      (Identity.of "dev" ["SECURITY@example.com"]).isAmong route.approvers = true) ∧
    ∃ route, (approvalRoute (.policy "1" "app" (.managedPolicy "admin"))).perform default default =
        (.ok route, default) ∧
      ∀ who, AllowLists.autoApproves who route.approvers route.selfApprovalGroups
        route.openWhenUnowned = false := by
  constructor
  · obtain ⟨route, found, agrees, -⟩ := policyRoute_agrees default (inForce securityDecides) "1"
      "app" (.managedPolicy "admin")
    obtain ⟨holds, asked, approver, -, -⟩ := agrees (.of "dev" ["SECURITY@example.com"]) false
    have holder : holds = true := by
      rw [perform_hasCapability] at asked
      rw [← Except.ok.inj (Prod.mk.inj asked).1, listsIn, AllowLists.permits_merge_iff]
      refine ⟨by simp, " Security@Example.com ", .holder ?_, ?_, ?_⟩
      · exact ⟨[.string " Security@Example.com "], by decide +kernel, _, List.mem_cons_self, rfl⟩
      · decide +kernel
      · decide +kernel
    exact ⟨route, found, approver.2 holder⟩
  · obtain ⟨route, found, -, waits⟩ := policyRoute_agrees default default "1" "app"
      (.managedPolicy "admin")
    exact ⟨route, found, waits undecided_empty⟩

end Service

end AccessBroker
