import AccessBroker.Broker.Approval
import AccessBroker.Proofs.Roles

/-! # What a change of policies does to a role

A change writes one inline policy or attaches one managed policy, unless the
role carries it already.  All other policies of the role, and all other roles,
stay as they are.
-/

namespace AccessBroker

/-! ## One role -/

def RoleDocument.Carries (d : RoleDocument) : PolicyChange → Prop
  | .inlinePolicy name document =>
    ∃ held, d.inlinePolicies.get? name = some held ∧ held.same document = true
  | .managedPolicy arn => ∃ a ∈ d.managedPolicies, a.arn = arn

/-- The role carries the change, and nothing else of it is different.  What was carried before is
left as it was. -/
structure RoleDocument.Took (before : RoleDocument) (change : PolicyChange) (after : RoleDocument) :
    Prop where
  carries : after.Carries change
  spared : before.Carries change → after = before
  others : after = { before with
    inlinePolicies := after.inlinePolicies, managedPolicies := after.managedPolicies }
  inline : ∀ name, (∀ document, change ≠ .inlinePolicy name document) →
    after.inlinePolicies.get? name = before.inlinePolicies.get? name
  written : ∀ name document, change = .inlinePolicy name document → ¬ before.Carries change →
    after.inlinePolicies.get? name = some document
  managed : after.managedPolicies = before.managedPolicies ∨
    ∃ a : Attachment, change = .managedPolicy a.arn ∧
      after.managedPolicies = before.managedPolicies ++ [a]

section

variable {d : RoleDocument} {change : PolicyChange}

theorem hasManagedPolicy_iff {arn : String} :
    d.hasManagedPolicy arn = true ↔ ∃ a ∈ d.managedPolicies, a.arn = arn := by
  simp [RoleDocument.hasManagedPolicy]

theorem isApplied_iff : Service.isApplied d change = true ↔ d.Carries change := by
  cases change with
  | inlinePolicy name document =>
    simp only [Service.isApplied, RoleDocument.Carries, Option.any_eq_true]
  | managedPolicy arn => exact hasManagedPolicy_iff

/-- The form in which a role is kept carries what the role does. -/
theorem carries_finalize {settings : Settings} {now : Timestamp} :
    (Service.finalize settings now d).Carries change ↔ d.Carries change := by
  cases change with
  | inlinePolicy name document => exact Iff.rfl
  | managedPolicy arn =>
    have same (a : Attachment) :
        a ∈ (Service.finalize settings now d).managedPolicies ↔ a ∈ d.managedPolicies :=
      Attachment.mem_sort
    simp only [RoleDocument.Carries, same]

namespace RoleDocument.Took

theorem of_carries (carries : d.Carries change) : d.Took change d where
  carries := carries
  spared _ := rfl
  others := rfl
  inline _ _ := rfl
  written _ _ _ lacks := absurd carries lacks
  managed := .inl rfl

theorem of_inlinePolicy {name : String} {document : Json}
    (lacks : ¬ d.Carries (.inlinePolicy name document)) :
    d.Took (.inlinePolicy name document)
      { d with inlinePolicies := d.inlinePolicies.insert name document } where
  carries := ⟨document, by rw [Table.get?_insert, if_pos rfl], Json.Tree.same_self _⟩
  spared carries := absurd carries lacks
  others := rfl
  inline other differs := by
    rw [Table.get?_insert, if_neg]
    rintro rfl
    exact differs document rfl
  written other proposed same _ := by
    cases same
    rw [Table.get?_insert, if_pos rfl]
  managed := .inl rfl

theorem of_managedPolicy (a : Attachment) (lacks : ¬ d.Carries (.managedPolicy a.arn)) :
    d.Took (.managedPolicy a.arn) { d with managedPolicies := d.managedPolicies ++ [a] } where
  carries := ⟨a, List.mem_append_right _ (List.mem_singleton_self a), rfl⟩
  spared carries := absurd carries lacks
  others := rfl
  inline _ _ := rfl
  written _ _ same _ := nomatch same
  managed := .inr ⟨a, rfl, rfl⟩

/-- A role that takes a change is still the same role. -/
theorem ensureDescribes {after : RoleDocument} (h : d.Took change after) (key : RoleKey) :
    after.ensureDescribes key = d.ensureDescribes key := by
  rw [h.others]
  rfl

end RoleDocument.Took

end

/-! ## All roles -/

structure Cloud.Took (key : RoleKey) (change : PolicyChange) (before after : Cloud)
    (d d' : RoleDocument) : Prop where
  was : before.role? key = some d
  is : after.role? key = some d'
  role : d.Took change d'
  others : ∀ other, other ≠ key → after.role? other = before.role? other
  spared : d.Carries change → after = before

namespace Cloud

variable {c changed : Cloud} {key : RoleKey} {change : PolicyChange} {d d' : RoleDocument}

theorem Took.of_carries (held : c.role? key = some d) (carries : d.Carries change) :
    Took key change c c d d where
  was := held
  is := held
  role := .of_carries carries
  others _ _ := rfl
  spared _ := rfl

/-- Only the role is written anew. -/
theorem Took.of_insert (held : c.role? key = some d) (lacks : ¬ d.Carries change)
    (role : d.Took change d') : Took key change c ⟨c.roles.insert key d'⟩ d d' where
  was := held
  is := by rw [role?, Registry.get?_insert, if_pos rfl]
  role := role
  others other differs := by rw [role?, Registry.get?_insert, if_neg differs, role?]
  spared carries := absurd carries lacks

def makeChange (c : Cloud) (key : RoleKey) : PolicyChange → Except Error Cloud
  | .inlinePolicy name document => c.putInlinePolicy key name document
  | .managedPolicy arn => c.attachManagedPolicy key arn

theorem makeChange_eq_error {e : Error} (h : c.makeChange key change = .error e) :
    c.role? key = none := by
  cases held : c.role? key with
  | none => rfl
  | some d =>
    cases change with
    | inlinePolicy name document => simp [Cloud.makeChange, putInlinePolicy, held] at h
    | managedPolicy arn =>
      simp only [Cloud.makeChange, attachManagedPolicy, held] at h
      split at h <;> cases h

theorem took_of_makeChange (held : c.role? key = some d) (lacks : ¬ d.Carries change)
    (h : c.makeChange key change = .ok changed) : ∃ d', Took key change c changed d d' := by
  cases change with
  | inlinePolicy name document =>
    simp only [Cloud.makeChange, putInlinePolicy, held] at h
    cases h
    exact ⟨_, .of_insert held lacks (.of_inlinePolicy lacks)⟩
  | managedPolicy arn =>
    have unattached : ¬ d.hasManagedPolicy arn = true := fun has =>
      lacks (hasManagedPolicy_iff.1 has)
    simp only [Cloud.makeChange, attachManagedPolicy, held, if_neg unattached] at h
    cases h
    exact ⟨_, .of_insert held lacks (.of_managedPolicy ⟨_, arn⟩ lacks)⟩

end Cloud

namespace Service

open World (Alike)

variable {setup : Setup} {w : World} {bad : Error → World → Prop}

theorem changeRole_eq (key : RoleKey) (change : PolicyChange) :
    ∃ operation call, changeRole key change =
      retried operation call fun _ => changeCloud fun c => c.makeChange key change := by
  cases change with
  | inlinePolicy name document => exact ⟨_, _, rfl⟩
  | managedPolicy arn => exact ⟨_, _, rfl⟩

/-- A role takes a change if the cloud has it and answers. -/
theorem ends_changeRole {key : RoleKey} {change : PolicyChange} {good : Unit → World → Prop}
    (changed : ∀ cloud left, w.cloud.makeChange key change = .ok cloud →
      Alike { w with cloud := cloud } left → good () left)
    (failed : ∀ e left, ¬ w.AllAnswer setup ∨ w.cloud.role? key = none → Alike w left →
      bad e left) :
    Ends setup w (changeRole key change) good bad := by
  obtain ⟨operation, call, same⟩ := changeRole_eq key change
  rw [same]
  exact ends_changeCloud changed fun e left why alike =>
    failed e left (why.imp_right fun ⟨_, refused⟩ => Cloud.makeChange_eq_error refused) alike

end Service

end AccessBroker
