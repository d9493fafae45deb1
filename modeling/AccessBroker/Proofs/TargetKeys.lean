import AccessBroker.Broker.Submission

/-! # What the key of a target tells

The key of a change joins the resource name of a role, as it was written, and
the identifier of a policy at a colon, and either of them may have colons of its
own.  So it tells targets apart, and finds them again, only as far as resource
names are written in one way and without further colons, and inline policies are
not named like managed ones.
-/

namespace AccessBroker

/-! ## Texts joined at a colon -/

namespace Text

theorem append_cons_eq_iff {sep : Char} {a b c d : List Char} :
    a ++ sep :: b = c ++ sep :: d ↔
      a = c ∧ b = d ∨ (∃ x, c = a ++ sep :: x ∧ b = x ++ sep :: d) ∨
        ∃ x, a = c ++ sep :: x ∧ d = x ++ sep :: b := by
  constructor
  · intro h
    rcases List.append_eq_append_iff.1 h with ⟨mid, rfl, rest⟩ | ⟨mid, rfl, rest⟩
    · cases mid with
      | nil => exact .inl ⟨by simp, by simpa using rest⟩
      | cons first mid =>
        obtain ⟨rfl, rfl⟩ := List.cons.inj rest
        exact .inr (.inl ⟨mid, rfl, rfl⟩)
    · cases mid with
      | nil => exact .inl ⟨by simp, by simpa using rest.symm⟩
      | cons first mid =>
        obtain ⟨rfl, rfl⟩ := List.cons.inj rest
        exact .inr (.inr ⟨mid, rfl, rfl⟩)
  · rintro (⟨rfl, rfl⟩ | ⟨x, rfl, rfl⟩ | ⟨x, rfl, rfl⟩) <;> simp

theorem toList_joined (a b : String) : (a ++ ":" ++ b).toList = a.toList ++ ':' :: b.toList := by
  simp [String.toList_append]

theorem exists_chars_iff {p : List Char → Prop} : (∃ cs, p cs) ↔ ∃ s : String, p s.toList :=
  ⟨fun ⟨cs, h⟩ => ⟨String.ofList cs, by rwa [String.toList_ofList]⟩, fun ⟨s, h⟩ => ⟨s.toList, h⟩⟩

/-- Two joined texts agree if they were joined at one place, or each at a colon of the other. -/
theorem joined_eq_iff {a b c d : String} :
    a ++ ":" ++ b = c ++ ":" ++ d ↔
      a = c ∧ b = d ∨ (∃ x, c = a ++ ":" ++ x ∧ b = x ++ ":" ++ d) ∨
        ∃ x, a = c ++ ":" ++ x ∧ d = x ++ ":" ++ b := by
  simp only [← String.toList_inj, toList_joined, append_cons_eq_iff, exists_chars_iff]

end Text

namespace Target

/-- How two targets come to have one key. -/
inductive SharesKey : Target → Target → Prop where
  | group {a b : String} (same : Text.normalize a = Text.normalize b) :
    SharesKey (.group a) (.group b)
  | policy {account account' arn : String} {change change' : PolicyChange}
    (identifier : change.identifier = change'.identifier) :
    SharesKey (.policy account arn change) (.policy account' arn change')
  /-- What is the end of the second resource name is the start of the first identifier. -/
  | longer {account account' arn x : String} {change change' : PolicyChange}
    (identifier : change.identifier = x ++ ":" ++ change'.identifier) :
    SharesKey (.policy account arn change) (.policy account' (arn ++ ":" ++ x) change')
  /-- What is the end of the first resource name is the start of the second identifier. -/
  | shorter {account account' arn x : String} {change change' : PolicyChange}
    (identifier : change'.identifier = x ++ ":" ++ change.identifier) :
    SharesKey (.policy account (arn ++ ":" ++ x) change) (.policy account' arn change')

theorem key_policy_eq_iff {account account' arn arn' : String} {change change' : PolicyChange} :
    (policy account arn change).key = (policy account' arn' change').key ↔
      arn ++ ":" ++ change.identifier = arn' ++ ":" ++ change'.identifier := by
  simp only [key, ← String.toList_inj, String.toList_append, List.append_assoc,
    List.append_cancel_left_eq]

/-- The key of a group is no key of a change. -/
theorem key_group_ne_policy {name account arn : String} {change : PolicyChange} :
    (group name).key ≠ (policy account arn change).key := by
  intro same
  have heads := congrArg (·.toList.head?) same
  simp [key, String.toList_append] at heads

theorem key_eq_iff (t u : Target) : t.key = u.key ↔ t.SharesKey u := by
  constructor
  · intro same
    cases t with
    | group name =>
      cases u with
      | group other =>
        refine .group ?_
        simpa [key, ← String.toList_inj, String.toList_append] using same
      | policy account arn change => exact absurd same key_group_ne_policy
    | policy account arn change =>
      cases u with
      | group name => exact absurd same.symm key_group_ne_policy
      | policy account' arn' change' =>
        rcases Text.joined_eq_iff.1 (key_policy_eq_iff.1 same) with
          ⟨rfl, identifier⟩ | ⟨x, rfl, identifier⟩ | ⟨x, rfl, identifier⟩
        · exact .policy identifier
        · exact .longer identifier
        · exact .shorter identifier
  · rintro (⟨same⟩ | ⟨identifier⟩ | ⟨identifier⟩ | ⟨identifier⟩)
    · simp only [key, same]
    · simp only [key, identifier]
    · simp only [key, identifier, String.append_assoc]
    · simp only [key, identifier, String.append_assoc]

end Target

/-! ## The same role -/

namespace RoleKey

variable {account arn : String} {a b k : RoleKey}

theorem account_of_wellFormed (h : refusal? account arn = none) :
    ∃ parts, Arn.ofText? arn = some parts ∧ parts.account = account.toList := by
  unfold refusal? at h
  split at h
  · cases h
  · split at h
    · cases h
    · next parts found =>
      split at h
      · cases h
      · split at h
        · cases h
        · next own => exact ⟨parts, found, Decidable.not_not.1 own⟩

/-- The resource name of a role names its account. -/
theorem eq_of_arn (same : a.arn = b.arn) : a = b := by
  obtain ⟨parts, found, account⟩ := account_of_wellFormed a.wellFormed
  obtain ⟨parts', found', account'⟩ := account_of_wellFormed b.wellFormed
  rw [same, found'] at found
  obtain rfl := Option.some.inj found
  exact eq_of_parts (String.toList_inj.1 (account.symm.trans account')) same

theorem of_eq_ok_iff :
    of account arn = .ok k ↔ k.account = Text.trim account ∧ k.arn = Text.trim arn := by
  simp only [of]
  constructor
  · intro h
    split at h
    · obtain rfl := Except.ok.inj h
      exact ⟨rfl, rfl⟩
    · cases h
  · rintro ⟨sameAccount, sameArn⟩
    split
    · exact congrArg Except.ok (eq_of_parts sameAccount.symm sameArn.symm)
    · next refused =>
      rw [← sameAccount, ← sameArn, k.wellFormed] at refused
      cases refused

end RoleKey

/-! ## Accepted and plainly written targets -/

def PolicyChange.isInline : PolicyChange → Bool
  | inlinePolicy .. => true
  | managedPolicy _ => false

namespace Target

/-- A target that a submission may ask for. -/
structure Accepted (t : Target) : Prop where
  valid : t.validate = .ok ()
  role : ∀ account arn change, t = .policy account arn change →
    ∃ k, RoleKey.of account arn = .ok k

/-- Two targets are the same group, or changes of one kind to one policy of one role. -/
inductive Same : Target → Target → Prop where
  | group {a b : String} (same : Text.normalize a = Text.normalize b) : Same (.group a) (.group b)
  | policy {account account' arn arn' : String} {change change' : PolicyChange} {k : RoleKey}
    (role : RoleKey.of account arn = .ok k) (role' : RoleKey.of account' arn' = .ok k)
    (kind : change.isInline = change'.isInline)
    (identifier : change.identifier = change'.identifier) :
    Same (.policy account arn change) (.policy account' arn' change')

/-- It is written as nothing else could be meant: a resource name stands without blanks around it
and with no more than the five colons that part it, and no inline policy is named like a managed
one. -/
def Plain : Target → Prop
  | group _ => True
  | policy _ arn change => Text.trim arn = arn ∧ arn.toList.count ':' = 5 ∧
      (change.isInline = true → isPolicyArn change.identifier = false)

end Target

theorem Submission.accepted {s : Submission} {now : Timestamp} (h : s.validate now = .ok ()) :
    s.target.Accepted := by
  cases valid : s.target.validate with
  | error e => simp [validate, valid, bind, Except.bind] at h
  | ok =>
    refine ⟨valid, fun account arn change target => ?_⟩
    simp only [validate, valid, bind, Except.bind] at h
    split at h
    · cases h
    · simp only [validateTarget, target] at h
      split at h
      · cases h
      · cases role : RoleKey.of account arn with
        | error refusal => simp [role, Except.map] at h
        | ok k => exact ⟨k, rfl⟩

namespace Target

variable {t u : Target}

theorem key_eq_of_same (same : t.Same u) (plain : t.Plain) (plain' : u.Plain) : t.key = u.key := by
  cases same with
  | group same => simp only [key, same]
  | policy role role' kind identifier =>
    have arn := (RoleKey.of_eq_ok_iff.1 role).2.symm.trans (RoleKey.of_eq_ok_iff.1 role').2
    rw [plain.1, plain'.1] at arn
    simp only [key, arn, identifier]

/-- Plainly written resource names have no room for a part of an identifier. -/
theorem not_plain_longer {account account' arn x : String} {change change' : PolicyChange}
    (plain : (policy account arn change).Plain) :
    ¬ (policy account' (arn ++ ":" ++ x) change').Plain := by
  intro longer
  have colons := plain.2.1
  have more := longer.2.1
  rw [Text.toList_joined, List.count_append, List.count_cons_self] at more
  omega

/-- A managed policy is named by a resource name, and no inline one that is plainly written is. -/
theorem inline_ne_managed {account account' arn arn' name policy : String} {document : Json}
    (plain : (Target.policy account arn (.inlinePolicy name document)).Plain)
    (accepted : (Target.policy account' arn' (.managedPolicy policy)).Accepted) :
    name ≠ policy := by
  rintro rfl
  have unlike : isPolicyArn name = false := plain.2.2 rfl
  have valid := accepted.valid
  simp [validate, unlike] at valid

theorem isInline_eq_of_identifier {account account' arn arn' : String}
    {change change' : PolicyChange} (ht : (policy account arn change).Accepted)
    (hu : (policy account' arn' change').Accepted) (plain : (policy account arn change).Plain)
    (plain' : (policy account' arn' change').Plain)
    (identifier : change.identifier = change'.identifier) : change.isInline = change'.isInline := by
  cases change with
  | inlinePolicy name document =>
    cases change' with
    | inlinePolicy => rfl
    | managedPolicy => exact absurd identifier (inline_ne_managed plain hu)
  | managedPolicy =>
    cases change' with
    | inlinePolicy => exact absurd identifier.symm (inline_ne_managed plain' ht)
    | managedPolicy => rfl

theorem same_of_key_eq (ht : t.Accepted) (hu : u.Accepted) (plain : t.Plain) (plain' : u.Plain)
    (oneKey : t.key = u.key) : t.Same u := by
  cases (key_eq_iff t u).1 oneKey with
  | group same => exact .group same
  | policy identifier =>
    obtain ⟨k, role⟩ := ht.role _ _ _ rfl
    obtain ⟨k', role'⟩ := hu.role _ _ _ rfl
    have arn : k.arn = k'.arn :=
      (RoleKey.of_eq_ok_iff.1 role).2.trans (RoleKey.of_eq_ok_iff.1 role').2.symm
    obtain rfl : k = k' := RoleKey.eq_of_arn arn
    exact .policy role role' (isInline_eq_of_identifier ht hu plain plain' identifier) identifier
  | longer => exact absurd plain' (not_plain_longer plain)
  | shorter => exact absurd plain (not_plain_longer plain')

/-- Whether two targets have one key is a matter of where colons stand in their texts.  If both are
plainly written it tells whether they are the same. -/
theorem key_tells_same (ht : t.Accepted) (hu : u.Accepted) :
    (t.key = u.key ↔ t.SharesKey u) ∧ (t.Plain → u.Plain → (t.key = u.key ↔ t.Same u)) :=
  ⟨key_eq_iff t u, fun plain plain' =>
    ⟨same_of_key_eq ht hu plain plain', fun same => key_eq_of_same same plain plain'⟩⟩

/-! ## Two policies of one role -/

theorem accepted_policy {account arn : String} {change : PolicyChange} {k : RoleKey}
    (role : RoleKey.of account arn = .ok k)
    (valid : (policy account arn change).validate = .ok ()) :
    (policy account arn change).Accepted := by
  refine ⟨valid, fun _ _ _ same => ?_⟩
  cases same
  exact ⟨k, role⟩

def readOnly (arn : String) : Target :=
  .policy "123456789012" arn (.managedPolicy "arn:aws:iam::aws:policy/ReadOnlyAccess")

def inline (arn name : String) : Target :=
  .policy "123456789012" arn (.inlinePolicy name (.object []))

def appKey : RoleKey :=
  ⟨"123456789012", "arn:aws:iam::123456789012:role/app", by decide +kernel⟩

def otherKey : RoleKey :=
  ⟨"123456789012", "arn:aws:iam::123456789012:role/app:x", by decide +kernel⟩

theorem accepted_readOnly {arn : String} {k : RoleKey}
    (role : RoleKey.of "123456789012" arn = .ok k) : (readOnly arn).Accepted := by
  have named : isPolicyArn "arn:aws:iam::aws:policy/ReadOnlyAccess" = true := by decide +kernel
  refine accepted_policy role ?_
  simp only [validate, named]
  rfl

theorem accepted_inline {arn name : String} {k : RoleKey}
    (role : RoleKey.of "123456789012" arn = .ok k) (named : Text.isAllBlank name = false) :
    (inline arn name).Accepted := by
  refine accepted_policy role ?_
  simp only [validate, named]
  rfl

theorem role_app : RoleKey.of "123456789012" appKey.arn = .ok appKey :=
  RoleKey.of_eq_ok_iff.2 ⟨by decide +kernel, by decide +kernel⟩

theorem policies_of_app_told_apart : (inline appKey.arn "s3").key ≠ (readOnly appKey.arn).key := by
  have named : Text.isAllBlank "s3" = false := by decide +kernel
  have tells := (key_tells_same (accepted_inline role_app named) (accepted_readOnly role_app)).2
    ⟨by decide +kernel, by decide +kernel, fun _ => by decide +kernel⟩
    ⟨by decide +kernel, by decide +kernel, nofun⟩
  intro same
  cases tells.1 same with
  | policy _ _ kind => cases kind

/-- A blank before a resource name gives one change two keys; a name with colons gives one key to
two kinds of change, or to changes of two roles. -/
theorem key_confuses :
    ((readOnly appKey.arn).Accepted ∧ (readOnly (" " ++ appKey.arn)).Accepted ∧
      (readOnly appKey.arn).Same (readOnly (" " ++ appKey.arn)) ∧
      (readOnly appKey.arn).key ≠ (readOnly (" " ++ appKey.arn)).key) ∧
    ((readOnly appKey.arn).Accepted ∧
      (inline appKey.arn "arn:aws:iam::aws:policy/ReadOnlyAccess").Accepted ∧
      ¬ (readOnly appKey.arn).Same (inline appKey.arn "arn:aws:iam::aws:policy/ReadOnlyAccess") ∧
      (readOnly appKey.arn).key = (inline appKey.arn "arn:aws:iam::aws:policy/ReadOnlyAccess").key) ∧
    ((inline appKey.arn "x:y").Accepted ∧ (inline (appKey.arn ++ ":x") "y").Accepted ∧
      ¬ (inline appKey.arn "x:y").Same (inline (appKey.arn ++ ":x") "y") ∧
      (inline appKey.arn "x:y").key = (inline (appKey.arn ++ ":x") "y").key) := by
  have padded : RoleKey.of "123456789012" (" " ++ appKey.arn) = .ok appKey :=
    RoleKey.of_eq_ok_iff.2 ⟨by decide +kernel, by decide +kernel⟩
  have other : RoleKey.of "123456789012" (appKey.arn ++ ":x") = .ok otherKey :=
    RoleKey.of_eq_ok_iff.2 ⟨by decide +kernel, by decide +kernel⟩
  refine ⟨⟨accepted_readOnly role_app, accepted_readOnly padded, .policy role_app padded rfl rfl,
    by decide +kernel⟩, ⟨accepted_readOnly role_app, accepted_inline role_app (by decide +kernel), ?_,
    by decide +kernel⟩, accepted_inline role_app (by decide +kernel),
    accepted_inline other (by decide +kernel), ?_, by decide +kernel⟩
  · intro same
    cases same with
    | policy _ _ kind => cases kind
  · intro same
    cases same with
    | policy _ _ _ identifier => exact absurd identifier (by decide +kernel)

end Target

end AccessBroker
