import AccessBroker.Proofs.MappingKeys
import AccessBroker.Proofs.TargetKeys

/-! # Which pairs are role keys

A pair of an account and a resource name makes a key exactly if it is written
after the grammar `arn:<partition>:iam:<region>:<account>:role/<path>`.  The name
of the role is read off the whole resource name and is still the end of its path.
-/

namespace AccessBroker

/-! ## What follows the last separator -/

namespace Text

/-- The part of a path after its last slash, or the whole path if it has none. -/
structure EndsIn (path name : String) : Prop where
  slashFree : '/' ∉ name.toList
  split : path = name ∨ ∃ folder, path = folder ++ "/" ++ name

variable {sep : Char} {cs front rest : List Char}

theorem not_mem_afterLast : sep ∉ afterLast sep cs := by
  intro member
  have kept := List.all_eq_true.1 List.all_takeWhile sep (List.mem_reverse.1 member)
  simp at kept

/-- What stands before it ends in the separator, unless nothing does. -/
theorem afterLast_split (sep : Char) (cs : List Char) :
    cs = afterLast sep cs ∨ ∃ front, cs = front ++ sep :: afterLast sep cs := by
  have parts := List.takeWhile_append_dropWhile (p := (· ≠ sep)) (l := cs.reverse)
  have whole : cs = (cs.reverse.dropWhile (· ≠ sep)).reverse ++ afterLast sep cs := by
    rw [afterLast, ← List.reverse_append, parts, List.reverse_reverse]
  cases dropped : cs.reverse.dropWhile (· ≠ sep) with
  | nil =>
    rw [dropped, List.reverse_nil, List.nil_append] at whole
    exact .inl whole
  | cons c before =>
    have first := List.head?_dropWhile_not (· ≠ sep) cs.reverse
    rw [dropped] at first
    obtain rfl : c = sep := by simpa using first
    rw [dropped, List.reverse_cons, List.append_assoc, List.singleton_append] at whole
    exact .inr ⟨before.reverse, whole⟩

theorem afterLast_append_sep : afterLast sep (front ++ sep :: rest) = afterLast sep rest := by
  have stop : (sep :: front.reverse).takeWhile (· ≠ sep) = [] := by simp
  rw [afterLast, afterLast, List.reverse_append, List.reverse_cons, List.append_assoc,
    List.singleton_append, List.takeWhile_append, stop]
  split
  · next whole =>
    rw [List.append_nil, (List.takeWhile_sublist _).eq_of_length whole]
  · rfl

theorem afterLast_eq_nil_iff : afterLast sep cs = [] ↔ cs = [] ∨ cs.getLast? = some sep := by
  constructor
  · intro nothing
    rcases afterLast_split sep cs with whole | ⟨front, whole⟩
    · exact .inl (whole.trans nothing)
    · rw [nothing] at whole
      rw [whole, List.getLast?_append, List.getLast?_singleton]
      exact .inr rfl
  · rintro (rfl | last)
    · rfl
    · obtain ⟨front, rfl⟩ := List.getLast?_eq_some_iff.1 last
      exact afterLast_append_sep

theorem endsIn_afterLast (path : List Char) :
    EndsIn (String.ofList path) (String.ofList (afterLast '/' path)) where
  slashFree := by
    rw [String.toList_ofList]
    exact not_mem_afterLast
  split := by
    rcases afterLast_split '/' path with whole | ⟨front, whole⟩
    · exact .inl (congrArg String.ofList whole)
    · refine .inr ⟨String.ofList front, ?_⟩
      rw [← String.toList_inj]
      simpa [String.toList_append] using whole

end Text

/-! ## Resource names in five colons -/

namespace Arn

def chars (a : Arn) : List Char :=
  a.scheme ++ ':' :: (a.partition ++ ':' :: (a.service ++ ':' :: (a.region ++ ':' ::
    (a.account ++ ':' :: a.resource))))

/-- No part but the last has a colon. -/
def Parted (a : Arn) : Prop :=
  ∀ part ∈ [a.scheme, a.partition, a.service, a.region, a.account], ':' ∉ part

theorem ofChars?_eq_some_iff {cs : List Char} {a : Arn} :
    ofChars? cs = some a ↔ cs = a.chars ∧ a.Parted := by
  simp only [ofChars?, bind, Option.bind_eq_some_iff, Text.cut_eq_some_iff, Prod.exists, pure,
    Option.some.injEq]
  constructor
  · rintro ⟨scheme, _, ⟨rfl, h₁⟩, partition, _, ⟨rfl, h₂⟩, service, _, ⟨rfl, h₃⟩, region, _,
      ⟨rfl, h₄⟩, account, resource, ⟨rfl, h₅⟩, rfl⟩
    exact ⟨rfl, by simpa [Parted] using ⟨h₁, h₂, h₃, h₄, h₅⟩⟩
  · rintro ⟨rfl, parted⟩
    obtain ⟨h₁, h₂, h₃, h₄, h₅⟩ := by simpa [Parted] using parted
    exact ⟨_, _, ⟨rfl, h₁⟩, _, _, ⟨rfl, h₂⟩, _, _, ⟨rfl, h₃⟩, _, _, ⟨rfl, h₄⟩, _, _, ⟨rfl, h₅⟩,
      rfl⟩

end Arn

/-! ## The grammar -/

def IsAccountId (account : String) : Prop :=
  account.toList.length = 12 ∧ ∀ c ∈ account.toList, '0' ≤ c ∧ c ≤ '9'

theorem IsAccountId.colonFree {account : String} (h : IsAccountId account) :
    ':' ∉ account.toList := by
  intro colon
  exact absurd (h.2 ':' colon) (by decide)

theorem IsAccountId.trim {account : String} (h : IsAccountId account) :
    Text.trim account = account := by
  have solid : ∀ c ∈ account.toList, Text.isBlank c = false := by
    intro c hc
    obtain ⟨low, high⟩ := h.2 c hc
    have low : 48 ≤ c.toNat := low
    have high : c.toNat ≤ 57 := high
    simp [Text.isBlank]
    omega
  rw [← String.toList_inj, Text.toList_trim, Text.trimChars_eq_self_iff]
  exact ⟨fun c head => solid c (List.mem_of_head? head),
    fun c last => solid c (List.mem_of_getLast? last)⟩

structure SpellsRole (account partition region path arn : String) : Prop where
  text : arn = "arn:" ++ partition ++ ":iam:" ++ region ++ ":" ++ account ++ ":role/" ++ path
  partition : ':' ∉ partition.toList
  region : ':' ∉ region.toList
  nonempty : path ≠ ""
  named : path.toList.getLast? ≠ some '/'

namespace RoleKey

variable {account arn partition region path : String} {k : RoleKey}

theorem isDigit_iff {c : Char} : c.isDigit = true ↔ '0' ≤ c ∧ c ≤ '9' := by
  simp [Char.isDigit, Char.le_def]

theorem utf8ByteSize_of_digits {cs : List Char} (digits : ∀ c ∈ cs, '0' ≤ c ∧ c ≤ '9') :
    (String.ofList cs).utf8ByteSize = cs.length := by
  induction cs with
  | nil => rfl
  | cons c rest ih =>
    have one : c.utf8Size = 1 := by
      have last : c.val ≤ '9'.val := (digits c List.mem_cons_self).2
      rw [Char.utf8Size, if_pos (UInt32.le_trans last (by decide))]
    rw [String.ofList_cons, String.utf8ByteSize_append, String.utf8ByteSize_singleton, one,
      ih fun x hx => digits x (List.mem_cons_of_mem c hx), List.length_cons, Nat.add_comm]

theorem isAccount_iff : isAccount account = true ↔ IsAccountId account := by
  simp only [isAccount, IsAccountId, Bool.and_eq_true, beq_iff_eq, List.all_eq_true, isDigit_iff]
  refine and_congr_left fun digits => ?_
  have size := utf8ByteSize_of_digits digits
  rw [String.ofList_toList] at size
  rw [size]

def partsOf (account partition region path : String) : Arn :=
  ⟨"arn".toList, partition.toList, "iam".toList, region.toList, account.toList,
    "role/".toList ++ path.toList⟩

theorem toList_spelled :
    ("arn:" ++ partition ++ ":iam:" ++ region ++ ":" ++ account ++ ":role/" ++ path).toList =
      (partsOf account partition region path).chars := by
  simp [partsOf, Arn.chars, String.toList_append]

structure OfRole (account : String) (parts : Arn) (path : List Char) : Prop where
  scheme : parts.scheme = "arn".toList
  service : parts.service = "iam".toList
  account : parts.account = account.toList
  resource : parts.resource = "role/".toList ++ path
  named : Text.afterLast '/' path ≠ []

theorem refusal?_eq_none_iff :
    refusal? account arn = none ↔ isAccount account = true ∧
      ∃ parts path, Arn.ofText? arn = some parts ∧ OfRole account parts path := by
  unfold refusal?
  constructor
  · intro accepted
    split at accepted
    · cases accepted
    · next form =>
      refine ⟨by simpa using form, ?_⟩
      split at accepted
      · cases accepted
      · next parts found =>
        split at accepted
        · cases accepted
        · next iam =>
          split at accepted
          · cases accepted
          · next own =>
            split at accepted
            · cases accepted
            · next path resource =>
              split at accepted
              · cases accepted
              · next named =>
                obtain ⟨scheme, service⟩ := not_or.1 iam
                exact ⟨parts, path, found, Decidable.not_not.1 scheme, Decidable.not_not.1 service,
                  Decidable.not_not.1 own, Text.after?_eq_some_iff.1 resource,
                  by simpa [List.isEmpty_iff] using named⟩
  · rintro ⟨form, parts, path, found, h⟩
    have resource := Text.after?_eq_some_iff.2 h.resource
    have named : (Text.afterLast '/' path).isEmpty = false := by
      simpa [← Bool.not_eq_true, List.isEmpty_iff] using h.named
    have iam : ¬ (parts.scheme ≠ "arn".toList ∨ parts.service ≠ "iam".toList) :=
      not_or.2 ⟨not_not_intro h.scheme, not_not_intro h.service⟩
    rw [form, found]
    simp only [Bool.not_true, Bool.false_eq_true, if_false, if_neg iam,
      if_neg (not_not_intro h.account), resource, named]

/-- What is accepted is what the grammar writes. -/
theorem refusal?_eq_none_iff_spells :
    refusal? account arn = none ↔ IsAccountId account ∧
      ∃ partition region path, SpellsRole account partition region path arn := by
  rw [refusal?_eq_none_iff, isAccount_iff]
  refine and_congr_right fun digits => ?_
  constructor
  · rintro ⟨⟨scheme, partition, service, region, own, resource⟩, path, found, h⟩
    obtain ⟨rfl, rfl, rfl, rfl, named⟩ := h
    obtain ⟨text, parted⟩ := Arn.ofChars?_eq_some_iff.1 found
    have colonFree : ':' ∉ partition ∧ ':' ∉ region := by
      simpa [Arn.Parted, digits.colonFree] using parted
    rw [ne_eq, Text.afterLast_eq_nil_iff, not_or] at named
    refine ⟨String.ofList partition, String.ofList region, String.ofList path, ?_, ?_, ?_, ?_, ?_⟩
    · rw [← String.toList_inj, text, toList_spelled, partsOf]
      simp only [String.toList_ofList]
    · rw [String.toList_ofList]
      exact colonFree.1
    · rw [String.toList_ofList]
      exact colonFree.2
    · simpa using named.1
    · rw [String.toList_ofList]
      exact named.2
  · rintro ⟨partition, region, path, h⟩
    refine ⟨partsOf account partition region path, path.toList, ?_, rfl, rfl, rfl, rfl, ?_⟩
    · refine Arn.ofChars?_eq_some_iff.2 ⟨?_, ?_⟩
      · rw [h.text, toList_spelled]
      · simpa [Arn.Parted, partsOf] using ⟨h.partition, h.region, digits.colonFree⟩
    · rw [ne_eq, Text.afterLast_eq_nil_iff, not_or]
      exact ⟨by simpa using h.nonempty, h.named⟩

theorem exists_of_eq_ok_iff :
    (∃ k, of account arn = .ok k) ↔ refusal? (Text.trim account) (Text.trim arn) = none := by
  simp only [of_eq_ok_iff]
  constructor
  · rintro ⟨k, sameAccount, sameArn⟩
    rw [← sameAccount, ← sameArn]
    exact k.wellFormed
  · intro accepted
    exact ⟨⟨Text.trim account, Text.trim arn, accepted⟩, rfl, rfl⟩

/-- A key that was made is made again from its own texts. -/
theorem of_self (made : of account arn = .ok k) : of k.account k.arn = .ok k := by
  obtain ⟨sameAccount, sameArn⟩ := of_eq_ok_iff.1 made
  refine of_eq_ok_iff.2 ⟨?_, ?_⟩
  · rw [sameAccount, Text.trim_trim]
  · rw [sameArn, Text.trim_trim]

/-- All slashes before the path are those of `role/` or stand further in front. -/
theorem endsIn_roleName (h : SpellsRole account partition region path k.arn) :
    Text.EndsIn path k.roleName := by
  obtain ⟨front, whole⟩ : ∃ front, k.arn.toList = front ++ '/' :: path.toList := by
    refine ⟨("arn:" ++ partition ++ ":iam:" ++ region ++ ":" ++ account ++ ":role").toList, ?_⟩
    rw [h.text]
    simp [String.toList_append]
  have ends := Text.endsIn_afterLast path.toList
  rw [String.ofList_toList] at ends
  rw [roleName, whole, Text.afterLast_append_sep]
  exact ends

theorem roleName_ne_empty (h : SpellsRole account partition region path k.arn) :
    k.roleName ≠ "" := by
  intro nameless
  have ends := endsIn_roleName h
  rw [nameless] at ends
  rcases ends.split with whole | ⟨folder, whole⟩
  · exact h.nonempty whole
  · apply h.named
    rw [whole]
    simp [String.toList_append]

/-- Every key is of an account and of a resource name of the grammar. -/
theorem isAccountId (k : RoleKey) : IsAccountId k.account :=
  (refusal?_eq_none_iff_spells.1 k.wellFormed).1

theorem exists_spells (k : RoleKey) :
    ∃ partition region path, SpellsRole k.account partition region path k.arn :=
  (refusal?_eq_none_iff_spells.1 k.wellFormed).2

end RoleKey

/-! ## Documents of a role -/

namespace RoleDocument

variable {d : RoleDocument} {k : RoleKey}

theorem ensureDescribes_eq_ok_iff :
    d.ensureDescribes k = .ok () ↔ d.account = k.account ∧
      ∃ own, RoleKey.of k.account d.arn = .ok own ∧
        Text.lowerAscii own.roleName = Text.lowerAscii k.roleName := by
  unfold ensureDescribes
  cases RoleKey.of k.account d.arn with
  | error e => simp
  | ok own => simp [Text.sameAscii]

/-- A document describes the role of its own key, if its account is written without blanks around
it. -/
theorem ensureDescribes_key (own : d.key = .ok k) (trimmed : Text.trim d.account = d.account) :
    d.ensureDescribes k = .ok () := by
  obtain ⟨sameAccount, sameArn⟩ := RoleKey.of_eq_ok_iff.1 own
  have again : RoleKey.of k.account d.arn = .ok k := by
    refine RoleKey.of_eq_ok_iff.2 ⟨?_, sameArn⟩
    rw [sameAccount, Text.trim_trim]
  exact ensureDescribes_eq_ok_iff.2 ⟨(sameAccount.trans trimmed).symm, k, again, rfl⟩

/-- The resource name of a document that describes a role is one of its account, and ends in its
name up to the case of ASCII letters. -/
theorem names_of_ensureDescribes (describes : d.ensureDescribes k = .ok ()) :
    d.account = k.account ∧ ∃ partition region path name,
      SpellsRole k.account partition region path (Text.trim d.arn) ∧ Text.EndsIn path name ∧
        Text.lowerAscii name = Text.lowerAscii k.roleName := by
  obtain ⟨account, own, made, sameName⟩ := ensureDescribes_eq_ok_iff.1 describes
  obtain ⟨partition, region, path, spells⟩ := own.exists_spells
  have ends := RoleKey.endsIn_roleName spells
  obtain ⟨sameAccount, sameArn⟩ := RoleKey.of_eq_ok_iff.1 made
  rw [sameAccount, k.isAccountId.trim, sameArn] at spells
  exact ⟨account, partition, region, path, own.roleName, spells, ends, sameName⟩

end RoleDocument

/-- Exactly the pairs of the grammar make a key.  It holds them without the blanks around them, its
name is the end of the path, and it is made again from its own texts.  A document describes the role
of its own key, and what describes a role names its account and its name. -/
theorem RoleKey.follows_grammar :
    (∀ account arn, (∃ k, of account arn = .ok k) ↔
      IsAccountId (Text.trim account) ∧ ∃ partition region path,
        SpellsRole (Text.trim account) partition region path (Text.trim arn)) ∧
    (∀ account arn k, of account arn = .ok k →
      k.account = Text.trim account ∧ k.arn = Text.trim arn ∧ k.roleName ≠ "" ∧
        (∀ partition region path,
          SpellsRole (Text.trim account) partition region path (Text.trim arn) →
            Text.EndsIn path k.roleName) ∧
        of k.account k.arn = .ok k) ∧
    (∀ (d : RoleDocument) k, d.key = .ok k → Text.trim d.account = d.account →
      d.ensureDescribes k = .ok ()) ∧
    ∀ (d : RoleDocument) k, d.ensureDescribes k = .ok () →
      d.account = k.account ∧ ∃ partition region path name,
        SpellsRole k.account partition region path (Text.trim d.arn) ∧ Text.EndsIn path name ∧
          Text.lowerAscii name = Text.lowerAscii k.roleName := by
  refine ⟨fun account arn => ?_, fun account arn k made => ?_,
    fun d k own trimmed => RoleDocument.ensureDescribes_key own trimmed,
    fun d k describes => RoleDocument.names_of_ensureDescribes describes⟩
  · rw [exists_of_eq_ok_iff, refusal?_eq_none_iff_spells]
  · obtain ⟨sameAccount, sameArn⟩ := of_eq_ok_iff.1 made
    obtain ⟨_, _, _, spells⟩ := k.exists_spells
    refine ⟨sameAccount, sameArn, roleName_ne_empty spells, ?_, of_self made⟩
    intro partition region path spells
    rw [← sameArn] at spells
    exact endsIn_roleName spells

def RoleKey.deployer : RoleKey :=
  ⟨"123456789012", "arn:aws:iam::123456789012:role/team:a/Deployer", by decide +kernel⟩

/-- The key of the same role as the cloud spells it. -/
def RoleKey.shownDeployer : RoleKey :=
  ⟨"123456789012", "arn:aws:iam::123456789012:role/deployer", by decide +kernel⟩

def RoleDocument.deployer : RoleDocument where
  arn := RoleKey.shownDeployer.arn
  account := RoleKey.shownDeployer.account
  roleName := "deployer"
  roleId := "AROADEPLOYER"
  trustPolicy := .null
  inlinePolicies := .empty
  managedPolicies := []
  tags := .empty
  templated := none
  fetchedAt := default

theorem RoleKey.deployer_follows :
    (∃ k, of " 123456789012" "arn:aws:iam::123456789012:role/team:a/Deployer\n" = .ok k) ∧
    deployer.roleName = "Deployer" ∧ Text.EndsIn "team:a/Deployer" deployer.roleName ∧
    RoleDocument.deployer.ensureDescribes shownDeployer = .ok () ∧
    RoleDocument.deployer.ensureDescribes deployer = .ok () ∧
    ∃ partition region path name,
      SpellsRole "123456789012" partition region path (Text.trim RoleDocument.deployer.arn) ∧
        Text.EndsIn path name ∧ Text.lowerAscii name = Text.lowerAscii "Deployer" := by
  obtain ⟨accepts, holds, describes, names⟩ := follows_grammar
  have account : Text.trim " 123456789012" = "123456789012" := by decide +kernel
  have arn : Text.trim "arn:aws:iam::123456789012:role/team:a/Deployer\n" = deployer.arn := by
    decide +kernel
  have digits : IsAccountId "123456789012" := deployer.isAccountId
  have spells : SpellsRole "123456789012" "aws" "" "team:a/Deployer" deployer.arn :=
    ⟨by decide +kernel, by decide, by decide, by decide, by decide⟩
  have made : of " 123456789012" "arn:aws:iam::123456789012:role/team:a/Deployer\n" =
      .ok deployer := of_eq_ok_iff.2 ⟨account.symm, arn.symm⟩
  have named : deployer.roleName = "Deployer" := by decide +kernel
  have own : RoleDocument.deployer.key = .ok shownDeployer :=
    of_eq_ok_iff.2 ⟨by decide +kernel, by decide +kernel⟩
  have sameName : Text.lowerAscii shownDeployer.roleName = Text.lowerAscii deployer.roleName := by
    rw [← String.toList_inj, Text.toList_lowerAscii, Text.toList_lowerAscii]
    decide +kernel
  have shown : RoleDocument.deployer.ensureDescribes deployer = .ok () :=
    RoleDocument.ensureDescribes_eq_ok_iff.2 ⟨rfl, shownDeployer, own, sameName⟩
  refine ⟨(accepts _ _).2 ⟨?_, "aws", "", "team:a/Deployer", ?_⟩, named, ?_, ?_, shown, ?_⟩
  · rw [account]
    exact digits
  · rw [account, arn]
    exact spells
  · refine (holds _ _ _ made).2.2.2.1 "aws" "" _ ?_
    rw [account, arn]
    exact spells
  · exact describes _ _ own (by decide +kernel)
  · rw [← named]
    exact (names _ _ shown).2

end AccessBroker
