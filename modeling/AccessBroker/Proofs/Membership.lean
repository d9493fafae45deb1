import AccessBroker.Proofs.Turns

/-! # Who is a member of a group

Several approved requests may stand for one membership, each with its own
spelling of the names, and the first of them that ends takes it away.  What
remains true is that nobody is a member without an approved request.
-/

namespace AccessBroker

open Service (moved)

def Directory.HasMember (d : Directory) (group user : String) : Prop :=
  ∃ g, d.groups.get? group = some g ∧ user ∈ g.members

/-- The request is approved and its requester therefore belongs to the group. -/
def Request.Confers (r : Request) (group user : String) : Prop :=
  r.status = .approved ∧ ∃ name, r.target = .group name ∧ Text.normalize name = group ∧
    Text.normalize r.requester = user

/-- Every member of a group has an approved request for it. -/
def RequestStore.Back (s : RequestStore) (d : Directory) : Prop :=
  ∀ group user, d.HasMember group user → ∃ r ∈ s.all, r.Confers group user

/-! ## What the directory does to its members -/

namespace Directory

variable {d : Directory} {name user group member : String}

theorem hasMember_of_group? {g : Group} (found : d.group? name = some g) :
    d.HasMember (Text.normalize name) user ↔ user ∈ g.members := by
  constructor
  · rintro ⟨_, here, belongs⟩
    cases found.symm.trans here
    exact belongs
  · exact fun belongs => ⟨g, found, belongs⟩

theorem hasMember_normalize : d.HasMember (Text.normalize name) user ↔ user ∈ d.members name := by
  rw [members]
  cases found : d.group? name with
  | none =>
    have nobody : ¬ d.HasMember (Text.normalize name) user := by
      rintro ⟨g, here, -⟩
      cases found.symm.trans here
    simp [nobody, NameSet.mem_iff, NameSet.empty]
  | some g => exact hasMember_of_group? found

/-- A group that is put under a name brings its own members, and other groups keep theirs. -/
theorem hasMember_insert {key : String} {g : Group} :
    HasMember ⟨d.groups.insert key g⟩ group member ↔
      if group = key then member ∈ g.members else d.HasMember group member := by
  simp only [HasMember, Table.get?_insert]
  split
  · simp
  · exact Iff.rfl

theorem hasMember_addMember :
    (d.addMember name user).2.HasMember group member ↔
      d.HasMember group member ∨ d.attributes? name ≠ none ∧
        group = Text.normalize name ∧ member = Text.normalize user := by
  unfold addMember
  cases found : d.group? name with
  | none => simp [attributes?, found]
  | some g =>
    have known : d.attributes? name ≠ none := by simp [attributes?, found]
    dsimp only
    split
    · next already =>
      refine ⟨.inl, ?_⟩
      rintro (old | ⟨-, rfl, rfl⟩)
      · exact old
      · exact (hasMember_of_group? found).2 (NameSet.contains_iff.1 already)
    · rw [hasMember_insert]
      split
      · next same =>
        rw [same, hasMember_of_group? found, NameSet.mem_insert]
        simp [known, or_comm]
      · next other => simp [other]

theorem hasMember_removeMember :
    (d.removeMember name user).2.HasMember group member ↔
      d.HasMember group member ∧
        ¬ (group = Text.normalize name ∧ member = Text.normalize user) := by
  have stays (absent : ¬ d.HasMember (Text.normalize name) (Text.normalize user)) :
      d.HasMember group member ↔ d.HasMember group member ∧
        ¬ (group = Text.normalize name ∧ member = Text.normalize user) := by
    refine ⟨fun belongs => ⟨belongs, ?_⟩, And.left⟩
    rintro ⟨rfl, rfl⟩
    exact absent belongs
  unfold removeMember
  cases found : d.group? name with
  | none =>
    refine stays ?_
    rintro ⟨g, here, -⟩
    cases found.symm.trans here
  | some g =>
    dsimp only
    split
    · rw [hasMember_insert]
      split
      · next same =>
        rw [same, hasMember_of_group? found, NameSet.mem_filter]
        simp
      · next other => simp [other]
    · next absent =>
      refine stays fun belongs => absent ?_
      exact NameSet.contains_iff.2 ((hasMember_of_group? found).1 belongs)

theorem hasMember_putAttributes {attributes : GroupAttributes} :
    (d.putAttributes name attributes).HasMember group member ↔ d.HasMember group member := by
  rw [putAttributes, hasMember_insert]
  split
  · next same => rw [same, hasMember_normalize]
  · exact Iff.rfl

end Directory

/-! ## What keeps every member backed -/

namespace RequestStore.Back

variable {s : RequestStore} {d : Directory} {r old : Request}

/-- A request may be replaced by one that confers as much. -/
theorem put (h : s.Back d)
    (replaces : ∀ old group user, s.find? r.id = some old → old.Confers group user →
      d.HasMember group user → r.Confers group user) : (s.put r).Back d := by
  intro group user member
  obtain ⟨backer, stored, confers⟩ := h group user member
  -- Only the request that is replaced may have been what backed the member.
  by_cases same : backer.id = r.id
  · have here : s.find? r.id = some backer := same ▸ mem_all_iff.1 stored
    refine ⟨r, ?_, replaces backer group user here confers member⟩
    rw [mem_all_iff, find?_put, if_pos rfl]
  · refine ⟨backer, ?_, confers⟩
    rw [mem_all_iff, find?_put, if_neg same, mem_all_iff.1 stored]

theorem congr {t : RequestStore} (h : s.Back d) (same : ∀ id, t.find? id = s.find? id) :
    t.Back d := by
  intro group user member
  obtain ⟨backer, stored, confers⟩ := h group user member
  exact ⟨backer, mem_all_iff.2 ((same _).trans (mem_all_iff.1 stored)), confers⟩

/-- A request that is not approved may be replaced by any. -/
theorem put_waiting (h : s.Back d) (stored : s.find? r.id = some old)
    (waits : old.status ≠ .approved) : (s.put r).Back d :=
  h.put fun other _ _ here confers _ => by
    rw [stored] at here
    cases here
    exact absurd confers.1 waits

/-- A new request takes nothing away. -/
theorem put_new (h : s.Back d) (fresh : s.find? r.id = none) : (s.put r).Back d :=
  h.put fun _ _ _ here _ _ => by
    rw [fresh] at here
    cases here

/-- Whoever joins is backed by the request that is stored as approved then. -/
theorem join {name : String} (h : (s.put r).Back d) (approved : r.status = .approved)
    (target : r.target = .group name) : (s.put r).Back (d.addMember name r.requester).2 := by
  intro group user member
  rcases Directory.hasMember_addMember.1 member with old | ⟨-, rfl, rfl⟩
  · exact h group user old
  · refine ⟨r, ?_, approved, name, target, rfl, rfl⟩
    rw [mem_all_iff, find?_put, if_pos rfl]

/-- A request may be closed once its membership has ended. -/
theorem leave {name : String} (h : s.Back d) (stored : s.find? r.id = some old)
    (target : old.target = .group name) (requester : r.requester = old.requester) :
    (s.put r).Back (d.removeMember name r.requester).2 := by
  have smaller : s.Back (d.removeMember name r.requester).2 := fun group user member =>
    h group user (Directory.hasMember_removeMember.1 member).1
  refine smaller.put fun other group user here confers member => ?_
  rw [stored] at here
  cases here
  obtain ⟨-, other, target', sameGroup, sameUser⟩ := confers
  rw [target] at target'
  cases target'
  -- All that the closed request conferred is the membership that has just ended.
  refine absurd ⟨sameGroup.symm, ?_⟩ (Directory.hasMember_removeMember.1 member).2
  rw [requester, sameUser]

end RequestStore.Back

/-- Every turn keeps every member backed. -/
theorem Turn.back {now : Timestamp} {w left : World} (turn : Turn now w left)
    (h : w.requests.Back w.directory) : left.requests.Back left.directory := by
  cases turn with
  | still requests directory => rwa [requests, directory]
  | create requests directory fresh =>
    rw [directory]
    exact (h.put_new fresh).congr requests
  | note requests directory stored =>
    rw [requests, directory]
    refine h.put fun old group user here confers _ => ?_
    cases stored.symm.trans here
    exact confers
  | record requests directory stored waited =>
    rw [requests, directory]
    refine h.put_waiting stored fun approved => ?_
    simp [approved] at waited
  | @join r group actor comments requests directory stored pending target =>
    rw [requests, directory]
    have waits : r.status ≠ .approved := by simp [pending]
    have approved := h.put_waiting (r := moved r .approved actor now comments) stored waits
    exact approved.join rfl target
  | leave requests directory known target =>
    obtain ⟨stored, here, requester, sameTarget⟩ := known
    rw [requests, directory]
    exact h.leave here (sameTarget.trans target) requester.symm

theorem RequestCall.back (setup : Setup) {w : World} (c : RequestCall)
    (calm : w.Undisturbed .saveRequest) (h : w.requests.Back w.directory) :
    (c.after setup w).requests.Back (c.after setup w).directory :=
  (c.turns setup calm).keeps (p := fun w => w.requests.Back w.directory)
    (fun _ _ turn => turn.back) h

/-! ## Runs -/

/-- Between calls on requests, groups get other attributes through the services, and anything may
change but the requests, as long as nobody becomes a member. -/
inductive World.NobodyJoins : World → World → Prop where
  | elsewhere {before after : World} (requests : after.requests = before.requests)
      (members : ∀ group user, after.directory.HasMember group user →
        before.directory.HasMember group user) : NobodyJoins before after
  | updateGroup {before after : World} (setup : Setup) (who : Identity) (group : String)
      (attributes : GroupAttributes)
      (called : after = ((Service.updateGroup who group attributes).perform setup before).2) :
      NobodyJoins before after

theorem World.NobodyJoins.back {before after : World} (moves : NobodyJoins before after)
    (h : before.requests.Back before.directory) : after.requests.Back after.directory := by
  cases moves with
  | elsewhere requests members =>
    rw [requests]
    exact fun group user member => h group user (members group user member)
  | updateGroup setup who group attributes called =>
    obtain ⟨directory, alike, laid⟩ :=
      Service.laidDown_updateGroup setup before who group attributes
    rw [called, alike.requests, alike.directory]
    rcases laid with rfl | ⟨name, tidy, rfl⟩
    · exact h
    · exact fun group user member => h group user (Directory.hasMember_putAttributes.1 member)

/-- Whatever calls are made one after another, once groups start out without members every member
has an approved request of the same user for the same group, however the names are spelled. -/
theorem Run.members_backed {start w : World}
    (run : Run World.NobodyJoins (World.Undisturbed · .saveRequest) start w)
    (noMembers : ∀ group user, ¬ start.directory.HasMember group user) :
    ∀ group user, w.directory.HasMember group user →
      ∃ r ∈ w.requests.all, r.status = .approved ∧
        ∃ name, r.target = .group name ∧ Text.normalize name = group ∧
          Text.normalize r.requester = user := by
  have atStart : start.requests.Back start.directory := fun group user member =>
    absurd member (noMembers group user)
  exact run.keeps (p := fun w => w.requests.Back w.directory) atStart
    (fun _ _ moves h => moves.back h) fun setup _ c calm h => c.back setup calm h

def World.withMember : World :=
  (RequestCall.updateStatus (.of "lead" []) (World.numberedId 1) ⟨.approved, none⟩).after default
    .withRequest

theorem Run.alice_has_request :
    World.withMember.directory.HasMember "ops" "alice" ∧
      ∃ r ∈ World.withMember.requests.all, r.status = .approved ∧
        ∃ name, r.target = .group name ∧ Text.normalize name = "ops" ∧
          Text.normalize r.requester = "alice" := by
  have submitted : Run World.NobodyJoins (World.Undisturbed · .saveRequest) .withOps .withRequest :=
    .call .start (World.undisturbed_of_unplanned rfl _) default _
  have run : Run World.NobodyJoins (World.Undisturbed · .saveRequest) .withOps .withMember :=
    .call submitted (World.undisturbed_withRequest _) default _
  have member : World.withMember.directory.HasMember "ops" "alice" := by
    refine ⟨⟨⟨["lead"], [], false, true⟩, .ofList ["alice"]⟩, by decide +kernel, ?_⟩
    exact NameSet.mem_ofList.2 List.mem_cons_self
  refine ⟨member, run.members_backed (fun group user member => ?_) "ops" "alice" member⟩
  obtain ⟨g, here, -⟩ := Directory.hasMember_putAttributes.1 member
  cases here

end AccessBroker
