import AccessBroker.Proofs.Bystanders
import AccessBroker.Proofs.Membership

/-! # How long an approval stands for a membership

Nobody looks whether a second approved request stands for the membership that
ends with the first one.  So an approved request makes its requester a member
only until some request for the same membership is expired or removed.
-/

namespace AccessBroker

open Service (moved)

/-- The request granted a membership that has been ended. -/
def Request.Ended (r : Request) (group user : String) : Prop :=
  (r.status = .expired ∨ r.status = .removed) ∧ ∃ name, r.target = .group name ∧
    Text.normalize name = group ∧ Text.normalize r.requester = user

/-- Whoever has an approved request is a member, unless the membership has been ended since. -/
def RequestStore.Granted (s : RequestStore) (d : Directory) : Prop :=
  ∀ r ∈ s.all, ∀ group user, r.Confers group user →
    d.HasMember group user ∨
      ∃ other ∈ s.all, other.Ended group user ∧ r.lastUpdated ≤ other.lastUpdated

def RequestStore.Past (s : RequestStore) (now : Timestamp) : Prop :=
  ∀ r ∈ s.all, r.lastUpdated ≤ now

/-! ## Turns -/

namespace RequestStore

variable {s t : RequestStore} {d after : Directory} {r : Request} {now : Timestamp}

theorem Past.put (h : s.Past now) (past : r.lastUpdated ≤ now) : (s.put r).Past now := by
  intro x stored
  rcases mem_all_put.1 stored with rfl | ⟨-, stored⟩
  · exact past
  · exact h x stored

/-- A request may be put in the place of another one if it stands for no more than that one did and
each member either stays or has left on its account. -/
theorem Granted.put (h : s.Granted d)
    (granted : ∀ group user, r.Confers group user → after.HasMember group user ∨
      ∃ old, s.find? r.id = some old ∧ old.Confers group user ∧ old.lastUpdated = r.lastUpdated)
    (kept : ∀ old group user, s.find? r.id = some old → old.Ended group user →
      r.Ended group user ∧ old.lastUpdated ≤ r.lastUpdated)
    (stays : ∀ group user, d.HasMember group user → after.HasMember group user ∨
      r.Ended group user ∧ ∀ x ∈ s.all, x.lastUpdated ≤ r.lastUpdated) :
    (s.put r).Granted after := by
  have here : r ∈ (s.put r).all := mem_all_put.2 (.inl rfl)
  -- Whatever the store had for a request before it still has, or has `r` for it.
  have still (x : Request) (stored : x ∈ s.all) (group user : String)
      (confers : x.Confers group user) : after.HasMember group user ∨
        ∃ other ∈ (s.put r).all, other.Ended group user ∧ x.lastUpdated ≤ other.lastUpdated := by
    rcases h x stored group user confers with member | ⟨other, known, ended, since⟩
    · refine (stays group user member).imp_right ?_
      rintro ⟨ended, past⟩
      exact ⟨r, here, ended, past x stored⟩
    · by_cases same : other.id = r.id
      · obtain ⟨ended, later⟩ := kept other group user (same ▸ mem_all_iff.1 known) ended
        exact .inr ⟨r, here, ended, Int.le_trans since later⟩
      · exact .inr ⟨other, mem_all_put.2 (.inr ⟨same, known⟩), ended, since⟩
  intro x stored group user confers
  rcases mem_all_put.1 stored with rfl | ⟨-, stored⟩
  · rcases granted group user confers with member | ⟨old, known, conferred, time⟩
    · exact .inl member
    · rw [← time]
      have id : old.id = x.id := (find?_eq_some_iff.1 known).2
      exact still old (mem_all_iff.2 (id ▸ known)) group user conferred
  · exact still x stored group user confers

end RequestStore

variable {now : Timestamp} {w left : World}

theorem Turn.past (turn : Turn now w left) (h : w.requests.Past now) : left.requests.Past now := by
  have current {t : Timestamp} (time : t = now) : t ≤ now := by
    rw [time]
    exact Int.le_refl _
  cases turn with
  | still requests => rwa [requests]
  | create requests _ _ _ time =>
    intro x stored
    exact h.put (current time) x ((RequestStore.mem_all_congr requests).1 stored)
  | note requests _ stored =>
    have time := h _ (RequestStore.mem_all_iff.2 stored)
    rw [requests]
    exact h.put time
  | record requests _ _ _ _ time =>
    rw [requests]
    exact h.put (current time)
  | join requests =>
    rw [requests]
    exact h.put (current rfl)
  | leave requests =>
    rw [requests]
    exact h.put (current rfl)

theorem Turn.granted (turn : Turn now w left) (past : w.requests.Past now)
    (h : w.requests.Granted w.directory) : left.requests.Granted left.directory := by
  cases turn with
  | still requests directory => rwa [requests, directory]
  | @create r requests directory fresh pending =>
    have put : (w.requests.put r).Granted w.directory := by
      refine h.put (fun group user confers => ?_) (fun old group user here _ => ?_)
        fun group user => .inl
      · cases pending.symm.trans confers.1
      · cases fresh.symm.trans here
    intro x stored group user confers
    rw [directory]
    refine (put x ((RequestStore.mem_all_congr requests).1 stored) group user confers).imp_right ?_
    rintro ⟨other, known, h⟩
    exact ⟨other, (RequestStore.mem_all_congr requests).2 known, h⟩
  | note requests directory stored =>
    rw [requests, directory]
    refine h.put (fun group user confers => .inr ⟨_, stored, confers, rfl⟩)
      (fun old group user here ended => ?_) fun group user => .inl
    cases stored.symm.trans here
    exact ⟨ended, Int.le_refl _⟩
  | record requests directory stored waited idle =>
    rw [requests, directory]
    refine h.put (fun group user confers => ?_) (fun old group user here ended => ?_)
      fun group user => .inl
    · obtain ⟨approved, name, target, -⟩ := confers
      rcases idle with waits | policy
      · exact absurd approved waits
      · exact absurd target (policy name)
    · cases stored.symm.trans here
      obtain ⟨closed, -⟩ := ended
      rcases closed with closed | closed <;> simp [closed] at waited
  | join requests directory stored pending target known =>
    rw [requests, directory]
    refine h.put (fun group user confers => .inl ?_) (fun old group user here ended => ?_)
      fun group user member => .inl (Directory.hasMember_addMember.2 (.inl member))
    · obtain ⟨-, name, sameTarget, rfl, rfl⟩ := confers
      cases target.symm.trans sameTarget
      exact Directory.hasMember_addMember.2 (.inr ⟨known, rfl, rfl⟩)
    · cases stored.symm.trans here
      obtain ⟨closed, -⟩ := ended
      rcases closed with closed | closed <;> cases pending.symm.trans closed
  | @leave r group actor status comments requests directory known target closed =>
    rw [requests, directory]
    refine h.put (fun group user confers => ?_) (fun old group user here ended => ?_)
      fun other user member => ?_
    · obtain ⟨approved, -⟩ := confers
      have approved : status = .approved := approved
      rcases closed with closed | closed <;> cases closed.symm.trans approved
    · obtain ⟨stored, found, requester, sameTarget⟩ := known
      obtain rfl : stored = old := Option.some.inj (found.symm.trans here)
      obtain ⟨-, name, oldTarget, sameGroup, sameUser⟩ := ended
      -- A sweep may hold an older copy of the request, with the same requester and target.
      refine ⟨⟨closed, name, sameTarget.symm.trans oldTarget, sameGroup, ?_⟩, ?_⟩
      · rw [← sameUser, requester]
        rfl
      · have id : stored.id = r.id := (RequestStore.find?_eq_some_iff.1 found).2
        exact past stored (RequestStore.mem_all_iff.2 (id ▸ found))
    · by_cases same : other = Text.normalize group ∧ user = Text.normalize r.requester
      · exact .inr ⟨⟨closed, group, target, same.1.symm, same.2.symm⟩, past⟩
      · exact .inl (Directory.hasMember_removeMember.2 ⟨member, same⟩)

/-! ## Runs -/

/-- Between calls on requests, groups get other attributes through the services, and anything may
change but the requests and the members; the clock may not go back. -/
inductive World.MembersStay : World → World → Prop where
  | elsewhere {before after : World} (requests : after.requests = before.requests)
      (members : ∀ group user, after.directory.HasMember group user ↔
        before.directory.HasMember group user)
      (clock : before.clock.micros ≤ after.clock.micros) : MembersStay before after
  | updateGroup {before after : World} (setup : Setup) (who : Identity) (group : String)
      (attributes : GroupAttributes)
      (called : after = ((Service.updateGroup who group attributes).perform setup before).2) :
      MembersStay before after

theorem World.MembersStay.wait (w : World) (clock : Instant)
    (forward : w.clock.micros ≤ clock.micros) : MembersStay w (w.atTime clock) :=
  .elsewhere rfl (fun _ _ => Iff.rfl) forward

structure World.Granted (w : World) : Prop where
  past : w.requests.Past w.now
  granted : w.requests.Granted w.directory

theorem World.MembersStay.granted {before after : World} (moves : MembersStay before after)
    (h : before.Granted) : after.Granted := by
  have stay {after : World} (requests : after.requests = before.requests)
      (now : before.now ≤ after.now) (members : ∀ group user,
        before.directory.HasMember group user → after.directory.HasMember group user) :
      after.Granted := by
    constructor <;> rw [requests]
    · exact fun r stored => Int.le_trans (h.past r stored) now
    · exact fun r stored group user confers =>
        (h.granted r stored group user confers).imp_left (members group user)
  cases moves with
  | elsewhere requests members clock =>
    exact stay requests (World.now_le_now clock) fun group user => (members group user).2
  | updateGroup setup who group attributes called =>
    obtain ⟨directory, alike, laid⟩ :=
      Service.laidDown_updateGroup setup before who group attributes
    have now : after.now = before.now := by rw [called, alike.now]; rfl
    refine stay (by rw [called, alike.requests]) (by rw [now]; exact Int.le_refl _)
      fun group user member => ?_
    rw [called, alike.directory]
    rcases laid with rfl | ⟨name, tidy, rfl⟩
    · exact member
    · exact Directory.hasMember_putAttributes.2 member

theorem RequestCall.granted (setup : Setup) (c : RequestCall) (calm : w.Undisturbed .saveRequest)
    (h : w.Granted) : (c.after setup w).Granted := by
  obtain ⟨past, granted⟩ := (c.turns setup calm).keeps
    (p := fun left => left.requests.Past w.now ∧ left.requests.Granted left.directory)
    (fun _ _ turn h => ⟨turn.past h.1, turn.granted h.1 h.2⟩) ⟨h.past, h.granted⟩
  refine ⟨?_, granted⟩
  rwa [c.now_after]

/-- Whatever calls are made one after another, the requester of an approved request is a member of
its group, unless since the approval a request of the same user for the same group, however the
names are spelled, was expired or removed. -/
theorem Run.granted_until_ended {start : World}
    (run : Run World.MembersStay (World.Undisturbed · .saveRequest) start w)
    (noRequests : start.requests.all = []) :
    ∀ r ∈ w.requests.all, ∀ group, r.status = .approved → r.target = .group group →
      Text.normalize r.requester ∈ w.directory.members group ∨
      ∃ other ∈ w.requests.all, (other.status = .expired ∨ other.status = .removed) ∧
        r.lastUpdated ≤ other.lastUpdated ∧ ∃ name, other.target = .group name ∧
          Text.normalize name = Text.normalize group ∧
          Text.normalize other.requester = Text.normalize r.requester := by
  have atStart : start.Granted := by
    constructor <;> intro r stored <;> rw [noRequests] at stored <;> cases stored
  have holds : w.Granted := run.keeps atStart (fun _ _ moves h => moves.granted h)
    fun setup _ c calm h => c.granted setup calm h
  intro r stored group approved target
  have confers : r.Confers (Text.normalize group) (Text.normalize r.requester) :=
    ⟨approved, group, target, rfl, rfl⟩
  rcases holds.granted r stored _ _ confers with member | ⟨other, known, ⟨closed, named⟩, since⟩
  · exact .inl (Directory.hasMember_normalize.1 member)
  · exact .inr ⟨other, known, closed, since, named⟩

/-! ## Two requests for one membership -/

def World.letIn (w : World) (id : Nat) (expiresAt : Option Timestamp) : World :=
  (RequestCall.updateStatus (.of "lead" []) (World.numberedId id) ⟨.approved, none⟩).after default
    ((RequestCall.submit (.of "alice" []) ⟨.group "ops", "on call", expiresAt⟩).after default w)

theorem Run.letIn (run : Run World.MembersStay (World.Undisturbed · .saveRequest) .withOps w)
    (calm : w.Undisturbed .saveRequest) (id : Nat) (expiresAt : Option Timestamp) :
    Run World.MembersStay (World.Undisturbed · .saveRequest) .withOps (w.letIn id expiresAt) :=
  (run.call calm default _).call (RequestCall.undisturbed_after _ calm) default _

theorem World.undisturbed_letIn (calm : w.Undisturbed .saveRequest) (id : Nat)
    (expiresAt : Option Timestamp) : (w.letIn id expiresAt).Undisturbed .saveRequest :=
  RequestCall.undisturbed_after _ (RequestCall.undisturbed_after _ calm)

theorem World.undisturbed_atTime (calm : w.Undisturbed .saveRequest) (clock : Instant) :
    (w.atTime clock).Undisturbed .saveRequest := calm

/-- She is let in for an hour and then once more, for good. -/
def World.withBoth : World :=
  (World.withOps.letIn 1 (some ⟨3600, by decide, by decide⟩)).letIn 2 none

def World.withSwept : World :=
  (RequestCall.expireDue 0).after default
    (World.withBoth.atTime ⟨10800000000, by decide, by decide⟩)

theorem World.withSwept_reached :
    Run World.MembersStay (World.Undisturbed · .saveRequest) .withOps .withSwept := by
  have calm : World.withOps.Undisturbed .saveRequest := World.undisturbed_of_unplanned rfl _
  have once := World.undisturbed_letIn calm 1 (some ⟨3600, by decide, by decide⟩)
  have both : Run World.MembersStay (World.Undisturbed · .saveRequest) .withOps .withBoth :=
    (Run.start.letIn calm 1 _).letIn once 2 none
  have stood : World.withBoth.clock = World.withOps.clock := by
    simp only [World.withBoth, World.letIn, RequestCall.clock_after]
  have forward : World.withBoth.clock.micros ≤ 10800000000 := by
    rw [stood]
    decide
  have later := both.move (World.MembersStay.wait _ ⟨10800000000, by decide, by decide⟩ forward)
  exact later.call (World.undisturbed_atTime (World.undisturbed_letIn once 2 none) _) default _

theorem World.approved_withSwept :
    ∃ r ∈ World.withSwept.requests.all, r.status = .approved ∧ r.expiresAt = none ∧
      r.target = .group "ops" ∧
      Text.normalize r.requester ∉ World.withSwept.directory.members "ops" := by
  have swept : (World.withSwept.requests.all.any fun r =>
      decide (r.status = .approved ∧ r.expiresAt = none ∧ r.target = .group "ops") &&
        !(World.withSwept.directory.members "ops").contains (Text.normalize r.requester)) =
      true := by
    decide +kernel
  obtain ⟨r, stored, facts⟩ := List.any_eq_true.1 swept
  obtain ⟨facts, gone⟩ := Bool.and_eq_true_iff.1 facts
  obtain ⟨approved, unlimited, target⟩ := of_decide_eq_true facts
  refine ⟨r, stored, approved, unlimited, target, fun member => ?_⟩
  rw [NameSet.contains_iff.2 member] at gone
  cases gone

/-- An approved request without expiry, whose requester is no member. -/
theorem Run.approval_outlived :
    ∃ w, Run World.MembersStay (World.Undisturbed · .saveRequest) .withOps w ∧
      World.withOps.requests.all = [] ∧
      (∀ group user, ¬ World.withOps.directory.HasMember group user) ∧
      ∃ r ∈ w.requests.all, r.status = .approved ∧ r.expiresAt = none ∧ r.target = .group "ops" ∧
        Text.normalize r.requester ∉ w.directory.members "ops" := by
  refine ⟨_, World.withSwept_reached, rfl, fun group user member => ?_, World.approved_withSwept⟩
  obtain ⟨g, here, -⟩ := Directory.hasMember_putAttributes.1 member
  cases here

theorem Run.ended_with_the_other :
    ∃ r ∈ World.withSwept.requests.all, ∃ other ∈ World.withSwept.requests.all,
      r.status = .approved ∧ (other.status = .expired ∨ other.status = .removed) ∧
        r.lastUpdated ≤ other.lastUpdated := by
  obtain ⟨r, stored, approved, -, target, gone⟩ := World.approved_withSwept
  have lasts := World.withSwept_reached.granted_until_ended rfl r stored "ops" approved target
  obtain ⟨other, known, closed, since, -⟩ := lasts.resolve_left gone
  exact ⟨r, stored, other, known, approved, closed, since⟩

end AccessBroker
