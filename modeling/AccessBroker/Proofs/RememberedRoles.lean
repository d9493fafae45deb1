import AccessBroker.Proofs.EligibleRoles
import AccessBroker.Proofs.Forgetting
import AccessBroker.Proofs.InterfaceEffects
import AccessBroker.Proofs.WellFormedRequests

/-! # Remembered roles over runs

The roles that a user is answered were worked out for that user by the latest
call that found nothing remembered.  What was worked out stays until a
membership of the user changes; then it is gone, and the next call works the
roles out anew.
-/

namespace AccessBroker

open Service (eligibleRoles offeredRoles)

/-- A call that found nothing remembered. -/
structure Miss where
  who : Identity
  console : Bool
  /-- The document that was in force. -/
  document : ConfigDocument

namespace Miss

def roles (m : Miss) : List RoleMapping :=
  offeredRoles m.document m.who m.console

/-- Of some misses, latest first, the latest one of a user for one kind of session. -/
def latest? (misses : List Miss) (user : String) (console : Bool) : Option Miss :=
  misses.find? fun m => m.who.user = user && m.console = console

variable {misses : List Miss} {m : Miss} {user : String} {console : Bool}

theorem latest?_cons_self (misses : List Miss) (m : Miss) :
    latest? (m :: misses) m.who.user m.console = some m := by
  rw [latest?, List.find?_cons_of_pos]
  simp

theorem latest?_cons_of_ne (other : ¬ (user = m.who.user ∧ console = m.console)) :
    latest? (m :: misses) user console = latest? misses user console := by
  rw [latest?, List.find?_cons_of_neg, latest?]
  intro here
  simp only [Bool.and_eq_true, decide_eq_true_eq] at here
  exact other ⟨here.1.symm, here.2.symm⟩

end Miss

namespace World

structure RemembersRoles (w : World) : Prop where
  reads : w.Undisturbed .getEligible
  writes : w.Undisturbed .putEligible
  forgets : w.Undisturbed .invalidateUser
  saves : w.Undisturbed .saveRequest

structure RolesStay (before after : World) : Prop where
  requests : after.requests = before.requests
  eligible : after.eligible = before.eligible

/-- The misses, latest first, once the identity has asked for its roles. -/
def missesAfter (w : World) (misses : List Miss) (who : Identity) (console : Bool) : List Miss :=
  match w.eligible.get? who.user console with
  | some _ => misses
  | none => ⟨who, console, w.published.document⟩ :: misses

end World

namespace Service

open World (Alike)

variable {setup : Setup} {w : World} {who : Identity} {console : Bool} {roles : List RoleMapping}

/-! ## One call -/

theorem perform_eligibleRoles_hit (setup : Setup) (reads : w.Undisturbed .getEligible)
    (hit : w.eligible.get? who.user console = some roles) :
    ∃ left, Alike w left ∧ (eligibleRoles who console).perform setup w = (.ok roles, left) := by
  have ends : Ends setup w (eligibleRoles who console)
      (fun answer left => Alike w left ∧ answer = roles) fun _ _ => False := by
    simp only [eligibleRoles, ends_bind, ends_tryCatch]
    apply ends_getEligible
    · intro left alike
      rw [hit]
      exact ⟨alike, rfl⟩
    · intro e left fails
      exact absurd fails reads.not_fail
  obtain ⟨_, left, run, alike, rfl⟩ := ends.ok
  exact ⟨left, alike, run⟩

theorem perform_eligibleRoles_miss (setup : Setup) (answers : w.RemembersRoles)
    (miss : w.eligible.get? who.user console = none) :
    ∃ left,
      Alike { w with
        eligible := w.eligible.put who.user console
          (offeredRoles w.published.document who console) setup.settings.eligibleLifetime } left ∧
      (eligibleRoles who console).perform setup w =
        (.ok (offeredRoles w.published.document who console), left) := by
  have ends : Ends setup w (eligibleRoles who console)
      (fun answer left => Alike { w with
          eligible := w.eligible.put who.user console
            (offeredRoles w.published.document who console) setup.settings.eligibleLifetime } left ∧
        answer = offeredRoles w.published.document who console) fun _ _ => False := by
    simp only [eligibleRoles, ends_bind, ends_tryCatch]
    apply ends_getEligible
    · intro mid alike
      have works : offeredRoles mid.published.document who console =
          offeredRoles w.published.document who console := by
        rw [alike.published]
      rw [miss]
      simp only [ends_bind, ends_get, ends_settings, ends_quietly, ends_pure, works]
      apply ends_putEligible
      · intro left alike'
        rw [alike.eligible] at alike'
        exact ⟨(alike.setEligible _).trans alike', trivial⟩
      · intro e left fails
        exact absurd fails (answers.writes.rest alike.leftOver).not_fail
    · intro e left fails
      exact absurd fails answers.reads.not_fail
  obtain ⟨_, left, run, alike, rfl⟩ := ends.ok
  exact ⟨left, alike, run⟩

/-- A call leaves what is remembered as it was, or adds what it has worked out. -/
theorem eligible_after_ask (answers : w.RemembersRoles) (setup : Setup) (who : Identity)
    (console : Bool) :
    ((eligibleRoles who console).perform setup w).2.requests = w.requests ∧
      ((eligibleRoles who console).perform setup w).2.eligible =
        match w.eligible.get? who.user console with
        | some _ => w.eligible
        | none => w.eligible.put who.user console
            (offeredRoles w.published.document who console) setup.settings.eligibleLifetime := by
  cases found : w.eligible.get? who.user console with
  | some roles =>
    obtain ⟨left, alike, run⟩ := perform_eligibleRoles_hit setup answers.reads found
    rw [run]
    exact ⟨alike.requests, alike.eligible⟩
  | none =>
    obtain ⟨left, alike, run⟩ := perform_eligibleRoles_miss setup answers found
    rw [run]
    exact ⟨alike.requests, alike.eligible⟩

theorem writeConfig_rolesStay (setup : Setup) (w : World) (document : ConfigDocument)
    (expected : Option String) (author : String) :
    w.RolesStay ((writeConfig document expected author).perform setup w).2 := by
  have overlooks : OverlooksConfig w.RolesStay := by
    constructor
    · intro _ _ alike _ stay
      exact ⟨alike.requests.trans stay.requests, alike.eligible.trans stay.eligible⟩
    · intro _ _ stay
      exact ⟨stay.requests, stay.eligible⟩
    · intro _ _ stay
      exact ⟨stay.requests, stay.eligible⟩
    · intro _ _ _ stay
      exact ⟨stay.requests, stay.eligible⟩
  apply Ends.left
  apply (overlooks.writeConfig document expected author).ends ⟨rfl, rfl⟩
  · exact fun _ _ stay => stay
  · exact fun _ _ stay => stay

end Service

/-! ## Runs -/

/-- Users ask for their roles, requests are worked on and configurations are written, in any order
and with anything in between that leaves requests and remembered roles alone.  The misses are
noted on the way. -/
inductive AskRun (start : World) : List Miss → World → Prop where
  | start : AskRun start [] start
  | move {misses : List Miss} {w moved : World} (run : AskRun start misses w)
    (stay : w.RolesStay moved) : AskRun start misses moved
  | ask {misses : List Miss} {w : World} (run : AskRun start misses w) (answers : w.RemembersRoles)
    (setup : Setup) (user : String) (groups : List String) (console : Bool) :
    AskRun start (w.missesAfter misses (.of user groups) console)
      ((eligibleRoles (.of user groups) console).perform setup w).2
  | call {misses : List Miss} {w : World} (run : AskRun start misses w)
    (answers : w.RemembersRoles) (setup : Setup) (c : RequestCall) (named : c.FromUser) :
    AskRun start misses (c.after setup w)
  | write {misses : List Miss} {w : World} (run : AskRun start misses w) (setup : Setup)
    (document : ConfigDocument) (expected : Option String) (author : String) :
    AskRun start misses ((Service.writeConfig document expected author).perform setup w).2

/-- What is remembered of a user was worked out by the latest miss, or was there before and the user
has not missed since. -/
def Remembers (start : World) (misses : List Miss) (w : World) : Prop :=
  ∀ user console roles, Text.lower user = user → w.eligible.get? user console = some roles →
    (∃ m, Miss.latest? misses user console = some m ∧ m.roles = roles) ∨
      Miss.latest? misses user console = none ∧ start.eligible.get? user console = some roles

def World.RequestersLower (w : World) : Prop :=
  ∀ r ∈ w.requests.all, Text.lower r.requester = r.requester

variable {start w : World} {misses : List Miss}

theorem Remembers.of_eligible {left : World} (h : Remembers start misses w)
    (same : left.eligible = w.eligible) : Remembers start misses left := by
  intro user console roles lower here
  rw [same] at here
  exact h user console roles lower here

theorem Remembers.ask {who : Identity} (h : Remembers start misses w) (answers : w.RemembersRoles)
    (normal : Text.lower who.user = who.user) (setup : Setup) (console : Bool) :
    Remembers start (w.missesAfter misses who console)
      ((eligibleRoles who console).perform setup w).2 := by
  have after := (Service.eligible_after_ask answers setup who console).2
  intro user flag roles lower here
  rw [after] at here
  cases found : w.eligible.get? who.user console with
  | some _ =>
    rw [found] at here
    rw [World.missesAfter, found]
    exact h user flag roles lower here
  | none =>
    rw [found, EligibleCache.get?_put, lower, normal] at here
    rw [World.missesAfter, found]
    by_cases own : user = who.user ∧ flag = console
    · obtain ⟨rfl, rfl⟩ := own
      split at here
      · have latest := Miss.latest?_cons_self misses ⟨who, flag, w.published.document⟩
        exact .inl ⟨_, latest, Option.some.inj here⟩
      · rw [found] at here
        cases here
    · rw [if_neg fun put => own put.2] at here
      rw [Miss.latest?_cons_of_ne own]
      exact h user flag roles lower here

theorem Remembers.call (h : Remembers start misses w) (answers : w.RemembersRoles) (setup : Setup)
    (c : RequestCall) : Remembers start misses (c.after setup w) := by
  intro user console roles lower here
  rcases (c.forgets setup w answers.saves answers.forgets).spared user console with kept | lost
  · rw [kept] at here
    exact h user console roles lower here
  · rw [lost.1] at here
    cases here

theorem AskRun.remembers (run : AskRun start misses w) : Remembers start misses w := by
  induction run with
  | start => exact fun user console roles _ here => .inr ⟨rfl, here⟩
  | move _ stay ih => exact ih.of_eligible stay.eligible
  | ask _ answers setup user groups console ih =>
    have normal : Text.lower (Identity.of user groups).user = (Identity.of user groups).user :=
      Text.lower_normalize user
    exact ih.ask answers normal setup console
  | call _ answers setup c _ ih => exact ih.call answers setup c
  | @write _ w _ setup document expected author ih =>
    have stay := Service.writeConfig_rolesStay setup w document expected author
    exact ih.of_eligible stay.eligible

/-! ## Requesters -/

theorem RequestCall.requestersLower_after (setup : Setup) (c : RequestCall) (named : c.FromUser)
    (h : w.RequestersLower) : (c.after setup w).RequestersLower := by
  intro r' stored
  rcases RequestCall.stored_after stored with here | ⟨r, here, edit⟩ | ⟨who, s, submitted, created⟩
  · exact h r' here
  · rw [edit.continues.requester]
    exact h r here
  · subst submitted
    obtain ⟨user, groups, here⟩ := named
    exact (created.wellFormed here).1.requester.2

theorem AskRun.requestersLower (run : AskRun start misses w) (h : start.RequestersLower) :
    w.RequestersLower := by
  have stays {w left : World} (same : left.requests = w.requests) (h : w.RequestersLower) :
      left.RequestersLower := by
    intro r stored
    rw [same] at stored
    exact h r stored
  induction run with
  | start => exact h
  | move _ stay ih => exact stays stay.requests ih
  | ask _ answers setup user groups console ih =>
    exact stays (Service.eligible_after_ask answers setup _ console).1 ih
  | call _ _ setup c named ih => exact c.requestersLower_after setup named ih
  | write _ setup document expected author ih =>
    exact stays (Service.writeConfig_rolesStay setup _ document expected author).requests ih

/-! ## What is remembered, and for how long -/

/-- A call drops nothing of what is remembered. -/
theorem Service.ask_drops_nothing (answers : w.RemembersRoles) (setup : Setup) (who : Identity)
    (console : Bool) {user : String} {flag : Bool} {roles : List RoleMapping}
    (here : w.eligible.get? user flag = some roles) :
    ((eligibleRoles who console).perform setup w).2.eligible.get? user flag = some roles := by
  rw [(Service.eligible_after_ask answers setup who console).2]
  cases found : w.eligible.get? who.user console with
  | some _ => exact here
  | none =>
    have other : ¬ (Text.lower user = Text.lower who.user ∧ flag = console) := by
      rintro ⟨same, rfl⟩
      rw [w.eligible.get?_congr same, found] at here
      cases here
    simp only [EligibleCache.get?_put, if_neg fun put => other (And.right put)]
    exact here

/-- A call is answered by the latest miss of the user, which may be the call itself. -/
theorem Service.ask_answers (h : Remembers start misses w) (nothing : start.eligible = .empty)
    (answers : w.RemembersRoles) (setup : Setup) {who : Identity}
    (normal : Text.lower who.user = who.user) (console : Bool) :
    ∃ m left, (eligibleRoles who console).perform setup w = (.ok m.roles, left) ∧
      Miss.latest? (w.missesAfter misses who console) who.user console = some m ∧
      (0 < setup.settings.eligibleLifetime →
        left.eligible.get? who.user console = some m.roles) := by
  cases found : w.eligible.get? who.user console with
  | some roles =>
    obtain ⟨left, alike, run⟩ := perform_eligibleRoles_hit setup answers.reads found
    rcases h who.user console roles normal found with ⟨m, latest, rfl⟩ | ⟨-, before⟩
    · refine ⟨m, left, run, ?_, fun _ => ?_⟩
      · rw [World.missesAfter, found]
        exact latest
      · rw [alike.eligible, found]
    · rw [nothing, EligibleCache.get?_empty] at before
      cases before
  | none =>
    obtain ⟨left, alike, run⟩ := perform_eligibleRoles_miss setup answers found
    refine ⟨⟨who, console, w.published.document⟩, left, run, ?_, fun lasting => ?_⟩
    · rw [World.missesAfter, found]
      exact Miss.latest?_cons_self misses ⟨who, console, w.published.document⟩
    · rw [alike.eligible, EligibleCache.get?_put, if_pos ⟨lasting, rfl, rfl⟩]
      rfl

/-- Of a user who was forgotten when a run began nothing is remembered until the user asks. -/
theorem AskRun.recomputes (run : AskRun start misses w) (answers : w.RemembersRoles)
    (setup : Setup) {who : Identity} {console : Bool} (normal : Text.lower who.user = who.user)
    (dropped : start.eligible.get? who.user console = none)
    (unasked : Miss.latest? misses who.user console = none) :
    ((eligibleRoles who console).perform setup w).1 =
      .ok (offeredRoles w.published.document who console) := by
  have miss : w.eligible.get? who.user console = none := by
    cases found : w.eligible.get? who.user console with
    | none => rfl
    | some roles =>
      rcases run.remembers who.user console roles normal found with ⟨m, latest, -⟩ | ⟨-, before⟩
      · rw [unasked] at latest
        cases latest
      · rw [dropped] at before
        cases before
  obtain ⟨left, -, answered⟩ := Service.perform_eligibleRoles_miss setup answers miss
  rw [answered]

/-- At any time of a run that begins with nothing stored and nothing remembered:

* a call is answered by what the latest miss of the same user and kind of session worked out, which
  from then on is remembered, and the call drops nothing;
* writing a configuration drops nothing;
* a call about requests drops both answers of the requester of every request for a group that it
  moves to approved, removed or expired, and the next time the user asks, whenever that is, the
  roles are worked out from the document and the groups of that time;
* it drops no others: who loses an answer made such a request. -/
theorem AskRun.roles_remembered (run : AskRun start misses w) (empty : start.requests = .empty)
    (nothing : start.eligible = .empty) (answers : w.RemembersRoles) (setup : Setup) :
    (∀ user groups console, ∃ m left,
      (eligibleRoles (.of user groups) console).perform setup w = (.ok m.roles, left) ∧
      Miss.latest? (w.missesAfter misses (.of user groups) console)
        (Identity.of user groups).user console = some m ∧
      (0 < setup.settings.eligibleLifetime →
        left.eligible.get? (Identity.of user groups).user console = some m.roles) ∧
      ∀ other flag roles, w.eligible.get? other flag = some roles →
        left.eligible.get? other flag = some roles) ∧
    (∀ document expected author,
      ((Service.writeConfig document expected author).perform setup w).2.eligible = w.eligible) ∧
    ∀ c : RequestCall, c.FromUser →
      (∀ r, ChangesMembership w (c.after setup w) r → ∀ console,
        (c.after setup w).eligible.get? r.requester console = none ∧
        ∀ misses' w', AskRun (c.after setup w) misses' w' → w'.RemembersRoles →
          Miss.latest? misses' r.requester console = none →
          ∀ setup' who, who.user = r.requester →
            ((eligibleRoles who console).perform setup' w').1 =
              .ok (offeredRoles w'.published.document who console)) ∧
      ∀ user groups console roles,
        w.eligible.get? (Identity.of user groups).user console = some roles →
        (c.after setup w).eligible.get? (Identity.of user groups).user console = some roles ∨
          ∃ r, ChangesMembership w (c.after setup w) r ∧
            r.requester = (Identity.of user groups).user := by
  have normal (user : String) (groups : List String) :
      Text.lower (Identity.of user groups).user = (Identity.of user groups).user :=
    Text.lower_normalize user
  have lower : w.RequestersLower := by
    apply run.requestersLower
    intro r stored
    rw [empty] at stored
    cases stored
  refine ⟨?_, ?_, ?_⟩
  · intro user groups console
    obtain ⟨m, left, answered, latest, kept⟩ :=
      Service.ask_answers run.remembers nothing answers setup (normal user groups) console
    refine ⟨m, left, answered, latest, kept, ?_⟩
    intro other flag roles here
    have still := Service.ask_drops_nothing answers setup (.of user groups) console here
    rw [answered] at still
    exact still
  · intro document expected author
    exact (Service.writeConfig_rolesStay setup w document expected author).eligible
  · intro c named
    have forgets := c.forgets setup w answers.saves answers.forgets
    have lowerAfter := c.requestersLower_after setup named lower
    have requester {r : Request} (changes : ChangesMembership w (c.after setup w) r) :
        Text.lower r.requester = r.requester :=
      lowerAfter r (RequestStore.mem_all_iff.2 changes.stored)
    constructor
    · intro r changes console
      have dropped := forgets.dropped r changes console
      refine ⟨dropped, ?_⟩
      intro misses' w' run' answers' unasked setup' who same
      rw [← same] at dropped unasked
      apply run'.recomputes answers' setup' _ dropped unasked
      rw [same]
      exact requester changes
    · intro user groups console roles here
      rcases forgets.spared (Identity.of user groups).user console with kept | ⟨-, r, changes, own⟩
      · rw [kept]
        exact .inl here
      · rw [requester changes, normal] at own
        exact .inr ⟨r, changes, own⟩

/-! ## A new member -/

namespace World

def clubPlayers : ConfigDocument :=
  ⟨.object [("role_mappings", .object [("club", .array [.string "player"])])], rfl⟩

def withPlayers : World :=
  { withClub with published := ⟨clubPlayers, none, none, none⟩ }

def aliceAsked : World :=
  ((eligibleRoles (.of "alice" []) false).perform default withPlayers).2

def aliceJoined : World :=
  (RequestCall.submit (.of "alice" []) ⟨.group "club", "chess", none⟩).after default aliceAsked

theorem remembersRoles_of_unplanned {w : World} (h : w.plan = []) : w.RemembersRoles :=
  ⟨undisturbed_of_unplanned h _, undisturbed_of_unplanned h _, undisturbed_of_unplanned h _,
    undisturbed_of_unplanned h _⟩

theorem aliceJoined_membership :
    ∃ r, ChangesMembership aliceAsked aliceJoined r ∧ r.requester = "alice" := by
  have there : (aliceJoined.requests.all.any fun r =>
      r.status = .approved && r.requester = "alice" && r.target = .group "club") = true := by
    decide +kernel
  have new : aliceAsked.requests = .empty :=
    (Service.eligible_after_ask (remembersRoles_of_unplanned rfl) default _ false).1
  obtain ⟨r, stored, shown⟩ := List.any_eq_true.1 there
  simp only [Bool.and_eq_true, decide_eq_true_eq] at shown
  obtain ⟨⟨status, requester⟩, target⟩ := shown
  refine ⟨r, ⟨RequestStore.mem_all_iff.1 stored, ⟨_, target⟩, .inl status, ?_⟩, requester⟩
  intro old here
  rw [new] at here
  cases here

/-- Nothing is remembered of her any more, and asking as a member she is offered the role. -/
theorem alice_plays :
    (∃ r, ChangesMembership aliceAsked aliceJoined r ∧ r.requester = "alice" ∧
      ∀ console, aliceJoined.eligible.get? r.requester console = none) ∧
      ((eligibleRoles (.of "alice" ["club"]) false).perform default aliceJoined).1 =
        .ok [⟨"player", false⟩] := by
  have run : AskRun withPlayers _ aliceAsked :=
    .ask .start (remembersRoles_of_unplanned rfl) default "alice" [] false
  have calm : aliceAsked.RemembersRoles := remembersRoles_of_unplanned (by decide +kernel)
  have calmAfter : aliceJoined.RemembersRoles := remembersRoles_of_unplanned (by decide +kernel)
  obtain ⟨-, -, calls⟩ := run.roles_remembered rfl rfl calm default
  obtain ⟨forgotten, -⟩ := calls (.submit (.of "alice" []) ⟨.group "club", "chess", none⟩)
    ⟨"alice", [], rfl⟩
  obtain ⟨r, changes, requester⟩ := aliceJoined_membership
  have same : (Identity.of "alice" ["club"]).user = r.requester := by
    rw [requester]
    decide +kernel
  have recomputed := (forgotten r changes false).2 [] aliceJoined .start calmAfter rfl default _ same
  have inForce : aliceJoined.published.document = clubPlayers := by decide +kernel
  have club : clubPlayers.roleMappings "club" = [⟨"player", false⟩] := by
    simp only [ConfigDocument.roleMappings, Text.sameAscii_eq]
    decide +kernel
  have alice : clubPlayers.roleMappings "alice" = [] := by
    simp only [ConfigDocument.roleMappings, Text.sameAscii_eq]
    decide +kernel
  have offered : offeredRoles clubPlayers (.of "alice" ["club"]) false = [⟨"player", false⟩] := by
    have names : (Identity.of "alice" ["club"]).user ::
        (Identity.of "alice" ["club"]).groups.toList = ["alice", "club"] := by
      decide +kernel
    simp only [offeredRoles, names, List.flatMap_cons, List.flatMap_nil, alice, club]
    decide +kernel
  refine ⟨⟨r, changes, requester, fun console => (forgotten r changes console).1⟩, ?_⟩
  rw [recomputed, inForce, offered]

end World

end AccessBroker
