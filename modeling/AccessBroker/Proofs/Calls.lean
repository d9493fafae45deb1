import AccessBroker.Broker.Calls
import AccessBroker.Proofs.Programs

/-! # What calls to other systems change

Every call is journaled, may use up a part of the plan and may take time.
Worlds that differ in this alone are alike.  For each call there is one rule
that says how it can end, up to alike worlds.
-/

namespace AccessBroker

def LeftOver (rest plan : List Planned) : Prop :=
  ∀ p ∈ rest, ∃ q ∈ plan, q.kind = p.kind ∧ q.disturbance = p.disturbance

namespace LeftOver

theorem refl (plan : List Planned) : LeftOver plan plan := fun p hp => ⟨p, hp, rfl, rfl⟩

theorem trans {a b c : List Planned} (hab : LeftOver a b) (hbc : LeftOver b c) : LeftOver a c := by
  intro p hp
  obtain ⟨q, hq, hkind, hdisturbance⟩ := hab p hp
  obtain ⟨o, ho, hkind', hdisturbance'⟩ := hbc q hq
  exact ⟨o, ho, hkind'.trans hkind, hdisturbance'.trans hdisturbance⟩

theorem next (kind : CallKind) (plan : List Planned) :
    LeftOver (Service.nextDisturbance kind plan).2 plan := by
  fun_induction Service.nextDisturbance kind plan with
  | case1 => exact refl _
  | case2 first rest same none ih =>
    exact ih.trans fun p hp => ⟨p, List.mem_cons_of_mem _ hp, rfl, rfl⟩
  | case3 first rest same left count =>
    intro p hp
    rcases List.mem_cons.1 hp with rfl | hp
    · exact ⟨first, List.mem_cons_self, rfl, rfl⟩
    · exact ⟨p, List.mem_cons_of_mem _ hp, rfl, rfl⟩
  | case4 first rest other found left eq ih =>
    intro p hp
    rcases List.mem_cons.1 hp with rfl | hp
    · exact ⟨p, List.mem_cons_self, rfl, rfl⟩
    · rw [eq] at ih
      obtain ⟨q, hq, h⟩ := ih p hp
      exact ⟨q, List.mem_cons_of_mem _ hq, h⟩

end LeftOver

namespace World

/-- The worlds differ at most in the journal, in what is left of the plan and in the time spent
waiting. -/
structure Alike (before after : World) : Prop where
  same : after =
    { before with journal := after.journal, plan := after.plan, waited := after.waited }
  leftOver : LeftOver after.plan before.plan

namespace Alike

variable {a b c : World}

theorem refl (w : World) : Alike w w := ⟨rfl, .refl _⟩

theorem trans (hab : Alike a b) (hbc : Alike b c) : Alike a c where
  same := by rw [hbc.same, hab.same]
  leftOver := hbc.leftOver.trans hab.leftOver

theorem requests (h : Alike a b) : b.requests = a.requests := by rw [h.same]

theorem directory (h : Alike a b) : b.directory = a.directory := by rw [h.same]

theorem cloud (h : Alike a b) : b.cloud = a.cloud := by rw [h.same]

theorem fast (h : Alike a b) : b.fast = a.fast := by rw [h.same]

theorem durable (h : Alike a b) : b.durable = a.durable := by rw [h.same]

theorem published (h : Alike a b) : b.published = a.published := by rw [h.same]

theorem drawn (h : Alike a b) : b.drawn = a.drawn := by rw [h.same]

theorem nextId (h : Alike a b) : b.nextId = a.nextId := by
  rw [h.same]
  rfl

theorem now (h : Alike a b) : b.now = a.now := by rw [h.same]; rfl

theorem clock (h : Alike a b) : b.clock = a.clock := by rw [h.same]

theorem config (h : Alike a b) : b.config = a.config := by rw [h.same]

theorem configCopy (h : Alike a b) : b.configCopy = a.configCopy := by rw [h.same]

theorem eligible (h : Alike a b) : b.eligible = a.eligible := by rw [h.same]

/-! A change of one store leaves alike worlds alike. -/

theorem setRequests (h : Alike a b) (s : RequestStore) :
    Alike { a with requests := s } { b with requests := s } := ⟨by rw [h.same], h.leftOver⟩

theorem setDrawn (h : Alike a b) (n : Nat) :
    Alike { a with drawn := n } { b with drawn := n } := ⟨by rw [h.same], h.leftOver⟩

theorem setDirectory (h : Alike a b) (d : Directory) :
    Alike { a with directory := d } { b with directory := d } := ⟨by rw [h.same], h.leftOver⟩

theorem setCloud (h : Alike a b) (c : Cloud) :
    Alike { a with cloud := c } { b with cloud := c } := ⟨by rw [h.same], h.leftOver⟩

theorem setFast (h : Alike a b) (t : FastTier) :
    Alike { a with fast := t } { b with fast := t } := ⟨by rw [h.same], h.leftOver⟩

theorem setDurable (h : Alike a b) (t : DurableTier) :
    Alike { a with durable := t } { b with durable := t } := ⟨by rw [h.same], h.leftOver⟩

theorem setConfig (h : Alike a b) (t : ConfigTable) :
    Alike { a with config := t } { b with config := t } := ⟨by rw [h.same], h.leftOver⟩

theorem setConfigCopy (h : Alike a b) (copy : Option ConfigVersion) :
    Alike { a with configCopy := copy } { b with configCopy := copy } :=
  ⟨by rw [h.same], h.leftOver⟩

theorem setEligible (h : Alike a b) (c : EligibleCache) :
    Alike { a with eligible := c } { b with eligible := c } := ⟨by rw [h.same], h.leftOver⟩

end Alike

theorem now_le_now {w left : World} (clock : w.clock.micros ≤ left.clock.micros) :
    w.now ≤ left.now := by
  show w.now.seconds ≤ left.now.seconds
  simp only [World.now, Instant.timestamp]
  omega

def effect (w : World) (kind : CallKind) : Effect :=
  (Service.nextDisturbance kind w.plan).1.effect

/-- Nothing befalls calls of a kind, except that they may take time. -/
def Undisturbed (w : World) (kind : CallKind) : Prop :=
  ∀ p ∈ w.plan, p.kind = kind → p.disturbance.effect = .pass

/-- Every call is answered, and none takes longer than it may. -/
def AllAnswer (setup : Setup) (w : World) : Prop :=
  ∀ p ∈ w.plan, p.disturbance.effect = .pass ∧
    p.disturbance.delay ≤ setup.settings.retry.callTimeout

/-- Whoever asks for a pending request is not told that there is none when there is one. -/
def Candid (w : World) : Prop :=
  ∀ p ∈ w.plan, p.kind = .findPending → p.disturbance.effect ≠ .unseen

end World

theorem nextDisturbance_planned (kind : CallKind) (plan : List Planned) :
    (Service.nextDisturbance kind plan).1 = .calm ∨
      ∃ p ∈ plan, p.kind = kind ∧ p.disturbance = (Service.nextDisturbance kind plan).1 := by
  fun_induction Service.nextDisturbance kind plan with
  | case1 => exact .inl rfl
  | case2 first rest same none ih => exact ih.imp_right fun ⟨p, hp, h⟩ => ⟨p, .tail _ hp, h⟩
  | case3 first rest same left count => exact .inr ⟨first, .head _, same, rfl⟩
  | case4 first rest other found left eq ih =>
    rw [eq] at ih
    exact ih.imp_right fun ⟨p, hp, h⟩ => ⟨p, .tail _ hp, h⟩

namespace World

variable {w left : World}

/-! Nothing befalls calls for which nothing is planned. -/

theorem undisturbed_of_unplanned (h : w.plan = []) (kind : CallKind) : w.Undisturbed kind := by
  simp [Undisturbed, h]

theorem allAnswer_of_unplanned (h : w.plan = []) (setup : Setup) : w.AllAnswer setup := by
  simp [AllAnswer, h]

theorem candid_of_unplanned (h : w.plan = []) : w.Candid := by
  simp [Candid, h]

theorem Undisturbed.effect {kind : CallKind} (h : w.Undisturbed kind) : w.effect kind = .pass := by
  rcases nextDisturbance_planned kind w.plan with calm | ⟨p, hp, same, eq⟩
  · rw [World.effect, calm]; rfl
  · rw [World.effect, ← eq]; exact h p hp same

theorem Undisturbed.not_fail {kind : CallKind} {e : Error} (h : w.Undisturbed kind) :
    w.effect kind ≠ .fail e := by
  simp [h.effect]

theorem Undisturbed.rest {kind : CallKind} (h : w.Undisturbed kind) (rest : LeftOver left.plan w.plan) :
    left.Undisturbed kind := by
  intro p hp same
  obtain ⟨q, hq, hkind, eq⟩ := rest p hp
  rw [← eq]
  exact h q hq (hkind.trans same)

theorem AllAnswer.undisturbed {setup : Setup} (h : w.AllAnswer setup) (kind : CallKind) :
    w.Undisturbed kind :=
  fun p hp _ => (h p hp).1

theorem AllAnswer.prompt {setup : Setup} (h : w.AllAnswer setup) (kind : CallKind) :
    (Service.nextDisturbance kind w.plan).1.delay ≤
      setup.settings.retry.callTimeout := by
  rcases nextDisturbance_planned kind w.plan with calm | ⟨p, hp, -, eq⟩
  · rw [calm]
    exact Nat.zero_le _
  · rw [← eq]
    exact (h p hp).2

theorem AllAnswer.rest {setup : Setup} (h : w.AllAnswer setup)
    (rest : LeftOver left.plan w.plan) : left.AllAnswer setup := by
  intro p hp
  obtain ⟨q, hq, -, eq⟩ := rest p hp
  rw [← eq]
  exact h q hq

theorem Candid.effect (h : w.Candid) : w.effect .findPending ≠ .unseen := by
  rcases nextDisturbance_planned .findPending w.plan with calm | ⟨p, hp, same, eq⟩
  · rw [World.effect, calm]; exact nofun
  · rw [World.effect, ← eq]; exact h p hp same

theorem Candid.rest (h : w.Candid) (rest : LeftOver left.plan w.plan) :
    left.Candid := by
  intro p hp same
  obtain ⟨q, hq, hkind, eq⟩ := rest p hp
  rw [← eq]
  exact h q hq (hkind.trans same)

end World

namespace Service

open World (Alike)
open Retry (Leaves leaves_const)

variable {α : Type} {setup : Setup} {w : World} {bad : Error → World → Prop}

/-! ## Bookkeeping -/

theorem ends_log (call : Call) {good : PUnit → World → Prop} :
    Ends setup w (log call) good bad ↔ good ⟨⟩ { w with journal := call :: w.journal } := Iff.rfl

theorem alike_log (w : World) (call : Call) : Alike w { w with journal := call :: w.journal } :=
  ⟨rfl, .refl _⟩

/-- A call meets what is planned for it and fails only if it is to fail. -/
theorem ends_meet {kind : CallKind} {good : Effect → World → Prop}
    (met : ∀ left, Alike w left → (∀ e, w.effect kind ≠ .fail e) → good (w.effect kind) left)
    (failed : ∀ e left, w.effect kind = .fail e → Alike w left → bad e left) :
    Ends setup w (meet kind) good bad := by
  have alike (waited : Nat) :
      Alike w { w with plan := (nextDisturbance kind w.plan).2, waited := waited } :=
    ⟨rfl, .next kind w.plan⟩
  simp only [meet, ends_bind, ends_modifyGet, ends_modify, takeDisturbance]
  split
  · next e h => exact failed e _ h (alike _)
  · next h => exact met _ (alike _) h

theorem ends_logged {call : Call} {kind : CallKind} {good : Effect → World → Prop}
    (met : ∀ left, Alike w left → (∀ e, w.effect kind ≠ .fail e) → good (w.effect kind) left)
    (failed : ∀ e left, w.effect kind = .fail e → Alike w left → bad e left) :
    Ends setup { w with journal := call :: w.journal } (meet kind) good bad :=
  ends_meet (fun left alike => met left ((alike_log w call).trans alike))
    fun e left fails alike => failed e left fails ((alike_log w call).trans alike)

/-! ## Requests -/

theorem ends_findRequest {id : String} {good : Option Request → World → Prop}
    (found : ∀ left, Alike w left → good (w.requests.find? id) left)
    (failed : ∀ e left, w.effect .findRequest = .fail e → Alike w left → bad e left) :
    Ends setup w (findRequest? id) good bad := by
  simp only [findRequest?, ends_bind, ends_discard, ends_get, ends_pure]
  exact ends_meet (fun left alike _ => alike.requests ▸ found left alike) failed

theorem ends_findPending {requester key : String} {good : Option Request → World → Prop}
    (found : ∀ answer left, Alike w left →
      (w.effect .findPending ≠ .unseen → answer = w.requests.findPending? requester key) →
      good answer left)
    (failed : ∀ e left, w.effect .findPending = .fail e → Alike w left → bad e left) :
    Ends setup w (findPending? requester key) good bad := by
  simp only [findPending?, ends_bind]
  refine ends_meet (fun left alike _ => ?_) failed
  split
  · next unseen => exact found none left alike fun seen => absurd unseen seen
  · exact found _ left alike fun _ => by rw [alike.requests]

theorem ends_listPending {limit : Nat} {good : List Request → World → Prop}
    (listed : ∀ left, Alike w left → good (w.requests.pending limit) left)
    (failed : ∀ e left, w.effect .listPending = .fail e → Alike w left → bad e left) :
    Ends setup w (listPending limit) good bad := by
  simp only [listPending, ends_bind, ends_discard, ends_get, ends_pure]
  exact ends_meet (fun left alike _ => alike.requests ▸ listed left alike) failed

theorem ends_findRequests {ids : List String} {good : List Request → World → Prop}
    (found : ∀ left, Alike w left → good (w.requests.findAll ids) left)
    (failed : ∀ e left, w.effect .findRequests = .fail e → Alike w left → bad e left) :
    Ends setup w (findRequests ids) good bad := by
  simp only [findRequests, ends_bind, ends_discard, ends_get, ends_pure]
  exact ends_meet (fun left alike _ => alike.requests ▸ found left alike) failed

theorem ends_listUserRequests {user : String} {good : List String → World → Prop}
    (listed : ∀ left, Alike w left → good (w.requests.idsOf user) left)
    (failed : ∀ e left, w.effect .listUser = .fail e → Alike w left → bad e left) :
    Ends setup w (listUserRequests user) good bad := by
  simp only [listUserRequests, ends_bind, ends_discard, ends_get, ends_pure]
  exact ends_meet (fun left alike _ => alike.requests ▸ listed left alike) failed

theorem ends_listExpired {now : Timestamp} {after : Option ExpiryCursor} {limit : Nat}
    {good : List Request → World → Prop}
    (listed : ∀ left, Alike w left → good (w.requests.due now after limit) left)
    (failed : ∀ e left, w.effect .listExpired = .fail e → Alike w left → bad e left) :
    Ends setup w (listExpired now after limit) good bad := by
  simp only [listExpired, ends_bind, ends_discard, ends_log, ends_get, ends_pure]
  refine ends_logged (fun left alike _ => ?_) failed
  rw [alike.requests]
  exact listed left alike

theorem ends_insertRequest {r : Request} {good : Unit → World → Prop}
    (inserted : ∀ left, w.requests.insert r = .ok (w.requests.put r) →
      Alike { w with requests := w.requests.put r } left → good () left)
    (failed : ∀ e left, w.effect .insertRequest = .fail e ∨ w.requests.insert r = .error e →
      Alike w left → bad e left) :
    Ends setup w (insertRequest r) good bad := by
  simp only [insertRequest, ends_bind, ends_discard, ends_log, ends_get, ends_lift, ends_modify]
  refine ends_logged (fun left alike _ => ⟨fun stored h => ?_, fun e h => ?_⟩) fun e left fails =>
    failed e left (.inl fails)
  · rw [alike.requests] at h
    obtain rfl := (RequestStore.insert_eq_ok_iff.1 h).2.2
    exact inserted _ h (alike.setRequests _)
  · rw [alike.requests] at h
    exact failed e left (.inr h) alike

theorem ends_saveRequest {r : Request} {good : Unit → World → Prop}
    (saved : ∀ left, Alike { w with requests := w.requests.put r } left → good () left)
    (failed : ∀ e left, ¬ w.Undisturbed .saveRequest ∨ w.requests.find? r.id = none →
      Alike w left → bad e left) :
    Ends setup w (saveRequest r) good bad := by
  simp only [saveRequest, ends_bind, ends_discard, ends_log, ends_get, ends_lift, ends_modify]
  refine ends_logged (fun left alike _ => ⟨fun stored h => ?_, fun e h => ?_⟩) fun e left fails =>
    failed e left (.inl fun calm => calm.not_fail fails)
  · rw [alike.requests] at h
    obtain rfl := RequestStore.eq_put_of_save h
    exact saved _ (alike.setRequests _)
  · rw [alike.requests] at h
    exact failed e left (.inr (RequestStore.find?_eq_none_of_save h)) alike

theorem ends_appendUserRequest {user id : String} {good : PUnit → World → Prop}
    (appended : ∀ left, Alike { w with requests := w.requests.append user id } left → good ⟨⟩ left)
    (failed : ∀ e left, w.effect .appendUser = .fail e → Alike w left → bad e left) :
    Ends setup w (appendUserRequest user id) good bad := by
  simp only [appendUserRequest, ends_bind, ends_discard, ends_log, ends_modify]
  refine ends_logged (fun left alike _ => ?_) failed
  rw [alike.requests]
  exact appended _ (alike.setRequests _)

@[simp] theorem ends_drawId {good : String → World → Prop} :
    Ends setup w drawId good bad ↔ good w.nextId { w with drawn := w.drawn + 1 } :=
  Iff.rfl

/-! ## The directory -/

theorem ends_groupAttributes? {group : String} {good : Option GroupAttributes → World → Prop}
    (found : ∀ left, Alike w left → good (w.directory.attributes? group) left)
    (failed : ∀ e left, w.effect .groupAttributes = .fail e → Alike w left → bad e left) :
    Ends setup w (groupAttributes? group) good bad := by
  simp only [groupAttributes?, ends_bind, ends_discard, ends_get, ends_pure]
  exact ends_meet (fun left alike _ => alike.directory ▸ found left alike) failed

theorem ends_putGroupAttributes {group : String} {attributes : GroupAttributes}
    {good : PUnit → World → Prop}
    (put : ∀ left, Alike { w with directory := w.directory.putAttributes group attributes } left →
      good ⟨⟩ left)
    (failed : ∀ e left, w.effect .putGroup = .fail e → Alike w left → bad e left) :
    Ends setup w (putGroupAttributes group attributes) good bad := by
  simp only [putGroupAttributes, ends_bind, ends_discard, ends_log, ends_modify]
  refine ends_logged (fun left alike _ => ?_) failed
  rw [alike.directory]
  exact put _ (alike.setDirectory _)

theorem ends_addMember {group user : String} {good : Joining → World → Prop}
    (answered : ∀ left, Alike { w with directory := (w.directory.addMember group user).2 } left →
      good (w.directory.addMember group user).1 left)
    (denied : ∀ reason left, w.effect .addMember = .deny reason → Alike w left →
      good (.denied reason) left)
    (failed : ∀ e left, w.effect .addMember = .fail e → Alike w left → bad e left) :
    Ends setup w (addMember group user) good bad := by
  simp only [addMember, ends_bind, ends_log]
  refine ends_logged (fun left alike _ => ?_) failed
  split
  · next reason deny => exact denied reason left deny alike
  · rw [ends_modifyGet, alike.directory]
    exact answered _ (alike.setDirectory _)

theorem ends_removeMember {group user : String} {good : Leaving → World → Prop}
    (answered : ∀ left, Alike { w with directory := (w.directory.removeMember group user).2 } left →
      good (w.directory.removeMember group user).1 left)
    (denied : ∀ reason left, w.effect .removeMember = .deny reason → Alike w left →
      good (.denied reason) left)
    (failed : ∀ e left, w.effect .removeMember = .fail e → Alike w left → bad e left) :
    Ends setup w (removeMember group user) good bad := by
  simp only [removeMember, ends_bind, ends_log]
  refine ends_logged (fun left alike _ => ?_) failed
  split
  · next reason deny => exact denied reason left deny alike
  · rw [ends_modifyGet, alike.directory]
    exact answered _ (alike.setDirectory _)

/-! ## The cloud -/

def attempt (call : Call) (act : Effect → World → Except Error α × World) (w : World) :
    Retry.Attempt World α × World :=
  let (d, w) := takeDisturbance call.kind { w with journal := call :: w.journal }
  let finish (w : World) :=
    match d.effect with
    | .fail e => (.error e, w)
    | effect => act effect w
  (⟨d.delay, finish⟩, w)

section

variable {operation : String} {call : Call} {act : Effect → World → Except Error α × World}

theorem perform_retried :
    (retried operation call act).perform setup w =
      let (report, left) := Retry.run setup.settings.retry operation (attempt call act) w
      (report.result, { left with waited := left.waited + report.elapsed }) := rfl

theorem alike_attempt (w : World) : Alike w (attempt call act w).2 :=
  ⟨rfl, .next call.kind w.plan⟩

theorem leaves_finish {p : World → Prop} {good : α → World → Prop} {s t : World} (ht : p t)
    (acted : Leaves p good (act (s.effect call.kind) t).1 (act (s.effect call.kind) t).2) :
    Leaves p good ((attempt call act s).1.finish t).1 ((attempt call act s).1.finish t).2 := by
  simp only [attempt, takeDisturbance, World.effect] at acted ⊢
  split
  · exact ht
  · exact acted

/-- What failed attempts keep holds when the last of them fails; one that succeeds is the last. -/
theorem leaves_retried {p : World → Prop} {good : α → World → Prop} (hw : p w)
    (begun : ∀ s, p s → p (attempt call act s).2)
    (acted : ∀ s t, p s → p t →
      Leaves p good (act (s.effect call.kind) t).1 (act (s.effect call.kind) t).2) :
    Ends setup w (retried operation call act)
      (fun a left => ∃ t elapsed, good a t ∧ left = { t with waited := t.waited + elapsed })
      fun _ left => ∃ t elapsed, p t ∧ left = { t with waited := t.waited + elapsed } := by
  have ends := Retry.leaves_run setup.settings.retry operation begun
    (fun s t hs ht => leaves_finish ht (acted s t hs ht)) hw
  simp only [Ends, perform_retried]
  generalize Retry.run setup.settings.retry operation (attempt call act) w = ran at ends ⊢
  obtain ⟨⟨result, starts, elapsed⟩, t⟩ := ran
  cases result with
  | ok a => exact ⟨t, elapsed, ends, rfl⟩
  | error e => exact ⟨t, elapsed, ends, rfl⟩

theorem alike_waited (w : World) (elapsed : Nat) :
    Alike w { w with waited := w.waited + elapsed } :=
  ⟨rfl, .refl _⟩

/-- A call that is made again and again leaves nothing behind until it succeeds. -/
theorem ends_retried {good : α → World → Prop}
    (acted : ∀ effect mid a left after, Alike w mid → (w.Undisturbed call.kind → effect = .pass) →
      act effect mid = (.ok a, left) → Alike left after → good a after)
    (spared : ∀ effect mid e left, Alike w mid → act effect mid = (.error e, left) → Alike w left)
    (failed : ∀ e left, Alike w left → bad e left) :
    Ends setup w (retried operation call act) good bad := by
  -- Every attempt starts in a world like the first one, as those that failed changed nothing.
  let done (a : α) (left : World) := ∃ effect mid, Alike w mid ∧
    (w.Undisturbed call.kind → effect = .pass) ∧ act effect mid = (.ok a, left)
  have begun (s : World) (hs : Alike w s) : Alike w (attempt call act s).2 :=
    hs.trans (alike_attempt s)
  have acts (s t : World) (hs : Alike w s) (ht : Alike w t) :
      Leaves (Alike w) done (act (s.effect call.kind) t).1 (act (s.effect call.kind) t).2 := by
    cases outcome : act (s.effect call.kind) t with
    | mk result left =>
      cases result with
      | ok a => exact ⟨_, t, ht, fun calm => (calm.rest hs.leftOver).effect, outcome⟩
      | error e => exact spared _ t e left ht outcome
  refine (leaves_retried (.refl w) begun acts).mono ?_ ?_
  · rintro a _ ⟨left, elapsed, ⟨effect, mid, alike, calm, outcome⟩, rfl⟩
    exact acted effect mid a left _ alike calm outcome (alike_waited left elapsed)
  · rintro e _ ⟨left, elapsed, alike, rfl⟩
    exact failed e _ (alike.trans (alike_waited left elapsed))

/-- A call that succeeds when it is answered does so with the first attempt. -/
theorem ends_retried_answered {good : α → World → Prop} (answers : w.AllAnswer setup)
    (acted : ∀ mid, Alike w mid → ∃ a left, act .pass mid = (.ok a, left) ∧
      ∀ after, Alike left after → good a after) : Ends setup w (retried operation call act) good bad := by
  obtain ⟨a, left, acts, finished⟩ := acted (attempt call act w).2 (alike_attempt w)
  have passes : (nextDisturbance call.kind w.plan).1.effect = .pass :=
    (answers.undisturbed call.kind).effect
  have finish : (attempt call act w).1.finish (attempt call act w).2 = (.ok a, left) := by
    rw [← acts]
    simp only [attempt, takeDisturbance, passes]
  obtain ⟨ok, same⟩ := Retry.run_of_first setup.settings.retry operation
    (answers.prompt call.kind) finish
  simp only [Ends, perform_retried]
  rw [ok, same]
  exact finished _ (alike_waited left _)

end

/-- The cloud shows the role that it has, unless it is disturbed. -/
theorem ends_fetchCloudRole {key : RoleKey} {good : Option RoleDocument → World → Prop}
    (shown : ∀ answer left, (w.Undisturbed .fetchRole → answer = w.cloud.role? key) →
      Alike w left → good answer left)
    (failed : ∀ e left, ¬ w.AllAnswer setup → Alike w left → bad e left) :
    Ends setup w (fetchCloudRole key) good bad := by
  by_cases answers : w.AllAnswer setup
  · refine ends_retried_answered answers fun mid alike => ⟨_, _, rfl, fun after alike' => ?_⟩
    exact shown _ after (fun _ => by rw [alike.cloud]) (alike.trans alike')
  · refine ends_retried (fun effect mid answer left after alike calm acts alike' => ?_)
      (fun effect mid e left alike acts => ?_) fun e left => failed e left answers
    · -- Only what the plan shows in place of the role is not what the cloud has.
      cases effect with
      | role document =>
        obtain ⟨-, rfl⟩ := Prod.mk.inj acts
        exact shown answer after (fun undisturbed => nomatch calm undisturbed) (alike.trans alike')
      | _ =>
        obtain ⟨answered, rfl⟩ := Prod.mk.inj acts
        refine shown answer after (fun _ => ?_) (alike.trans alike')
        rw [← Except.ok.inj answered, alike.cloud]
    · cases effect <;> obtain ⟨-, rfl⟩ := Prod.mk.inj acts <;> exact alike

/-- The cloud lists the resource names that it has for an account. -/
theorem ends_listCloudRoles {account : String} {good : List String → World → Prop}
    (answers : w.AllAnswer setup)
    (listed : ∀ left, Alike w left → good (w.cloud.roleArns account) left) :
    Ends setup w (listCloudRoles account) good bad :=
  ends_retried_answered answers fun mid alike => ⟨_, mid, rfl, fun after alike' => by
    rw [alike.cloud]
    exact listed after (alike.trans alike')⟩

theorem changeCloud_of_ok {change : Cloud → Except Error Cloud} {cloud : Cloud}
    (h : change w.cloud = .ok cloud) : changeCloud change w = (.ok (), { w with cloud := cloud }) := by
  rw [changeCloud, h]

theorem changeCloud_of_error {change : Cloud → Except Error Cloud} {e : Error}
    (h : change w.cloud = .error e) : changeCloud change w = (.error e, w) := by
  rw [changeCloud, h]

/-- A change of the cloud takes place, or leaves it as it is.  It takes place if the cloud allows
it and answers. -/
theorem ends_changeCloud {operation : String} {call : Call}
    {change : Cloud → Except Error Cloud} {good : Unit → World → Prop}
    (changed : ∀ cloud left, change w.cloud = .ok cloud → Alike { w with cloud := cloud } left →
      good () left)
    (failed : ∀ e left, ¬ w.AllAnswer setup ∨ (∃ e, change w.cloud = .error e) → Alike w left →
      bad e left) :
    Ends setup w (retried operation call fun _ => changeCloud change) good bad := by
  cases allowed : change w.cloud with
  | error refusal =>
    refine ends_retried (fun _ mid _ left _ alike _ acts _ => ?_) (fun _ mid _ left alike acts => ?_)
      fun e left alike => failed e left (.inr ⟨refusal, allowed⟩) alike
    · rw [changeCloud_of_error (alike.cloud ▸ allowed)] at acts
      cases acts
    · rw [changeCloud_of_error (alike.cloud ▸ allowed)] at acts
      cases acts
      exact alike
  | ok cloud =>
    have acts (mid : World) (alike : Alike w mid) :
        changeCloud change mid = (.ok (), { mid with cloud := cloud }) :=
      changeCloud_of_ok (alike.cloud ▸ allowed)
    have finished (mid after : World) (alike : Alike w mid)
        (alike' : Alike { mid with cloud := cloud } after) : good () after :=
      changed cloud after allowed ((alike.setCloud cloud).trans alike')
    by_cases answers : w.AllAnswer setup
    · exact ends_retried_answered answers fun mid alike =>
        ⟨(), _, acts mid alike, fun after => finished mid after alike⟩
    · refine ends_retried (fun _ mid _ left after alike _ outcome alike' => ?_)
        (fun _ mid _ left alike outcome => ?_) fun e left alike => failed e left (.inl answers) alike
      · rw [acts mid alike] at outcome
        cases outcome
        exact finished mid after alike alike'
      · rw [acts mid alike] at outcome
        cases outcome

/-! ## Events and eligible roles -/

theorem ends_notify {event : Event} {good : PUnit → World → Prop}
    (told : ∀ left, Alike w left → good ⟨⟩ left)
    (failed : ∀ e left, w.effect .notify = .fail e → Alike w left → bad e left) :
    Ends setup w (notify event) good bad := by
  simp only [notify, ends_bind, ends_discard, ends_log]
  exact ends_logged (fun left alike _ => told left alike) failed

theorem ends_getEligible {user : String} {console : Bool}
    {good : Option (List RoleMapping) → World → Prop}
    (found : ∀ left, Alike w left → good (w.eligible.get? user console) left)
    (failed : ∀ e left, w.effect .getEligible = .fail e → Alike w left → bad e left) :
    Ends setup w (getEligible? user console) good bad := by
  simp only [getEligible?, ends_bind, ends_discard, ends_get, ends_pure]
  exact ends_meet (fun left alike _ => alike.eligible ▸ found left alike) failed

theorem ends_putEligible {user : String} {console : Bool} {roles : List RoleMapping}
    {lifetime : Nat} {good : PUnit → World → Prop}
    (put : ∀ left, Alike { w with eligible := w.eligible.put user console roles lifetime } left →
      good ⟨⟩ left)
    (failed : ∀ e left, w.effect .putEligible = .fail e → Alike w left → bad e left) :
    Ends setup w (putEligible user console roles lifetime) good bad := by
  simp only [putEligible, ends_bind, ends_discard, ends_log, ends_modify]
  refine ends_logged (fun left alike _ => ?_) failed
  rw [alike.eligible]
  exact put _ (alike.setEligible _)

theorem ends_invalidateEligible {user : String} {good : PUnit → World → Prop}
    (dropped : ∀ left, Alike { w with eligible := w.eligible.invalidate user } left → good ⟨⟩ left)
    (failed : ∀ e left, w.effect .invalidateUser = .fail e → Alike w left → bad e left) :
    Ends setup w (invalidateEligible user) good bad := by
  simp only [invalidateEligible, ends_bind, ends_discard, ends_log, ends_modify]
  refine ends_logged (fun left alike _ => ?_) failed
  rw [alike.eligible]
  exact dropped _ (alike.setEligible _)

/-! ## What outlives a call -/

def made (heeds : CallKind → Bool) (w : World) : List Call :=
  w.journal.filter fun call => heeds call.kind

/-- The property holds of a world if it holds of one that is alike and made the same calls of the
kinds that matter. -/
def OverlooksBut (heeds : CallKind → Bool) (p : World → Prop) : Prop :=
  ∀ w left, Alike w left → made heeds left = made heeds w → p w → p left

abbrev Overlooks (p : World → Prop) : Prop :=
  OverlooksBut (fun _ => false) p

theorem Overlooks.alike {p : World → Prop} {left : World} (h : Overlooks p) (alike : Alike w left)
    (hw : p w) : p left := by
  have none (w : World) : made (fun _ => false) w = [] := List.filter_eq_nil_iff.2 (by simp)
  exact h w left alike ((none left).trans (none w).symm) hw

theorem made_log {heeds : CallKind → Bool} {call : Call} (unheeded : heeds call.kind = false)
    (w : World) : made heeds { w with journal := call :: w.journal } = made heeds w :=
  List.filter_cons_of_neg (by simp [unheeded])

theorem overlooks_made {heeds : CallKind → Bool} {calls : List Call} :
    OverlooksBut heeds fun w => made heeds w = calls :=
  fun _ _ _ same h => same.trans h

namespace Keeps

variable {p : World → Prop} {heeds : CallKind → Bool}

theorem log (h : OverlooksBut heeds p) {call : Call} (unheeded : heeds call.kind = false) :
    Keeps setup p (log call) :=
  fun w hw => h w _ (alike_log w call) (made_log unheeded w) hw

theorem meet (h : OverlooksBut heeds p) (kind : CallKind) : Keeps setup p (meet kind) := by
  intro w hw
  have next (waited : Nat) :
      p { w with plan := (nextDisturbance kind w.plan).2, waited := waited } :=
    h w _ ⟨rfl, .next kind w.plan⟩ rfl hw
  refine Ends.left (p := p) ?_
  simp only [Service.meet, ends_bind, ends_modifyGet, ends_modify, takeDisturbance]
  split
  · exact next _
  · exact next _

theorem retried (h : OverlooksBut heeds p) (operation : String) (call : Call)
    (unheeded : heeds call.kind = false) {act : Effect → World → Except Error α × World}
    (hact : ∀ effect w, p w → p (act effect w).2) : Keeps setup p (retried operation call act) := by
  have begun (s : World) (hs : p s) : p (attempt call act s).2 :=
    h s _ (alike_attempt s) (made_log unheeded s) hs
  have acted (s t : World) (_ : p s) (ht : p t) :
      Leaves p (fun _ => p) (act (s.effect call.kind) t).1 (act (s.effect call.kind) t).2 :=
    leaves_const.2 (hact _ t ht)
  refine .of_ends fun w hw => (leaves_retried hw begun acted).mono ?_ ?_
  · rintro a _ ⟨left, elapsed, hleft, rfl⟩
    exact h left _ (alike_waited left elapsed) rfl hleft
  · rintro e _ ⟨left, elapsed, hleft, rfl⟩
    exact h left _ (alike_waited left elapsed) rfl hleft

end Keeps

end Service

end AccessBroker
