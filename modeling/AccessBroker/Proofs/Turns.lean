import AccessBroker.Proofs.Runs
import Mathlib.Logic.Relation

/-! # How calls change requests and members

A call changes the stored requests and the members of groups in turns, of which
there are few kinds: a member joins together with the approval of a request and
leaves together with the end of one.  What holds of a store and a directory
after every turn holds after every call.
-/

namespace AccessBroker

open World (Alike)
open Service (moved ended retargeted Approved Reviewed Failed)

/-- The store has a request of the id, the requester and the target of this one. -/
def RequestStore.Knows (s : RequestStore) (r : Request) : Prop :=
  ∃ stored, s.find? r.id = some stored ∧ stored.requester = r.requester ∧ stored.target = r.target

/-- The requests and the members of groups after a turn at the time `now`. -/
inductive Turn (now : Timestamp) (w left : World) : Prop where
  | still (requests : left.requests = w.requests) (directory : left.directory = w.directory)
  /-- A new request waits. -/
  | create {r : Request} (requests : ∀ id, left.requests.find? id = (w.requests.put r).find? id)
      (directory : left.directory = w.directory) (fresh : w.requests.find? r.id = none)
      (pending : r.status = .pending) (time : r.lastUpdated = now)
  /-- The policy is noted as it was. -/
  | note {r : Request} {snapshot : Option Json}
      (requests : left.requests = w.requests.put { r with snapshot := snapshot })
      (directory : left.directory = w.directory) (stored : w.requests.find? r.id = some r)
  /-- A request that waited is changed, which concerns no membership. -/
  | record {r old : Request} (requests : left.requests = w.requests.put r)
      (directory : left.directory = w.directory) (stored : w.requests.find? r.id = some old)
      (waited : old.status = .pending ∨ old.status = .rejected ∨ old.status = .cancelled)
      (idle : r.status ≠ .approved ∨ ∀ group, r.target ≠ .group group) (time : r.lastUpdated = now)
  /-- A requester joins a group, and the request is approved. -/
  | join {r : Request} {group actor : String} {comments : Option String}
      (requests : left.requests = w.requests.put (moved r .approved actor now comments))
      (directory : left.directory = (w.directory.addMember group r.requester).2)
      (stored : w.requests.find? r.id = some r) (pending : r.status = .pending)
      (target : r.target = .group group) (known : w.directory.attributes? group ≠ none)
  /-- A requester leaves a group, and the request comes to its end. -/
  | leave {r : Request} {group actor : String} {status : Status} {comments : Option String}
      (requests : left.requests = w.requests.put (moved r status actor now comments))
      (directory : left.directory = (w.directory.removeMember group r.requester).2)
      (known : w.requests.Knows r) (target : r.target = .group group)
      (closed : status = .expired ∨ status = .removed)

abbrev Turns (now : Timestamp) : World → World → Prop :=
  Relation.ReflTransGen (Turn now)

variable {setup : Setup} {now : Timestamp} {w mid left : World} {r : Request}

theorem Turn.of_alike (alike : Alike w left) : Turn now w left :=
  .still alike.requests alike.directory

theorem Turns.alike (turns : Turns now w mid) (alike : Alike mid left) : Turns now w left :=
  turns.tail (.of_alike alike)

theorem Turns.of_alike (alike : Alike w left) : Turns now w left :=
  .single (.of_alike alike)

/-- What every turn keeps holds after all of them. -/
theorem Turns.keeps {p : World → Prop} (turns : Turns now w left)
    (each : ∀ w left, Turn now w left → p w → p left) (h : p w) : p left := by
  induction turns with
  | refl => exact h
  | tail _ turn ih => exact each _ _ turn ih

namespace Service

/-! ## Reviews, proposals and submissions -/

theorem Approved.turn {actor : String} {comments : Option String} {answer : Request}
    (done : Approved setup w r actor comments answer left)
    (stored : w.requests.find? r.id = some r) (pending : r.status = .pending) :
    Turn w.now w left := by
  cases done with
  | joined target known _ alike =>
    exact .join alike.requests alike.directory stored pending target known
  | applied target _ alike _ =>
    have policy (group : String) : r.target ≠ .group group := by
      rw [target]
      exact nofun
    exact .record alike.requests alike.directory stored (.inl pending) (.inr policy) rfl

theorem Failed.turn (failed : Failed setup w r left) (stored : w.requests.find? r.id = some r)
    (calm : w.Undisturbed .saveRequest) : Turn now w left := by
  cases failed with
  | refused alike => exact .of_alike alike
  | unsaved disturbed => exact absurd calm disturbed
  | unnoted _ alike => exact .still alike.requests alike.directory
  | prepared _ alike => exact .note alike.requests alike.directory stored

theorem Reviewed.turn {who : Identity} {v : Verdict} {answer : Request}
    (done : Reviewed setup w who r v answer left) (stored : w.requests.find? r.id = some r) :
    Turn w.now w left := by
  cases done with
  | recorded waits next alike =>
    exact .record alike.requests alike.directory stored waits (.inl (ne_approved_of_recorded next))
      rfl
  | approved pending done => exact done.turn stored pending
  | removed _ target _ alike =>
    exact .leave alike.requests alike.directory ⟨r, stored, rfl, rfl⟩ target (.inr rfl)

abbrev TakesTurns {α : Type} (setup : Setup) (w : World) (service : Service α) : Prop :=
  Ends setup w service (fun _ => Turns w.now w) fun _ => Turns w.now w

theorem takesTurns_updateStatus {who : Identity} {id : String} {v : Verdict}
    (calm : w.Undisturbed .saveRequest) : TakesTurns setup w (updateStatus who id v) := by
  refine ends_updateStatus (fun r mid answer left after _ alike stored done alike' => ?_)
    (fun e r mid left alike stored failed => ?_) fun e left alike => .of_alike alike
  · have turn : Turn w.now mid left := alike.now ▸ done.turn stored
    exact ((Turns.of_alike alike).tail turn).tail (.of_alike alike')
  · exact (Turns.of_alike alike).tail (failed.turn stored (calm.rest alike.leftOver))

theorem takesTurns_updateProposal {who : Identity} {id : String} {proposed : PolicyChange} :
    TakesTurns setup w (updateProposal who id proposed) := by
  refine ends_updateProposal (fun r target left stored pending alike => ?_)
    fun e left alike => .of_alike alike
  have stays : (retargeted r target who.user w.now).status ≠ .approved := by
    simp [retargeted, pending]
  exact .single (.record alike.requests alike.directory stored (.inl pending) (.inl stays) rfl)

theorem takesTurns_submit {who : Identity} {s : Submission} (calm : w.Undisturbed .saveRequest) :
    TakesTurns setup w (submit who s) := by
  refine ends_submit (fun e drawn left _ alike => .single (.still alike.requests alike.directory))
    fun route noted just => ?_
  have created : Turns w.now w noted :=
    .single (.create just.held just.alike.directory just.admitted.fresh rfl rfl)
  have now : noted.now = w.now := just.alike.now
  refine ends_settle just.stored (fun left alike' => created.alike alike')
    (fun answer mid left done alike' => ?_) fun e left failed => ?_
  · have turn : Turn w.now noted mid := now ▸ done.turn just.stored rfl
    exact Turns.alike (created.tail turn) alike'
  · exact created.tail (failed.turn just.stored (calm.rest just.alike.leftOver))

/-! ## Sweeps -/

/-- What a sweep knew when it read a page, it knows until it is through with it. -/
theorem knows_put_ended {s : RequestStore} {other : Request} (h : s.Knows r)
    (known : s.Knows other) : (s.put (ended now other)).Knows r := by
  obtain ⟨stored, here, requester, target⟩ := h
  by_cases same : r.id = other.id
  · obtain ⟨stored', here', requester', target'⟩ := known
    cases here.symm.trans (same ▸ here')
    refine ⟨ended now other, ?_, requester'.symm.trans requester, target'.symm.trans target⟩
    rw [RequestStore.find?_put]
    exact if_pos same
  · refine ⟨stored, ?_, requester, target⟩
    rw [RequestStore.find?_put]
    exact (if_neg same).trans here

structure SweptInTurns (now : Timestamp) (w : World) (page : List Request) (left : World) :
    Prop where
  turns : Turns now w left
  calm : left.Undisturbed .saveRequest
  known : ∀ r ∈ page, left.requests.Knows r

theorem SweptInTurns.expire {page : List Request} (h : SweptInTurns now w (r :: page) mid) :
    Ends setup mid (expire now r) (fun _ => SweptInTurns now w page) fun _ _ => False := by
  have known := h.known r List.mem_cons_self
  have others (x : Request) (hx : x ∈ page) := h.known x (List.mem_cons_of_mem _ hx)
  refine ends_expire (fun group eligible left _ target _ alike => ⟨?_, ?_, fun x hx => ?_⟩)
    (fun left _ alike => ⟨?_, ?_, fun x hx => ?_⟩) fun e left why _ => ?_
  · exact h.turns.tail (.leave alike.requests alike.directory known target (.inl rfl))
  · exact h.calm.rest alike.leftOver
  · rw [alike.requests]
    exact knows_put_ended (others x hx) known
  · exact h.turns.alike alike
  · exact h.calm.rest alike.leftOver
  · rw [alike.requests]
    exact others x hx
  · obtain ⟨stored, here, -⟩ := known
    rcases why with disturbed | absent
    · exact disturbed h.calm
    · cases here.symm.trans absent

theorem sweepKeeps_turns {limit : Nat} :
    SweepKeeps setup now limit (SweptInTurns now w) fun _ => Turns now w where
  lists cursor mid h := by
    refine ends_listExpired (fun listed alike => ?_) fun e left _ alike => h.turns.alike alike
    refine ⟨h.turns.alike alike, h.calm.rest alike.leftOver, fun r hr => ?_⟩
    obtain ⟨stored, -⟩ := RequestStore.mem_of_mem_due hr
    exact ⟨r, alike.requests ▸ RequestStore.mem_all_iff.1 stored, rfl, rfl⟩
  ends r rest mid h := h.expire.mono (fun _ _ h => h) fun _ _ h => h.elim
  stops page mid h := ⟨h.turns, h.calm, List.forall_mem_nil _⟩

theorem takesTurns_expireDue {batch : Nat} (calm : w.Undisturbed .saveRequest) :
    TakesTurns setup w (expireDue batch) :=
  (sweepKeeps_turns.expireDue ⟨.refl, calm, List.forall_mem_nil _⟩).mono
    (fun _ _ done => done.turns) fun _ _ turns => turns

end Service

/-- A call changes requests and members in turns, whether or not it succeeds, if what it saves
is saved. -/
theorem RequestCall.turns (setup : Setup) (c : RequestCall) (calm : w.Undisturbed .saveRequest) :
    Turns w.now w (c.after setup w) := by
  cases c with
  | submit who s => exact (Service.takesTurns_submit calm).left
  | updateStatus who id v => exact (Service.takesTurns_updateStatus calm).left
  | updateProposal who id proposed => exact Service.takesTurns_updateProposal.left
  | expireDue batch => exact (Service.takesTurns_expireDue calm).left

end AccessBroker
