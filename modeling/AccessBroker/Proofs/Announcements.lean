import AccessBroker.Proofs.FailedCalls
import AccessBroker.Proofs.TimeOrder

/-! # What the events tell of a request

The events about a request are a chain: each starts at the status at which the
one before it ended.  A call adds to the chain whatever it does to the status,
with one exception: a submission that fails after its request was stored says
nothing of it, so the chain of that request lacks its first event.
-/

namespace AccessBroker

open World (Alike)

/-! ## Chains of events -/

/-- The events lead from one status to another, each from where the one before it ended. -/
def Leads : Option Status → List Event → Option Status → Prop
  | former, [], last => former = last
  | former, e :: rest, last => e.previous = former ∧ Leads (some e.next) rest last

namespace Leads

variable {a b c : Option Status} {es es' : List Event}

theorem append (h : Leads a es b) (h' : Leads b es' c) : Leads a (es ++ es') c := by
  induction es generalizing a with
  | nil =>
    have same : a = b := h
    exact same ▸ h'
  | cons e rest ih =>
    obtain ⟨first, h⟩ := h
    exact ⟨first, ih h⟩

/-- No event leads to there being no request. -/
theorem eq_nil (h : Leads a es none) : es = [] := by
  induction es generalizing a with
  | nil => rfl
  | cons e rest ih =>
    obtain ⟨-, h⟩ := h
    obtain rfl := ih h
    cases h

end Leads

namespace World

def eventsOf (w : World) (id : String) : List Event :=
  w.events.filter (·.requestId == id)

def statusOf (w : World) (id : String) : Option Status :=
  (w.requests.find? id).map (·.status)

theorem statusOf_congr {w left : World} {id : String}
    (same : left.requests.find? id = w.requests.find? id) : left.statusOf id = w.statusOf id := by
  rw [statusOf, same, statusOf]

theorem statusOf_of_requests {w left : World} (requests : left.requests = w.requests)
    (id : String) : left.statusOf id = w.statusOf id :=
  statusOf_congr (congrArg (RequestStore.find? · id) requests)

/-- What was told since the first world leads every request from its status then to its status
now. -/
def Accounted (w left : World) : Prop :=
  ∃ told, left.events = w.events ++ told ∧
    ∀ id, Leads (w.statusOf id) (told.filter (·.requestId == id)) (left.statusOf id)

namespace Accounted

variable {w mid left : World} {r : Request}

theorem still (events : left.events = w.events)
    (statuses : ∀ id, left.statusOf id = w.statusOf id) : Accounted w left :=
  ⟨[], by rw [events, List.append_nil], fun id => (statuses id).symm⟩

theorem trans (h : Accounted w mid) (h' : Accounted mid left) : Accounted w left := by
  obtain ⟨told, events, leads⟩ := h
  obtain ⟨told', events', leads'⟩ := h'
  refine ⟨told ++ told', by rw [events', events, List.append_assoc], fun id => ?_⟩
  rw [List.filter_append]
  exact (leads id).append (leads' id)

/-- One request is changed, and told of. -/
theorem told {former : Option Status} (events : left.events = w.events ++ [.of former r])
    (before : w.statusOf r.id = former)
    (after : ∀ id, left.requests.find? id = (w.requests.put r).find? id) : Accounted w left := by
  refine ⟨[.of former r], events, fun id => ?_⟩
  rw [statusOf, statusOf, after, RequestStore.find?_put]
  by_cases same : id = r.id
  · subst same
    have about : [Event.of former r].filter (·.requestId == r.id) = [.of former r] := by
      simp [Event.of]
    rw [about, if_pos rfl]
    exact ⟨before.symm, rfl⟩
  · have other : [Event.of former r].filter (·.requestId == id) = [] := by
      simp [Event.of, Ne.symm same]
    rw [other, if_neg same]
    exact rfl

theorem eventsOf (h : Accounted w left) {former : Option Status} {id : String}
    (leads : Leads former (w.eventsOf id) (w.statusOf id)) :
    Leads former (left.eventsOf id) (left.statusOf id) := by
  obtain ⟨told, events, more⟩ := h
  rw [World.eventsOf, events, List.filter_append]
  exact leads.append (more id)

end Accounted

/-- A stored request is put back at the status that it had. -/
theorem statusOf_put {w left : World} {old r : Request} (stored : w.requests.find? r.id = some old)
    (same : r.status = old.status) (requests : left.requests = w.requests.put r) (id : String) :
    left.statusOf id = w.statusOf id := by
  rw [statusOf, statusOf, requests, RequestStore.find?_put]
  by_cases here : id = r.id
  · rw [if_pos here, here, stored]
    exact congrArg some same
  · rw [if_neg here]

end World

open World (Accounted)

namespace Service

variable {setup : Setup} {w left : World} {who : Identity} {r : Request}

/-! ## Reviews and proposals -/

theorem Failed.statusOf (failed : Failed setup w r left) (stored : w.requests.find? r.id = some r)
    (saves : w.Undisturbed .saveRequest) (id : String) : left.statusOf id = w.statusOf id := by
  rcases failed.requests saves with same | ⟨snapshot, noted⟩
  · exact World.statusOf_of_requests same id
  · exact World.statusOf_put (r := { r with snapshot := snapshot }) stored rfl noted id

theorem ends_unheard {α : Type} {s : Service α} (h : Keeps setup (Told (made tells w)) s) :
    Ends setup w s (fun _ left => left.events = w.events) fun _ left => left.events = w.events :=
  h.ends rfl (fun _ _ told => events_eq_of_told told) fun _ _ told => events_eq_of_told told

/-- A verdict is told of with the status that the request had when it was handed in. -/
theorem heard_updateStatus (setup : Setup) (w : World) (who : Identity) (id : String)
    (v : Verdict) :
    Ends setup w (updateStatus who id v)
      (fun changed left => ∃ r, w.requests.find? id = some r ∧
        left.events = w.events ++ [.of (some r.status) changed])
      fun _ left => left.events = w.events := by
  have found : Ends setup w (requireRequest id) (fun r _ => w.requests.find? id = some r)
      fun _ _ => True :=
    ends_requireRequest (fun _ _ stored _ => stored) fun _ _ _ => trivial
  have unheard : Ends setup w (requireRequest id) (fun _ => Told (made tells w))
      fun _ => Told (made tells w) :=
    (aloof_told.requireRequest id).ends rfl (fun _ _ told => told) fun _ _ told => told
  rw [updateStatus, ends_bind]
  refine (found.and unheard).mono (fun r mid h => ?_) fun e left h => events_eq_of_told h.2
  obtain ⟨stored, told⟩ := h
  refine (announces_verdict setup who r v mid told).mono (fun changed after heard => ?_)
    fun e left told => events_eq_of_told told
  exact ⟨r, stored, events_append_of_told heard⟩

theorem accounted_updateStatus {id : String} {v : Verdict} (saves : w.Undisturbed .saveRequest) :
    Ends setup w (updateStatus who id v) (fun _ => Accounted w) fun _ => Accounted w := by
  have done : Ends setup w (updateStatus who id v)
      (fun changed left => changed.id = id ∧ left.requests = w.requests.put changed)
      fun _ left => ∀ id, left.statusOf id = w.statusOf id := by
    refine ends_updateStatus (fun r mid changed left after own alike _ done alike' => ?_)
      (fun e r mid left alike stored failed id => ?_) fun e left alike id => ?_
    · obtain ⟨requests, same⟩ := done.requests
      exact ⟨same.trans own, by rw [alike'.requests, requests, alike.requests]⟩
    · exact (failed.statusOf stored (saves.rest alike.leftOver) id).trans
        (World.statusOf_of_requests alike.requests id)
    · exact World.statusOf_of_requests alike.requests id
  refine (done.and (heard_updateStatus setup w who id v)).mono (fun changed left h => ?_)
    fun e left h => .still h.2 h.1
  obtain ⟨⟨rfl, requests⟩, r, stored, events⟩ := h
  exact .told events (by rw [World.statusOf, stored]; rfl) fun id => by rw [requests]

theorem accounted_updateProposal {id : String} {proposed : PolicyChange} :
    Ends setup w (updateProposal who id proposed) (fun _ => Accounted w) fun _ => Accounted w := by
  have statuses : Ends setup w (updateProposal who id proposed)
      (fun _ left => ∀ id, left.statusOf id = w.statusOf id)
      fun _ left => ∀ id, left.statusOf id = w.statusOf id := by
    refine ends_updateProposal (fun r target left stored _ alike id => ?_) fun e left alike id => ?_
    · exact World.statusOf_put (r := retargeted r target who.user w.now) stored rfl
        alike.requests id
    · exact World.statusOf_of_requests alike.requests id
  have unheard : Ends setup w (updateProposal who id proposed)
      (fun _ left => left.events = w.events) fun _ left => left.events = w.events :=
    ends_unheard (aloof_told.updateProposal who id proposed)
  exact (statuses.and unheard).mono (fun _ left h => .still h.2 h.1) fun _ left h => .still h.2 h.1

/-! ## Submissions -/

structure Left (w : World) (r : Request) (left : World) : Prop where
  fresh : w.requests.find? r.id = none
  stored : left.requests.find? r.id = some r
  others : ∀ id, id ≠ r.id → left.requests.find? id = w.requests.find? id
  pending : r.status = .pending
  policy : ∀ group, r.target ≠ .group group

theorem Left.of_put (fresh : w.requests.find? r.id = none)
    (requests : ∀ id, left.requests.find? id = (w.requests.put r).find? id)
    (pending : r.status = .pending) (policy : ∀ group, r.target ≠ .group group) :
    Left w r left where
  fresh := fresh
  stored := by rw [requests, RequestStore.find?_put, if_pos rfl]
  others id other := by rw [requests, RequestStore.find?_put, if_neg other]
  pending := pending
  policy := policy

theorem left_submit {s : Submission} (saves : w.Undisturbed .saveRequest)
    (joins : w.Undisturbed .addMember) :
    Ends setup w (submit who s)
      (fun answer left => w.requests.find? answer.id = none ∧
        ∀ id, left.requests.find? id = (w.requests.put answer).find? id)
      fun _ left => left.requests = w.requests ∨ ∃ r, Left w r left := by
  refine ends_submit (fun e drawn left _ alike => .inl alike.requests)
    fun route noted just => ?_
  have hides (r : Request) (same : r.id = (nextRequest w who s).id) (id : String) :
      (noted.requests.put r).find? id = (w.requests.put r).find? id :=
    RequestStore.find?_put_hides same just.held id
  have settled : Ends setup noted (settle who (nextRequest w who s) route)
      (fun answer left => answer.id = (nextRequest w who s).id ∧
        ∀ id, left.requests.find? id = (noted.requests.put answer).find? id) fun _ _ => True := by
    refine ends_settle just.stored (fun left alike' => ⟨rfl, fun id => ?_⟩)
      (fun answer mid left done alike' => ?_) fun _ _ _ => trivial
    · rw [alike'.requests, RequestStore.find?_put]
      split
      · next here => rw [here, just.stored]
      · rfl
    · obtain ⟨requests, same⟩ := done.requests
      exact ⟨same, fun id => by rw [alike'.requests, requests]⟩
  refine (settled.and (ends_settle_admitted just saves joins)).mono ?_ ?_
  · rintro answer left ⟨⟨same, kept⟩, -⟩
    refine ⟨same ▸ just.admitted.fresh, fun id => ?_⟩
    rw [kept]
    exact hides answer same id
  · rintro e left ⟨-, failed, policy, -⟩
    rcases failed.requests (saves.rest just.alike.leftOver) with same | ⟨snapshot, prepared⟩
    · exact .inr ⟨_, .of_put just.admitted.fresh (fun id => same ▸ just.held id) rfl policy⟩
    · refine .inr ⟨{ nextRequest w who s with snapshot := snapshot },
        .of_put just.admitted.fresh (fun id => ?_) rfl policy⟩
      rw [prepared]
      exact hides { nextRequest w who s with snapshot := snapshot } rfl id

/-- A new request for a change of policies waits, and nobody was told of it. -/
structure Unheard (w : World) (r : Request) (left : World) : Prop extends Left w r left where
  events : left.events = w.events

theorem accounted_submit (setup : Setup) (who : Identity) (s : Submission)
    (saves : w.Undisturbed .saveRequest) (joins : w.Undisturbed .addMember) :
    Ends setup w (submit who s) (fun _ => Accounted w)
      fun _ left => Accounted w left ∨ ∃ r, Unheard w r left := by
  have heard := announces_submit setup who s w rfl
  refine ((left_submit saves joins).and heard).mono (fun answer left h => ?_) fun e left h => ?_
  · obtain ⟨⟨fresh, requests⟩, told⟩ := h
    refine .told (events_append_of_told told) ?_ requests
    rw [World.statusOf, fresh]
    rfl
  · obtain ⟨same | ⟨r, waits⟩, told⟩ := h
    · exact .inl (.still (events_eq_of_told told) (World.statusOf_of_requests same))
    · exact .inr ⟨r, waits, events_eq_of_told told⟩

/-! ## Sweeps -/

theorem heard_expire (setup : Setup) (w : World) (now : Timestamp) (r : Request) :
    Ends setup w (expire now r)
      (fun wasEnded left => left.events =
        w.events ++ if wasEnded then [.of (some .approved) (ended now r)] else [])
      fun _ left => left.events = w.events := by
  have left : Keeps setup (Told (made tells w))
      (tryCatch (do leave r; return true) fun _ => return false) :=
    .tryCatch (.bind aloof_told.leave fun _ => .pure _) fun _ => .pure _
  unfold expire
  split
  · exact (List.append_nil _).symm
  · rw [ends_bind]
    refine left.ends rfl (fun gone mid told => ?_) fun _ _ told => events_eq_of_told told
    split
    · exact (events_eq_of_told told).trans (List.append_nil _).symm
    · simp only [ends_bind, ends_pure]
      refine (aloof_told.saveRequest _).ends told (fun _ saved told => ?_)
        fun _ _ told => events_eq_of_told told
      exact (told_announce _ _ told).mono (fun _ _ heard => events_append_of_told heard)
        fun _ _ h => h.elim

/-- A sweep has told of all that it did, and the rest of a page is as it was when it was read. -/
structure SweptAloud (w : World) (page : List Request) (left : World) : Prop where
  accounted : Accounted w left
  saves : left.Undisturbed .saveRequest
  stored : ∀ r ∈ page, left.requests.find? r.id = some r
  ids : (page.map Request.id).Nodup

namespace SweptAloud

variable {now : Timestamp} {page : List Request} {mid : World} {limit : Nat}

theorem expire (h : SweptAloud w (r :: page) mid) :
    Ends setup mid (Service.expire now r) (fun _ => SweptAloud w page) fun _ _ => False := by
  have stored := h.stored r List.mem_cons_self
  obtain ⟨fresh, ids⟩ := List.nodup_cons.1 h.ids
  have other (x : Request) (hx : x ∈ page) : x.id ≠ r.id := fun same =>
    fresh (same ▸ List.mem_map_of_mem hx)
  have done : Ends setup mid (Service.expire now r)
      (fun wasEnded left => left.Undisturbed .saveRequest ∧
        if wasEnded then r.status = .approved ∧ left.requests = mid.requests.put (ended now r)
        else left.requests = mid.requests) fun _ _ => False := by
    refine ends_expire (fun group eligible left past _ _ alike => ?_) (fun left _ alike => ?_)
      fun e left why _ => absurd h.saves (disturbed_of_stored stored why)
    · exact ⟨h.saves.rest alike.leftOver, (Request.isPastExpiry_iff.1 past).1, alike.requests⟩
    · exact ⟨h.saves.rest alike.leftOver, alike.requests⟩
  refine (done.and (heard_expire setup mid now r)).mono (fun wasEnded left d => ?_) fun _ _ d => d.1
  obtain ⟨⟨saves, requests⟩, events⟩ := d
  cases wasEnded with
  | false =>
    have requests : left.requests = mid.requests := requests
    have events : left.events = mid.events := events.trans (List.append_nil _)
    have still : Accounted mid left := .still events (World.statusOf_of_requests requests)
    refine ⟨h.accounted.trans still, saves, fun x hx => ?_, ids⟩
    rw [requests]
    exact h.stored x (List.mem_cons_of_mem _ hx)
  | true =>
    obtain ⟨approved, requests⟩ := requests
    have before : mid.statusOf r.id = some .approved := by
      rw [World.statusOf, stored, ← approved]
      rfl
    have expired : Accounted mid left := .told events before fun id => by rw [requests]
    refine ⟨h.accounted.trans expired, saves, fun x hx => ?_, ids⟩
    have elsewhere : left.requests.find? x.id = mid.requests.find? x.id := by
      rw [requests, RequestStore.find?_put]
      exact if_neg (other x hx)
    exact elsewhere.trans (h.stored x (List.mem_cons_of_mem _ hx))

theorem keeps : SweepKeeps setup now limit (SweptAloud w) fun _ => Accounted w where
  lists cursor mid h := by
    have unheard : Ends setup mid (listExpired now cursor limit)
        (fun _ left => left.events = mid.events) fun _ left => left.events = mid.events :=
      ends_unheard (aloof_told.listExpired now cursor limit)
    have listed : Ends setup mid (listExpired now cursor limit)
        (fun page left => Alike mid left ∧ page = mid.requests.due now cursor limit)
        fun _ left => Alike mid left :=
      ends_listExpired (fun left alike => ⟨alike, rfl⟩) fun e left _ alike => alike
    refine (listed.and unheard).mono (fun page left read => ?_) fun e left failed => ?_
    · obtain ⟨⟨alike, rfl⟩, events⟩ := read
      have still : Accounted mid left :=
        .still events (World.statusOf_of_requests alike.requests)
      refine ⟨h.accounted.trans still, h.saves.rest alike.leftOver, fun r hr => ?_,
        mid.requests.ids_due_nodup ..⟩
      rw [alike.requests]
      exact RequestStore.mem_all_iff.1 (RequestStore.mem_of_mem_due hr).1
    · obtain ⟨alike, events⟩ := failed
      exact h.accounted.trans (.still events (World.statusOf_of_requests alike.requests))
  ends r rest mid h := h.expire.mono (fun _ _ h => h) fun _ _ h => h.elim
  stops page mid h := ⟨h.accounted, h.saves, List.forall_mem_nil _, List.nodup_nil⟩

end SweptAloud

theorem accounted_expireDue {batch : Nat} (saves : w.Undisturbed .saveRequest) :
    Ends setup w (expireDue batch) (fun _ => Accounted w) fun _ => Accounted w := by
  have start : SweptAloud w [] w :=
    ⟨.still rfl fun _ => rfl, saves, List.forall_mem_nil _, List.nodup_nil⟩
  exact (SweptAloud.keeps.expireDue start).mono (fun _ _ done => done.accounted) fun _ _ told => told

end Service

open Service (Unheard)

structure World.Dependable (w : World) : Prop where
  saves : w.Undisturbed .saveRequest
  joins : w.Undisturbed .addMember

/-- A call tells of all that it does to any request, unless it is a submission that fails after its
request was stored. -/
theorem RequestCall.accounted {w : World} (setup : Setup) (c : RequestCall) (h : w.Dependable) :
    Accounted w (c.after setup w) ∨ ∃ who s e r, c = .submit who s ∧
      (Service.submit who s).perform setup w = (.error e, c.after setup w) ∧
      Unheard w r (c.after setup w) := by
  cases c with
  | submit who s =>
    have ends := Service.accounted_submit setup who s h.saves h.joins
    rw [after]
    rcases run : (Service.submit who s).perform setup w with ⟨e | answer, left⟩
    · refine (ends.of_error run).imp_right fun ⟨r, unheard⟩ => ?_
      exact ⟨who, s, e, r, rfl, run, unheard⟩
    · exact .inl (ends.of_ok run)
  | updateStatus who id v => exact .inl (Service.accounted_updateStatus h.saves).left
  | updateProposal who id proposed => exact .inl Service.accounted_updateProposal.left
  | expireDue batch => exact .inl (Service.accounted_expireDue h.saves).left

/-! ## Runs -/

structure World.StoryStays (before after : World) : Prop where
  requests : after.requests = before.requests
  events : after.events = before.events

namespace Run

variable {start w : World}

/-- On the way a submission failed and left the request in the store, of which nobody was told. -/
def LeftBehind (start : World) (id : String) (w : World) : Prop :=
  ∃ before setup who s e after r, Run World.StoryStays World.Dependable start before ∧
    (Service.submit who s).perform setup before = (.error e, after) ∧
    Unheard before r after ∧ r.id = id ∧ Run World.StoryStays World.Dependable after w

/-- The events tell of the request from its beginning, or from when it was left behind. -/
def Told (start : World) (id : String) (w : World) : Prop :=
  Leads none (w.eventsOf id) (w.statusOf id) ∨
    LeftBehind start id w ∧ Leads (some .pending) (w.eventsOf id) (w.statusOf id)

theorem LeftBehind.move {id : String} {moved : World} (h : LeftBehind start id w)
    (goes : World.StoryStays w moved) : LeftBehind start id moved := by
  obtain ⟨before, setup, who, s, e, after, r, run, fails, unheard, own, rest⟩ := h
  exact ⟨before, setup, who, s, e, after, r, run, fails, unheard, own, rest.move goes⟩

theorem LeftBehind.call {id : String} (h : LeftBehind start id w) (fair : w.Dependable)
    (setup : Setup) (c : RequestCall) : LeftBehind start id (c.after setup w) := by
  obtain ⟨before, setup', who, s, e, after, r, run, fails, unheard, own, rest⟩ := h
  exact ⟨before, setup', who, s, e, after, r, run, fails, unheard, own, rest.call fair setup c⟩

/-- Nothing is told of a request that is not there. -/
theorem Told.nothing {id : String} (h : Told start id w) (absent : w.requests.find? id = none) :
    w.eventsOf id = [] := by
  have gone : w.statusOf id = none := by
    rw [World.statusOf, absent]
    rfl
  rcases h with leads | ⟨-, leads⟩ <;> rw [gone] at leads
  · exact leads.eq_nil
  · exact leads.eq_nil

theorem told_call (run : Run World.StoryStays World.Dependable start w) (fair : w.Dependable)
    (setup : Setup) (c : RequestCall) (h : ∀ id, Told start id w) (id : String) :
    Told start id (c.after setup w) := by
  rcases c.accounted setup fair with accounted | ⟨who, s, e, r, -, fails, unheard⟩
  · exact (h id).imp accounted.eventsOf fun ⟨left, leads⟩ =>
      ⟨left.call fair setup c, accounted.eventsOf leads⟩
  · have events (id : String) : (c.after setup w).eventsOf id = w.eventsOf id := by
      rw [World.eventsOf, unheard.events, World.eventsOf]
    by_cases own : id = r.id
    · have none : w.eventsOf r.id = [] := (h r.id).nothing unheard.fresh
      refine .inr ⟨⟨w, setup, who, s, e, _, r, run, fails, unheard, own.symm, .start⟩, ?_⟩
      rw [own, events, none, World.statusOf, unheard.stored]
      exact congrArg some unheard.pending.symm
    · have status : (c.after setup w).statusOf id = w.statusOf id :=
        World.statusOf_congr (unheard.others id own)
      rw [Told, events, status]
      exact (h id).imp_right fun ⟨left, leads⟩ => ⟨left.call fair setup c, leads⟩

/-- The events about a stored request lead from its creation to its status, each from where the one
before it ended, unless its submission failed after it was stored: then they lead from there on. -/
theorem told_in_order (run : Run World.StoryStays World.Dependable start w)
    (empty : start.requests.all = []) (silent : start.events = []) :
    ∀ r ∈ w.requests.all, Leads none (w.eventsOf r.id) (some r.status) ∨
      LeftBehind start r.id w ∧ Leads (some .pending) (w.eventsOf r.id) (some r.status) := by
  have told (id : String) : Told start id w := by
    induction run generalizing id with
    | start =>
      have absent : start.requests.find? id = none := by
        cases found : start.requests.find? id with
        | none => rfl
        | some r =>
          have here := (RequestStore.find?_eq_some_iff.1 found).1
          rw [empty] at here
          cases here
      refine .inl ?_
      rw [World.eventsOf, silent, World.statusOf, absent]
      rfl
    | move run goes ih =>
      have same := ih id
      rw [Told, World.eventsOf, World.statusOf, goes.events, goes.requests]
      exact same.imp_right fun ⟨left, leads⟩ => ⟨left.move goes, leads⟩
    | call run fair setup c ih => exact told_call run fair setup c ih id
  intro r stored
  have status : w.statusOf r.id = some r.status := by
    rw [World.statusOf, RequestStore.mem_all_iff.1 stored]
    rfl
  rw [← status]
  exact told r.id

end Run

/-! ## Two stories -/

theorem World.dependable_of_unplanned {w : World} (unplanned : w.plan = []) : w.Dependable :=
  ⟨undisturbed_of_unplanned unplanned _, undisturbed_of_unplanned unplanned _⟩

def World.withRejection : World :=
  (RequestCall.updateStatus (.of "lead" []) (World.numberedId 1)
    ⟨.rejected, some "not this week"⟩).after default .withRequest

theorem Run.rejection_told :
    ∃ r ∈ World.withRejection.requests.all, r.status = .rejected ∧
      Leads none (World.withRejection.eventsOf r.id) (some .rejected) := by
  have submitted : Run World.StoryStays World.Dependable .withOps .withRequest :=
    .call .start (World.dependable_of_unplanned rfl) default _
  have run : Run World.StoryStays World.Dependable .withOps .withRejection :=
    submitted.call (World.dependable_of_unplanned rfl) default _
  have rejected : ∃ r ∈ World.withRejection.requests.all, r.status = .rejected ∧
      World.withRejection.eventsOf r.id = [.of none .forOps, .of (some .pending) r] := by
    decide +kernel
  obtain ⟨r, stored, status, events⟩ := rejected
  refine ⟨r, stored, status, ?_⟩
  rcases run.told_in_order rfl rfl r stored with leads | ⟨-, leads⟩
  · rwa [status] at leads
  · rw [events] at leads
    cases leads.1

def World.withCancellation : World :=
  (RequestCall.updateStatus (.of "root" []) (World.numberedId 1) ⟨.cancelled, none⟩).after
    Service.rootSetup ((RequestCall.submit (.of "root" []) Service.forMissingRole).after
      Service.rootSetup default)

/-- The submission fails and leaves the request; the first that is told of it is its end. -/
theorem Run.cancelled_before_told :
    ∃ w, Run World.StoryStays World.Dependable default w ∧
      (default : World).requests.all = [] ∧ (default : World).events = [] ∧
      ∃ r ∈ w.requests.all, (w.eventsOf r.id).map (·.previous) = [some .pending] ∧
        ¬ Leads none (w.eventsOf r.id) (some r.status) := by
  have run : Run World.StoryStays World.Dependable default .withCancellation :=
    .call (.call .start (World.dependable_of_unplanned rfl) _ _)
      (World.dependable_of_unplanned rfl) _ _
  have cancelled : ∃ r ∈ World.withCancellation.requests.all,
      World.withCancellation.eventsOf r.id = [.of (some .pending) r] := by decide +kernel
  obtain ⟨r, stored, events⟩ := cancelled
  refine ⟨_, run, rfl, rfl, r, stored, by rw [events]; rfl, fun leads => ?_⟩
  rw [events] at leads
  cases leads.1

end AccessBroker
