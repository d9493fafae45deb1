import AccessBroker.Proofs.Histories
import AccessBroker.Proofs.TimeOrder

/-! # Ending memberships that have run out

A request is expired only after its membership has ended, and only if it was
due when the sweep began.  So a sweep is a number of such steps, and what every
one of them keeps holds when the sweep is through.
-/

namespace AccessBroker.Service

open World (Alike)

variable {setup : Setup} {w : World} {bad : Error → World → Prop}

/-- A membership that has run out is ended and the request stored as expired; the sweep passes over
a request whose membership cannot be ended. -/
theorem ends_expire {r : Request} {now : Timestamp} {good : Bool → World → Prop}
    (expired : ∀ group eligible left, r.isPastExpiry now = true → r.target = .group group →
      w.Forgot r.requester eligible →
      Alike { w with
        requests := w.requests.put (ended now r)
        directory := (w.directory.removeMember group r.requester).2
        eligible := eligible } left → good true left)
    (passed : ∀ left,
      r.isPastExpiry now = false ∨ (∀ group, r.target ≠ .group group) ∨
        ¬ w.Undisturbed .removeMember → Alike w left → good false left)
    (failed : ∀ e left, ¬ w.Undisturbed .saveRequest ∨ w.requests.find? r.id = none →
      left.requests = w.requests → bad e left) : Ends setup w (expire now r) good bad := by
  unfold expire
  split
  · next early => exact passed w (.inl (by simpa using early)) (.refl w)
  · next due =>
    simp only [ends_bind, ends_tryCatch, ends_pure]
    refine ends_leave (fun group eligible gone target forgot alike => ?_) fun e left why alike => ?_
    · simp only [Bool.not_true, Bool.false_eq_true, if_false, ends_bind, ends_pure]
      refine ends_saveRequest (fun saved alike' => ?_) fun e left why alike' => ?_
      · refine ends_announce fun left alike'' => ?_
        refine expired group eligible left (by simpa using due) target forgot ?_
        rw [alike.requests] at alike'
        exact (alike.setRequests _).trans (alike'.trans alike'')
      · rw [alike.requests] at why
        refine failed e left (why.imp_left fun fails calm => fails (calm.rest alike.leftOver))
          (alike'.requests.trans alike.requests)
    · simp only [Bool.not_false, if_true, ends_pure]
      exact passed left (.inr (why.imp_right fun befalls calm => befalls calm.effect)) alike

variable {batch limit : Nat} {left : World}

/-! ## Page by page -/

/-- What is kept on the way of a sweep, with the rest of a page before it, and what holds if the
sweep fails. -/
structure SweepKeeps (setup : Setup) (now : Timestamp) (limit : Nat)
    (p : List Request → World → Prop) (bad : Error → World → Prop) : Prop where
  lists : ∀ cursor mid, p [] mid → Ends setup mid (listExpired now cursor limit) p bad
  ends : ∀ r rest mid, p (r :: rest) mid → Ends setup mid (expire now r) (fun _ => p rest) bad
  stops : ∀ page mid, p page mid → p [] mid

namespace SweepKeeps

variable {now : Timestamp} {p : List Request → World → Prop} {mid : World}

theorem sweepPage {page : List Request} {s : Sweep} (h : SweepKeeps setup now limit p bad)
    (start : p page mid) : Ends setup mid (sweepPage now limit s page) (fun _ => p []) bad := by
  induction page generalizing s mid with
  | nil => exact start
  | cons r rest ih =>
    simp only [Service.sweepPage, ends_bind]
    refine (h.ends r rest mid start).mono (fun ended left kept => ?_) fun _ _ failed => failed
    split
    · exact h.stops rest left kept
    · exact ih kept

theorem sweepPages {pages : Nat} {s : Sweep} (h : SweepKeeps setup now limit p bad)
    (start : p [] mid) : Ends setup mid (sweepPages now limit pages s) (fun _ => p []) bad := by
  induction pages generalizing s mid with
  | zero => exact start
  | succ pages ih =>
    simp only [Service.sweepPages, ends_bind]
    refine (h.lists s.cursor mid start).mono (fun page left listed => ?_) fun _ _ failed => failed
    refine (h.sweepPage listed).mono (fun s after kept => ?_) fun _ _ failed => failed
    split
    · exact kept
    · exact ih kept

/-- What holds when a sweep begins, and is kept on its way, holds when it is through. -/
theorem expireDue (h : SweepKeeps setup w.now (max batch 1) p bad) (start : p [] w) :
    Ends setup w (expireDue batch) (fun _ => p []) bad := by
  simp only [Service.expireDue, ends_bind, ends_now, ends_get, ends_pure]
  exact h.sweepPages start

end SweepKeeps

structure Recorded (setup : Setup) (w : World) (batch : Nat) (page : List Request) (mid : World) :
    Prop where
  history : History setup w (.expireDue batch) mid
  stored : ∀ r ∈ page, w.requests.find? r.id = some r

/-- Every page lists requests that are stored as they were before the sweep, since those that it
has come past are no longer due. -/
theorem sweepKeeps_recorded : SweepKeeps setup w.now limit (Recorded setup w batch)
    fun _ => History setup w (.expireDue batch) where
  lists cursor mid h := by
    refine ends_listExpired (fun left alike => ⟨fun id => alike.requests ▸ h.history id, ?_⟩)
      fun e left _ alike id => alike.requests ▸ h.history id
    intro r hr
    obtain ⟨here, due⟩ := RequestStore.mem_of_mem_due hr
    exact h.history.stored_of_due (RequestStore.mem_all_iff.1 here) due
  ends r rest mid h := by
    have others : ∀ r ∈ rest, w.requests.find? r.id = some r :=
      fun other hr => h.stored other (.tail _ hr)
    refine ends_expire (fun group eligible left due target _ alike => ⟨?_, others⟩)
      (fun left _ alike => ⟨fun id => alike.requests ▸ h.history id, others⟩)
      fun e left _ same id => same ▸ h.history id
    exact h.history.expire (h.stored r (.head _)) due target alike.requests
  stops page mid h := ⟨h.history, List.forall_mem_nil _⟩

theorem records_expireDue (batch : Nat) :
    Records setup w (.expireDue batch) w (expireDue batch) :=
  (sweepKeeps_recorded.expireDue ⟨.unchanged rfl, List.forall_mem_nil _⟩).mono
    (fun _ _ done => done.history) fun _ _ history => history

/-! ## One step after the other -/

structure Ended (w : World) (r : Request) (mid left : World) : Prop where
  before : w.requests.find? r.id = some r
  stored : mid.requests.find? r.id = some r
  due : r.isPastExpiry w.now = true
  change : ∃ group eligible, r.target = .group group ∧ mid.Forgot r.requester eligible ∧
    Alike { mid with
      requests := mid.requests.put (ended w.now r)
      directory := (mid.directory.removeMember group r.requester).2
      eligible := eligible } left

/-- A sweep that began in `w` is on its way, with the rest of a page before it. -/
structure Sweeping (setup : Setup) (w : World) (batch : Nat) (p : World → Prop)
    (page : List Request) (mid : World) : Prop where
  history : History setup w (.expireDue batch) mid
  saves : mid.Undisturbed .saveRequest
  holds : p mid
  stored : ∀ r ∈ page, mid.requests.find? r.id = some r
  due : ∀ r ∈ page, r.isPastExpiry w.now = true
  ids : (page.map Request.id).Nodup

namespace Sweeping

variable {p : World → Prop} {mid : World} {r : Request} {page : List Request}

theorem alike (h : Sweeping setup w batch p page mid) (alike : Alike mid left) (holds : p left) :
    Sweeping setup w batch p page left := by
  refine ⟨?_, h.saves.rest alike.leftOver, holds, ?_, h.due, h.ids⟩
  · intro id
    rw [alike.requests]
    exact h.history id
  · rw [alike.requests]
    exact h.stored

theorem next (h : Sweeping setup w batch p (r :: page) mid) :
    Sweeping setup w batch p page mid where
  history := h.history
  saves := h.saves
  holds := h.holds
  stored x hx := h.stored x (List.mem_cons_of_mem r hx)
  due x hx := h.due x (List.mem_cons_of_mem r hx)
  ids := (List.nodup_cons.1 h.ids).2

theorem step (h : Sweeping setup w batch p (r :: page) mid) (ended : Ended w r mid left)
    (holds : p left) : Sweeping setup w batch p page left := by
  obtain ⟨group, eligible, target, -, alike⟩ := ended.change
  obtain ⟨fresh, ids⟩ := List.nodup_cons.1 h.ids
  refine ⟨?_, h.saves.rest alike.leftOver, holds, ?_, h.next.due, ids⟩
  · exact h.history.expire ended.before ended.due target alike.requests
  · intro x hx
    have other : x.id ≠ r.id := fun same => fresh (same ▸ List.mem_map_of_mem hx)
    have elsewhere : left.requests.find? x.id = mid.requests.find? x.id := by
      rw [alike.requests, RequestStore.find?_put]
      exact if_neg other
    rw [elsewhere]
    exact h.next.stored x hx

theorem expire (h : Sweeping setup w batch p (r :: page) mid)
    (still : ∀ mid left, p mid → Alike mid left → p left)
    (ends : ∀ r mid left, Ended w r mid left → p mid → p left) :
    Ends setup mid (expire w.now r) (fun _ => Sweeping setup w batch p page) fun _ _ => False := by
  have stored := h.stored r List.mem_cons_self
  have due := h.due r List.mem_cons_self
  have before := h.history.stored_of_due stored due
  refine ends_expire (fun group eligible left _ target forgot alike => ?_) (fun left _ alike => ?_)
    fun e left why _ => ?_
  · have ended : Ended w r mid left :=
      ⟨before, stored, due, group, eligible, target, forgot, alike⟩
    exact h.step ended (ends r mid left ended h.holds)
  · exact h.next.alike alike (still mid left h.holds alike)
  · rcases why with disturbed | absent
    · exact disturbed h.saves
    · cases stored.symm.trans absent

theorem keeps (still : ∀ mid left, p mid → Alike mid left → p left)
    (ends : ∀ r mid left, Ended w r mid left → p mid → p left) :
    SweepKeeps setup w.now limit (Sweeping setup w batch p) fun _ => p where
  lists cursor mid h := by
    refine ends_listExpired (fun listed alike => ?_) fun e left _ alike =>
      still mid left h.holds alike
    have h := h.alike alike (still mid listed h.holds alike)
    refine ⟨h.history, h.saves, h.holds, ?_, ?_, mid.requests.ids_due_nodup ..⟩
    · intro r hr
      rw [alike.requests]
      exact RequestStore.mem_all_iff.1 (RequestStore.mem_of_mem_due hr).1
    · intro r hr
      exact (RequestStore.mem_of_mem_due hr).2
  ends r rest mid h := (h.expire still ends).mono (fun _ _ h => h) fun _ _ h => h.elim
  stops page mid h := ⟨h.history, h.saves, h.holds, List.forall_mem_nil _, List.forall_mem_nil _,
    List.nodup_nil⟩

end Sweeping

/-- What holds when a sweep begins, and is kept by every membership that it ends, holds when it is
through. -/
theorem ends_expireDue {p : World → Prop} (saves : w.Undisturbed .saveRequest) (start : p w)
    (still : ∀ mid left, p mid → Alike mid left → p left)
    (ends : ∀ r mid left, Ended w r mid left → p mid → p left) :
    Ends setup w (expireDue batch) (fun _ => p) fun _ => p := by
  have sweeping : Sweeping setup w batch p [] w :=
    ⟨.unchanged rfl, saves, start, List.forall_mem_nil _, List.forall_mem_nil _, List.nodup_nil⟩
  exact ((Sweeping.keeps still ends).expireDue sweeping).mono (fun _ _ done => done.holds)
    fun _ _ holds => holds

end AccessBroker.Service
