import AccessBroker.Proofs.DueOrder
import AccessBroker.Proofs.Runs

/-! # What a sweep ends

A sweep works its way through the requests that were due when it began, in
order, and ends the first so many memberships that can be ended.  Neither the
size of its pages nor the requests that it passes over show in the result.
-/

namespace AccessBroker

open Service (ended)
open World (Alike)

structure World.StoresAnswer (w : World) : Prop where
  listExpired : w.Undisturbed .listExpired
  removeMember : w.Undisturbed .removeMember
  saveRequest : w.Undisturbed .saveRequest

theorem World.StoresAnswer.rest {w left : World} (h : w.StoresAnswer)
    (rest : LeftOver left.plan w.plan) : left.StoresAnswer :=
  ⟨h.listExpired.rest rest, h.removeMember.rest rest, h.saveRequest.rest rest⟩

namespace Request

def isRemovable (r : Request) : Bool :=
  match r.target with
  | .group _ => true
  | .policy .. => false

/-- The request is what a membership was granted for. -/
def Grants (r : Request) (group member : String) : Prop :=
  ∃ name, r.target = .group name ∧ Text.normalize group = Text.normalize name ∧
    member = Text.normalize r.requester

end Request

def Directory.release (d : Directory) (r : Request) : Directory :=
  match r.target with
  | .group group => (d.removeMember group r.requester).2
  | .policy .. => d

def RequestStore.ending (now : Timestamp) (s : RequestStore) (done : List Request) : RequestStore :=
  done.foldl (fun s r => s.put (ended now r)) s

section

variable {now : Timestamp} {done : List Request}

theorem RequestStore.ending_append {s : RequestStore} {more : List Request} :
    s.ending now (done ++ more) = (s.ending now done).ending now more :=
  List.foldl_append

theorem RequestStore.find?_ending_of_not_mem {s : RequestStore} {id : String}
    (h : ∀ r ∈ done, r.id ≠ id) : (s.ending now done).find? id = s.find? id := by
  induction done generalizing s with
  | nil => rfl
  | cons first rest ih =>
    have differs : ¬ id = (ended now first).id := fun eq => h first List.mem_cons_self eq.symm
    rw [ending, List.foldl_cons, ← ending, ih fun r hr => h r (List.mem_cons_of_mem _ hr),
      find?_put, if_neg differs]

theorem RequestStore.find?_ending_of_mem {s : RequestStore} (ids : (done.map Request.id).Nodup)
    {r : Request} (h : r ∈ done) : (s.ending now done).find? r.id = some (ended now r) := by
  induction done generalizing s with
  | nil => cases h
  | cons first rest ih =>
    obtain ⟨fresh, ids⟩ := List.nodup_cons.1 ids
    rw [ending, List.foldl_cons, ← ending]
    rcases List.mem_cons.1 h with rfl | h
    · have other : ∀ x ∈ rest, x.id ≠ r.id := fun x hx eq => fresh (eq ▸ List.mem_map_of_mem hx)
      rw [find?_ending_of_not_mem other, find?_put]
      exact if_pos rfl
    · exact ih ids h

theorem Directory.mem_members_release {d : Directory} {r : Request} {group member : String} :
    member ∈ (d.release r).members group ↔ member ∈ d.members group ∧ ¬ r.Grants group member := by
  unfold release Request.Grants
  split
  · next name target => simp [mem_members_removeMember, target]
  · next target => simp [target]

theorem Directory.mem_members_foldl_release {d : Directory} {group member : String} :
    member ∈ (done.foldl release d).members group ↔
      member ∈ d.members group ∧ ∀ r ∈ done, ¬ r.Grants group member := by
  induction done generalizing d with
  | nil => simp
  | cons first rest ih =>
    rw [List.foldl_cons, ih, mem_members_release, List.forall_mem_cons, and_assoc]

theorem Directory.attributes?_foldl_release {d : Directory} {group : String} :
    (done.foldl release d).attributes? group = d.attributes? group := by
  induction done generalizing d with
  | nil => rfl
  | cons first rest ih =>
    rw [List.foldl_cons, ih, release]
    split
    · exact attributes?_removeMember ..
    · rfl

end

/-! ## How far a sweep has come -/

/-- Of two worlds the second is the first with some memberships ended. -/
structure Swept (now : Timestamp) (w : World) (done : List Request) (left : World) : Prop where
  requests : left.requests = w.requests.ending now done
  directory : left.directory = done.foldl Directory.release w.directory
  leftOver : LeftOver left.plan w.plan

theorem Swept.of_alike {now : Timestamp} {w left : World} (h : Alike w left) :
    Swept now w [] left :=
  ⟨h.requests, h.directory, h.leftOver⟩

theorem Swept.trans {now : Timestamp} {w mid left : World} {first second : List Request}
    (h : Swept now w first mid) (h' : Swept now mid second left) :
    Swept now w (first ++ second) left where
  requests := by rw [h'.requests, h.requests, RequestStore.ending_append]
  directory := by rw [h'.directory, h.directory, List.foldl_append]
  leftOver := h'.leftOver.trans h.leftOver

namespace Service

variable {setup : Setup} {now : Timestamp} {limit : Nat} {w mid left : World}
  {s s' s'' : Sweep} {todo todo' later : List Request}

/-- A sweep has gone from `s` through the requests `todo`, as far as its limit let it; if it goes
on, `later` is what it has still to go through. -/
structure Progress (now : Timestamp) (limit : Nat) (w : World) (s : Sweep)
    (todo later : List Request) (s' : Sweep) (left : World) : Prop where
  swept : Swept now w ((todo.filter Request.isRemovable).take (limit - s.expired)) left
  count : s'.expired =
    s.expired + ((todo.filter Request.isRemovable).take (limit - s.expired)).length
  remaining : s'.expired < limit → left.requests.Remaining now s'.cursor later

namespace Progress

theorem after_alike (alike : Alike w mid) (h : Progress now limit mid s todo later s' left) :
    Progress now limit w s todo later s' left :=
  ⟨(Swept.of_alike alike).trans h.swept, h.count, h.remaining⟩

/-- Once the limit is reached, nothing further counts. -/
theorem stop (h : Progress now limit w s todo later s' left) (reached : limit ≤ s'.expired)
    (more later' : List Request) : Progress now limit w s (todo ++ more) later' s' left := by
  have enough : limit - s.expired ≤ (todo.filter Request.isRemovable).length := by
    have count := h.count
    rw [List.length_take] at count
    omega
  have same : ((todo ++ more).filter Request.isRemovable).take (limit - s.expired) =
      (todo.filter Request.isRemovable).take (limit - s.expired) := by
    rw [List.filter_append, List.take_append_of_le_length enough]
  exact ⟨same ▸ h.swept, same ▸ h.count, fun going => absurd going (Nat.not_lt.2 reached)⟩

/-- Until then, a sweep goes on where it stands. -/
theorem append (h : Progress now limit w s todo (todo' ++ later) s' mid)
    (going : s'.expired < limit) (h' : Progress now limit mid s' todo' later s'' left) :
    Progress now limit w s (todo ++ todo') later s'' left := by
  have all : (todo.filter Request.isRemovable).length ≤ limit - s.expired := by
    have count := h.count
    rw [List.length_take] at count
    omega
  have count := h.count
  rw [List.take_of_length_le all] at count
  have both : ((todo ++ todo').filter Request.isRemovable).take (limit - s.expired) =
      (todo.filter Request.isRemovable).take (limit - s.expired) ++
        (todo'.filter Request.isRemovable).take (limit - s'.expired) := by
    rw [List.filter_append, List.take_append, count, Nat.sub_add_eq]
  refine ⟨both ▸ h.swept.trans h'.swept, ?_, h'.remaining⟩
  rw [both, List.length_append, h'.count, h.count, Nat.add_assoc]

end Progress

/-! ## One request, one page, all pages -/

theorem progress_expire {r : Request} (calm : w.StoresAnswer)
    (remaining : w.requests.Remaining now s.cursor (r :: later)) (going : s.expired < limit) :
    Ends setup w (expire now r) (fun b left => Progress now limit w s [r] later (s.past r b) left)
      fun _ _ => False := by
  obtain ⟨stored, past⟩ := remaining.stored
  obtain ⟨room, spare⟩ : ∃ room, limit - s.expired = room + 1 := ⟨limit - s.expired - 1, by omega⟩
  refine ends_expire (fun group eligible left _ target _ alike => ?_) (fun left why alike => ?_)
    fun e left why _ => ?_
  · have removable : r.isRemovable = true := by simp [Request.isRemovable, target]
    have taken : ([r].filter Request.isRemovable).take (limit - s.expired) = [r] := by
      simp [removable, spare]
    have swept : Swept now w [r] left := by
      refine ⟨alike.requests, alike.directory.trans ?_, alike.leftOver⟩
      simp [Directory.release, target]
    refine ⟨by rw [taken]; exact swept, by rw [taken]; rfl, fun _ => ?_⟩
    rw [alike.requests]
    exact remaining.expired
  · have kept : r.isRemovable = false := by
      rcases why with early | other | disturbed
      · rw [past] at early
        cases early
      · cases target : r.target with
        | group group => exact absurd target (other group)
        | policy => simp [Request.isRemovable, target]
      · exact absurd calm.removeMember disturbed
    have taken : ([r].filter Request.isRemovable).take (limit - s.expired) = [] := by
      simp [kept]
    refine ⟨by rw [taken]; exact .of_alike alike, by rw [taken]; rfl, fun _ => ?_⟩
    rw [alike.requests]
    exact remaining.passed
  · rcases why with disturbed | absent
    · exact absurd calm.saveRequest disturbed
    · rw [stored] at absent
      cases absent

theorem progress_sweepPage (calm : w.StoresAnswer)
    (remaining : w.requests.Remaining now s.cursor (todo ++ later)) (going : s.expired < limit) :
    Ends setup w (sweepPage now limit s todo) (Progress now limit w s todo later)
      fun _ _ => False := by
  induction todo generalizing s w with
  | nil => exact ⟨by simpa using .of_alike (.refl w), by simp, fun _ => remaining⟩
  | cons r rest ih =>
    simp only [sweepPage, ends_bind]
    refine (progress_expire calm remaining going).mono (fun b left first => ?_) fun _ _ h => h
    split
    · next reached => exact first.stop reached rest later
    · next notReached =>
      have going : (s.past r b).expired < limit := Nat.not_le.1 notReached
      refine (ih (calm.rest first.swept.leftOver) (first.remaining going) going).mono
        (fun s' left others => ?_) fun _ _ h => h
      exact first.append going others

/-- A sweep comes to its end on its own: the result does not depend on the bound for its pages,
once there are more of them than requests. -/
theorem progress_sweepPages (setup : Setup) (calm : w.StoresAnswer)
    (remaining : w.requests.Remaining now s.cursor todo) (going : s.expired < limit) :
    ∃ s' left,
      (∀ pages, todo.length < pages →
        (sweepPages now limit pages s).perform setup w = (.ok s', left)) ∧
      Progress now limit w s todo [] s' left := by
  -- Every page but the last takes `limit` of what remains, so less remains after it.
  induction length : todo.length using Nat.strongRecOn generalizing todo s w with
  | ind n ih =>
    subst length
    have listed : Ends setup w (listExpired now s.cursor limit)
        (fun page left => page = todo.take limit ∧ Alike w left) fun _ _ => False := by
      refine ends_listExpired (fun left alike => ⟨remaining.due_eq limit, alike⟩) fun e left fails _ => ?_
      rw [calm.listExpired.effect] at fails
      cases fails
    obtain ⟨page, mid, lists, rfl, alike⟩ := listed.ok
    have remaining : mid.requests.Remaining now s.cursor (todo.take limit ++ todo.drop limit) := by
      rwa [List.take_append_drop, alike.requests]
    obtain ⟨s', left, sweeps, first⟩ :=
      (progress_sweepPage (calm.rest alike.leftOver) remaining going).ok
    have first := first.after_alike alike
    have unfolded (pages : Nat) : (sweepPages now limit (pages + 1) s).perform setup w =
        (if limit ≤ s'.expired || (todo.take limit).length < limit then return s'
          else sweepPages now limit pages s').perform setup left := by
      rw [sweepPages, perform_bind, lists]
      dsimp only
      rw [perform_bind, sweeps]
    by_cases stops : (limit ≤ s'.expired || (todo.take limit).length < limit) = true
    · refine ⟨s', left, fun pages enough => ?_, ?_⟩
      · obtain ⟨pages, rfl⟩ := Nat.exists_eq_add_of_lt enough
        rw [unfolded, if_pos stops]
        rfl
      · simp only [Bool.or_eq_true, decide_eq_true_eq, List.length_take] at stops
        rcases stops with reached | short
        · simpa using first.stop reached (todo.drop limit) []
        · have whole : todo.length ≤ limit := by omega
          rwa [List.take_of_length_le whole, List.drop_of_length_le whole] at first
    · simp only [Bool.or_eq_true, decide_eq_true_eq, List.length_take, not_or] at stops
      have going : s'.expired < limit := Nat.not_le.1 stops.1
      have shorter : (todo.drop limit).length < todo.length := by
        rw [List.length_drop]
        omega
      obtain ⟨s'', after, returns, rest⟩ := ih _ shorter (calm.rest first.swept.leftOver)
        (first.remaining going) going rfl
      refine ⟨s'', after, fun pages enough => ?_, ?_⟩
      · obtain ⟨pages, rfl⟩ := Nat.exists_eq_add_of_lt enough
        rw [unfolded, if_neg (by simp; omega)]
        exact returns _ (by omega)
      · have first : Progress now limit w s (todo.take limit) (todo.drop limit ++ []) s' left := by
          rwa [List.append_nil]
        simpa using first.append going rest

theorem perform_expireDue {batch : Nat}
    (sweeps : (sweepPages w.now (max batch 1) (w.requests.all.length + 1) ⟨none, 0⟩).perform setup w =
      (.ok s, left)) : (expireDue batch).perform setup w = (.ok s.expired, left) := by
  simp only [expireDue, perform_bind, perform_now, perform_get, sweeps, perform_pure]

end Service

/-! ## The whole sweep -/

/-- The memberships of some requests have ended, and nothing else has become of a request or a
group. -/
structure EndedExactly (w : World) (done : List Request) (left : World) : Prop where
  expired : ∀ r ∈ done, left.requests.find? r.id = some (ended w.now r)
  others : ∀ id, (∀ r ∈ done, r.id ≠ id) → left.requests.find? id = w.requests.find? id
  members : ∀ group member, member ∈ left.directory.members group ↔
    member ∈ w.directory.members group ∧ ∀ r ∈ done, ¬ r.Grants group member
  attributes : ∀ group, left.directory.attributes? group = w.directory.attributes? group

theorem Swept.exactly {w left : World} {done : List Request} (h : Swept w.now w done left)
    (ids : (done.map Request.id).Nodup) : EndedExactly w done left where
  expired r hr := by rw [h.requests, RequestStore.find?_ending_of_mem ids hr]
  others id hid := by rw [h.requests, RequestStore.find?_ending_of_not_mem hid]
  members group member := by rw [h.directory, Directory.mem_members_foldl_release]
  attributes group := by rw [h.directory, Directory.attributes?_foldl_release]

/-- A sweep ends the first memberships that have run out and can be ended, as many as it may, and
changes nothing else.  It always comes to its end, and if it ends fewer than it may, none is left. -/
theorem Service.expireDue_exact (setup : Setup) (batch : Nat) {w : World} (calm : w.StoresAnswer) :
    let due := w.requests.overdue w.now
    let removable := due.filter Request.isRemovable
    let limit := max batch 1
    due.Pairwise RequestStore.RunsOutBefore ∧
    (∀ r, r ∈ due ↔
      r ∈ w.requests.all ∧ r.status = .approved ∧ ∃ t, r.expiresAt = some t ∧ t ≤ w.now) ∧
    ∃ s left,
      (∀ pages, w.requests.all.length < pages →
        (sweepPages w.now limit pages ⟨none, 0⟩).perform setup w = (.ok s, left)) ∧
      (expireDue batch).perform setup w = (.ok (min limit removable.length), left) ∧
      EndedExactly w (removable.take limit) left ∧
      (removable.length < limit →
        ∀ r ∈ left.requests.all, r.isPastExpiry w.now = true → r.isRemovable = false) := by
  intro due removable limit
  have remaining : w.requests.Remaining w.now none due := w.requests.remaining_overdue w.now
  have mem_due (r : Request) : r ∈ due ↔ r ∈ w.requests.all ∧ r.isPastExpiry w.now = true := by
    simp [remaining.mem_iff, RequestStore.isAfter]
  have shorter : due.length ≤ w.requests.all.length := by
    simp only [due, RequestStore.overdue, List.length_mergeSort]
    exact List.length_filter_le ..
  have ids : ((removable.take limit).map Request.id).Nodup :=
    (w.requests.ids_overdue_nodup w.now).sublist
      (((List.take_sublist ..).trans List.filter_sublist).map _)
  have going : 0 < limit := Nat.lt_of_lt_of_le Nat.one_pos (Nat.le_max_right ..)
  obtain ⟨s, left, returns, progress⟩ :=
    progress_sweepPages (s := ⟨none, 0⟩) setup calm remaining going
  have count : s.expired = min limit removable.length := by
    simpa [List.length_take] using progress.count
  have exactly : EndedExactly w (removable.take limit) left := progress.swept.exactly ids
  refine ⟨remaining.sorted, fun r => ?_, s, left, fun pages enough => ?_, ?_, exactly,
    fun fewer r stored past => ?_⟩
  · rw [mem_due, Request.isPastExpiry_iff]
  · exact returns pages (Nat.lt_of_le_of_lt shorter enough)
  · rw [← count]
    exact perform_expireDue (returns _ (Nat.lt_succ_of_le shorter))
  · -- What is removable and still due would be among the requests that have expired.
    cases removes : r.isRemovable with
    | false => rfl
    | true =>
      by_cases known : ∃ x ∈ removable.take limit, x.id = r.id
      · obtain ⟨x, hx, same⟩ := known
        have expired := exactly.expired x hx
        rw [same, RequestStore.mem_all_iff.1 stored, Option.some.injEq] at expired
        simp [expired, ended, moved, Request.isPastExpiry] at past
      · have same := exactly.others r.id fun x hx eq => known ⟨x, hx, eq⟩
        rw [RequestStore.mem_all_iff.1 stored] at same
        have here : r ∈ removable :=
          List.mem_filter.2 ⟨(mem_due r).2 ⟨RequestStore.mem_all_iff.2 same.symm, past⟩, removes⟩
        rw [List.take_of_length_le (Nat.le_of_lt fewer)] at known
        exact absurd ⟨r, here, rfl⟩ known

/-- A request that has just run out; where several run out together, ids decide. -/
def Request.due (n : Nat) (requester : String) (target : Target) : Request :=
  { Request.forOps with
    id := World.numberedId n
    requester := requester
    target := target
    status := .approved
    expiresAt := some World.withOps.now }

def Request.policyDue : Request :=
  .due 0 "alice" (.policy "123456789012" "arn:aws:iam::123456789012:role/app"
    (.managedPolicy "arn:aws:iam::aws:policy/View"))

/-- A policy comes first, which no sweep takes back. -/
def Request.dueInOrder : List Request :=
  [policyDue, .due 1 "alice" (.group "ops"), .due 2 "bob" (.group "ops")]

def World.withExpired : World :=
  { World.withOps with
    directory := ((World.withOps.directory.addMember "ops" "alice").2.addMember "ops" "bob").2
    requests := Request.dueInOrder.reverse.foldl .put RequestStore.empty }

theorem World.overdue_withExpired :
    World.withExpired.requests.overdue World.withExpired.now = Request.dueInOrder := by
  have sorted : Request.dueInOrder.Pairwise RequestStore.RunsOutBefore := by
    decide +kernel
  have past : World.withExpired.requests.all.filter (·.isPastExpiry World.withExpired.now) =
      Request.dueInOrder.reverse := by
    decide +kernel
  refine RequestStore.eq_of_sorted RequestStore.expiry
    (World.withExpired.requests.remaining_overdue _).sorted sorted fun r => ?_
  rw [RequestStore.overdue, List.mem_mergeSort, past, List.mem_reverse]

/-- Pages of one: the policy fills the first and is passed over, and the second has `alice`.  The
membership of `bob` waits for the next sweep. -/
theorem Service.expireDue_ends_one :
    World.withExpired.requests.due World.withExpired.now none 1 = [.policyDue] ∧
    ∃ left, (expireDue 1).perform default World.withExpired = (.ok 1, left) ∧
      left.requests.find? Request.policyDue.id = some .policyDue ∧
      "alice" ∈ World.withExpired.directory.members "ops" ∧
      "alice" ∉ left.directory.members "ops" ∧
      "bob" ∈ left.directory.members "ops" := by
  have calm : World.withExpired.StoresAnswer := by
    have plan : World.withExpired.plan = [] := by rfl
    constructor <;> simp [World.Undisturbed, plan]
  obtain ⟨-, -, s, left, -, run, exactly, -⟩ := Service.expireDue_exact default 1 calm
  have ends : (Request.dueInOrder.filter Request.isRemovable).take (max 1 1) =
      [.due 1 "alice" (.group "ops")] := by
    decide +kernel
  rw [World.overdue_withExpired] at run exactly
  rw [ends] at exactly
  refine ⟨?_, left, run, ?_, NameSet.contains_iff.1 (by decide +kernel), fun still => ?_, ?_⟩
  · exact (World.overdue_withExpired ▸ World.withExpired.requests.remaining_overdue _).due_eq 1
  · rw [exactly.others _ (by decide +kernel)]
    decide +kernel
  · obtain ⟨-, kept⟩ := (exactly.members "ops" "alice").1 still
    exact kept _ List.mem_cons_self ⟨"ops", rfl, rfl, by decide +kernel⟩
  · refine (exactly.members "ops" "bob").2 ⟨NameSet.contains_iff.1 (by decide +kernel), ?_⟩
    rintro r hr ⟨name, -, -, requester⟩
    cases List.mem_singleton.1 hr
    exact absurd requester (by decide +kernel)

end AccessBroker
