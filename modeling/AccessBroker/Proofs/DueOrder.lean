import AccessBroker.Proofs.Histories
import AccessBroker.Proofs.TimeOrder

/-! # The order in which memberships run out

A page of due requests is cut from a list that is sorted anew for every page,
while the requests that expire leave it and those passed over stay.  Past the
cursor nothing changes: what is due there is always the rest of the one list
that was due at the start.
-/

namespace AccessBroker.RequestStore

variable {s : RequestStore} {now : Timestamp} {cursor : Option ExpiryCursor} {a b r : Request}

/-! ## The order -/

/-- A request runs out before another; the ids decide about two that run out together. -/
def RunsOutBefore (a b : Request) : Prop :=
  expiry a < expiry b ∨ expiry a = expiry b ∧ a.id < b.id

instance : Decidable (RunsOutBefore a b) :=
  inferInstanceAs (Decidable (_ ∨ _))

theorem RunsOutBefore.irrefl (a : Request) : ¬ RunsOutBefore a a :=
  show ¬ Precedes expiry a a from Precedes.irrefl a

def cursorAt (r : Request) : ExpiryCursor :=
  ⟨expiry r, r.id⟩

theorem isAfter_some {c : ExpiryCursor} :
    isAfter (some c) b = true ↔ c.expiresAt < expiry b ∨ c.expiresAt = expiry b ∧ c.requestId < b.id := by
  simp only [isAfter, Bool.or_eq_true, Bool.and_eq_true, decide_eq_true_eq, beq_iff_eq]

theorem isAfter_of_runsOutBefore (ha : isAfter cursor a = true) (h : RunsOutBefore a b) :
    isAfter cursor b = true := by
  cases cursor with
  | none => rfl
  | some c => exact isAfter_some.2 (later_trans (R := (· < ·)) String.lt_trans (isAfter_some.1 ha) h)

/-! ## What is due past a cursor -/

def overdue (s : RequestStore) (now : Timestamp) : List Request :=
  (s.all.filter (·.isPastExpiry now)).mergeSort expiresFirst

/-- What is still due past a cursor, in order. -/
structure Remaining (s : RequestStore) (now : Timestamp) (cursor : Option ExpiryCursor)
    (rest : List Request) : Prop where
  sorted : rest.Pairwise RunsOutBefore
  mem_iff : ∀ r, r ∈ rest ↔ r ∈ s.all ∧ r.isPastExpiry now = true ∧ isAfter cursor r = true

theorem ids_overdue_nodup (s : RequestStore) (now : Timestamp) :
    ((s.overdue now).map Request.id).Nodup :=
  ids_mergeSort_nodup expiry (s.ids_filter_nodup _)

theorem remaining_overdue (s : RequestStore) (now : Timestamp) :
    s.Remaining now none (s.overdue now) where
  sorted := pairwise_mergeSort expiry (s.ids_filter_nodup _)
  mem_iff r := by simp [overdue, isAfter]

namespace Remaining

variable {rest : List Request}

/-- A page is cut from what remains. -/
theorem due_eq (h : s.Remaining now cursor rest) (limit : Nat) :
    s.due now cursor limit = rest.take limit := by
  refine congrArg (List.take limit) (eq_of_sorted expiry ?_ h.sorted fun r => ?_)
  · exact pairwise_mergeSort expiry (s.ids_filter_nodup _)
  · simp [h.mem_iff]

theorem stored (h : s.Remaining now cursor (r :: rest)) :
    s.find? r.id = some r ∧ r.isPastExpiry now = true := by
  obtain ⟨stored, past, -⟩ := (h.mem_iff r).1 List.mem_cons_self
  exact ⟨mem_all_iff.1 stored, past⟩

/-- Past the first of what remains comes the rest, whether or not the first one expires. -/
theorem next {t : RequestStore} (h : s.Remaining now cursor (r :: rest))
    (others : ∀ x, RunsOutBefore r x → x.isPastExpiry now = true → (x ∈ t.all ↔ x ∈ s.all)) :
    t.Remaining now (some (cursorAt r)) rest := by
  obtain ⟨first, sorted⟩ := List.pairwise_cons.1 h.sorted
  obtain ⟨stored, past, here⟩ := (h.mem_iff r).1 List.mem_cons_self
  -- What comes after `r` came after the old cursor as well.
  refine ⟨sorted, fun x => ⟨fun hx => ?_, fun ⟨left, pastX, after⟩ => ?_⟩⟩
  · obtain ⟨storedX, pastX, -⟩ := (h.mem_iff x).1 (List.mem_cons_of_mem _ hx)
    exact ⟨(others x (first x hx) pastX).2 storedX, pastX, isAfter_some.2 (first x hx)⟩
  · have after : RunsOutBefore r x := isAfter_some.1 after
    have known := (h.mem_iff x).2
      ⟨(others x after pastX).1 left, pastX, isAfter_of_runsOutBefore here after⟩
    rcases List.mem_cons.1 known with rfl | known
    · exact (RunsOutBefore.irrefl x after).elim
    · exact known

theorem passed (h : s.Remaining now cursor (r :: rest)) :
    s.Remaining now (some (cursorAt r)) rest :=
  h.next fun _ _ _ => Iff.rfl

theorem expired (h : s.Remaining now cursor (r :: rest)) :
    (s.put (Service.ended now r)).Remaining now (some (cursorAt r)) rest := by
  refine h.next fun x after past => ?_
  rw [mem_all_iff, mem_all_iff, find?_put]
  split
  · next same =>
    have same : x.id = r.id := same
    constructor
    · intro eq
      simp [← Option.some.inj eq, Service.ended, Service.moved, Request.isPastExpiry] at past
    · intro found
      rw [same, h.stored.1] at found
      exact (RunsOutBefore.irrefl r (Option.some.inj found ▸ after)).elim
  · exact Iff.rfl

end Remaining

end AccessBroker.RequestStore
