import AccessBroker.Access.Store

/-! # Requests in the order of a time

Requests are sorted by when they were made or by when they run out, and their
ids decide between equal times.  Stored requests have different ids, so either
order is strict, and whether a request is among the first of a list is a matter
of how many come before it.
-/

namespace AccessBroker.RequestStore

variable {s : RequestStore} {time : Request → Timestamp} {a b c r : Request} {rs : List Request}

/-! ## The order -/

/-- Ids decide between equal times, by whatever order. -/
theorem later_trans {R : String → String → Prop} (trans : ∀ {x y z}, R x y → R y z → R x z)
    {t u v : Timestamp} {x y z : String} (htu : t < u ∨ t = u ∧ R x y)
    (huv : u < v ∨ u = v ∧ R y z) : t < v ∨ t = v ∧ R x z := by
  rcases htu with earlier | ⟨rfl, first⟩
  · rcases huv with earlier' | ⟨rfl, -⟩
    · exact .inl (Int.lt_trans earlier earlier')
    · exact .inl earlier
  · exact huv.imp_right fun ⟨same, second⟩ => ⟨same, trans first second⟩

def Precedes (time : Request → Timestamp) (a b : Request) : Prop :=
  time a < time b ∨ time a = time b ∧ a.id < b.id

instance : Decidable (Precedes time a b) := inferInstanceAs (Decidable (_ ∨ _))

namespace Precedes

theorem trans (hab : Precedes time a b) (hbc : Precedes time b c) : Precedes time a c :=
  later_trans (R := (· < ·)) String.lt_trans hab hbc

theorem irrefl (a : Request) : ¬ Precedes time a a := by
  rintro (earlier | ⟨-, below⟩)
  · exact Int.lt_irrefl _ earlier
  · exact String.lt_irrefl _ below

theorem asymm (hab : Precedes time a b) : ¬ Precedes time b a :=
  fun hba => irrefl a (hab.trans hba)

theorem ne (h : Precedes time a b) : a ≠ b := by
  rintro rfl
  exact irrefl a h

end Precedes

def sortsFirst (time : Request → Timestamp) (a b : Request) : Bool :=
  time a < time b || (time a == time b && a.id ≤ b.id)

theorem sortsFirst_iff :
    sortsFirst time a b = true ↔ time a < time b ∨ time a = time b ∧ a.id ≤ b.id := by
  simp [sortsFirst]

theorem sortsFirst_trans (a b c : Request) (hab : sortsFirst time a b = true)
    (hbc : sortsFirst time b c = true) : sortsFirst time a c = true :=
  sortsFirst_iff.2 <| later_trans (R := (· ≤ ·)) String.le_trans (sortsFirst_iff.1 hab)
    (sortsFirst_iff.1 hbc)

theorem sortsFirst_total (a b : Request) : (sortsFirst time a b || sortsFirst time b a) = true := by
  rw [Bool.or_eq_true, sortsFirst_iff, sortsFirst_iff]
  rcases Int.lt_trichotomy (time a).seconds (time b).seconds with earlier | same | later
  · exact .inl (.inl earlier)
  · have same := Timestamp.eq_of_seconds_eq same
    exact (String.le_total a.id b.id).imp (fun le => .inr ⟨same, le⟩) fun le => .inr ⟨same.symm, le⟩
  · exact .inr (.inl later)

theorem Precedes.of_sortsFirst (h : sortsFirst time a b = true) (differ : a.id ≠ b.id) :
    Precedes time a b := by
  refine (sortsFirst_iff.1 h).imp_right fun ⟨same, le⟩ => ⟨same, ?_⟩
  exact Decidable.byContradiction fun notBelow =>
    differ (String.le_antisymm le (String.not_lt.1 notBelow))

/-! ## Sorted requests -/

theorem ids_nodup (s : RequestStore) : (s.all.map Request.id).Nodup := by
  have ids : s.all.map Request.id = s.byId.entries.map Prod.fst := by
    simp only [all, Registry.values, List.map_map]
    exact List.map_congr_left fun e he => (s.ownIds e he).symm
  rw [ids]
  exact s.byId.keysOnce

/-- Whatever is picked out of a store has different ids. -/
theorem ids_filter_nodup (s : RequestStore) (p : Request → Bool) :
    ((s.all.filter p).map Request.id).Nodup :=
  s.ids_nodup.sublist (List.filter_sublist.map _)

theorem ids_mergeSort_nodup (time : Request → Timestamp) (ids : (rs.map Request.id).Nodup) :
    ((rs.mergeSort (sortsFirst time)).map Request.id).Nodup :=
  ((List.mergeSort_perm rs (sortsFirst time)).map _).nodup_iff.2 ids

theorem ids_due_nodup (s : RequestStore) (now : Timestamp) (after : Option ExpiryCursor)
    (limit : Nat) : ((s.due now after limit).map Request.id).Nodup :=
  (ids_mergeSort_nodup expiry (s.ids_filter_nodup _)).sublist ((List.take_sublist _ _).map _)

/-- Sorting requests with different ids puts them into strict order. -/
theorem pairwise_mergeSort (time : Request → Timestamp)
    (ids : (rs.map Request.id).Nodup) :
    (rs.mergeSort (sortsFirst time)).Pairwise (Precedes time) := by
  have differ := List.pairwise_map.1 (ids_mergeSort_nodup time ids)
  refine ((List.pairwise_mergeSort sortsFirst_trans sortsFirst_total rs).and differ).imp ?_
  exact fun ⟨first, differ⟩ => .of_sortsFirst first differ

/-- Two lists in strict order with the same members are the same. -/
theorem eq_of_sorted (time : Request → Timestamp) {rs' : List Request}
    (sorted : rs.Pairwise (Precedes time)) (sorted' : rs'.Pairwise (Precedes time))
    (same : ∀ r, r ∈ rs ↔ r ∈ rs') : rs = rs' := by
  have nodup {l : List Request} (h : l.Pairwise (Precedes time)) : l.Nodup := h.imp Precedes.ne
  refine List.Perm.eq_of_pairwise (fun a b _ _ hab hba => (hab.asymm hba).elim) sorted sorted'
    ((List.perm_ext_iff_of_nodup (nodup sorted) (nodup sorted')).2 same)

/-- A request is among the first of a list in strict order if too few others come before it. -/
theorem mem_take_iff (sorted : rs.Pairwise (Precedes time)) (n : Nat) :
    r ∈ rs.take n ↔ r ∈ rs ∧ rs.countP (Precedes time · r) < n := by
  induction rs generalizing n with
  | nil => simp
  | cons first rest ih =>
    obtain ⟨before, sorted⟩ := List.pairwise_cons.1 sorted
    cases n with
    | zero => simp
    | succ n =>
      rw [List.take_succ_cons, List.mem_cons, List.mem_cons, List.countP_cons]
      by_cases head : r = first
      · subst head
        have none : rest.countP (Precedes time · r) = 0 :=
          List.countP_eq_zero.2 fun x hx => by simpa using (before x hx).asymm
        simp [none, Precedes.irrefl]
      · simp only [head, false_or, ih sorted]
        refine and_congr_right fun here => ?_
        simp [before r here]

end AccessBroker.RequestStore
