/-! # Registries

A registry holds one value for each of finitely many keys, in the order in
which the keys first came.  Writing an existing key keeps its place.
-/

namespace AccessBroker

/-- A finite map that remembers the order in which its keys came. -/
structure Registry (κ α : Type) where
  entries : List (κ × α)
  keysOnce : (entries.map Prod.fst).Nodup

namespace Registry

variable {κ α : Type} [DecidableEq κ]

/-- Gives `key` the value in a list of entries. -/
def put (key : κ) (value : α) : List (κ × α) → List (κ × α)
  | [] => [(key, value)]
  | (other, old) :: rest =>
    if other = key then (other, value) :: rest else (other, old) :: put key value rest

theorem mem_keys_put {key x : κ} {value : α} {entries : List (κ × α)} :
    x ∈ (put key value entries).map Prod.fst ↔ x = key ∨ x ∈ entries.map Prod.fst := by
  fun_induction put key value entries <;> grind

theorem nodup_put {key : κ} {value : α} {entries : List (κ × α)}
    (h : (entries.map Prod.fst).Nodup) : ((put key value entries).map Prod.fst).Nodup := by
  fun_induction put key value entries with
  | case1 => simp
  | case2 => exact h
  | case3 other old rest ne ih =>
    obtain ⟨fresh, others⟩ := List.nodup_cons.1 h
    refine List.nodup_cons.2 ⟨fun hm => ?_, ih others⟩
    rcases mem_keys_put.1 hm with rfl | hm
    · exact ne rfl
    · exact fresh hm

theorem lookup_put {key other : κ} {value : α} {entries : List (κ × α)} :
    (put key value entries).lookup other =
      if other = key then some value else entries.lookup other := by
  fun_induction put key value entries <;> simp only [List.lookup_cons] <;> grind

theorem mem_put {key : κ} {value : α} {entries : List (κ × α)} {e : κ × α}
    (h : e ∈ put key value entries) : e = (key, value) ∨ e ∈ entries := by
  fun_induction put key value entries with
  | case1 => simpa using h
  | case2 => simp only [List.mem_cons] at h ⊢; grind
  | case3 _ _ _ _ ih => simp only [List.mem_cons] at h ⊢; grind

theorem put_put {key : κ} {first second : α} {entries : List (κ × α)} :
    put key second (put key first entries) = put key second entries := by
  fun_induction put key first entries with
  | case1 => simp [put]
  | case2 => simp [put]
  | case3 other old rest ne ih => simp [put, ne, ih]

theorem lookup_eq_some_iff {key : κ} {value : α} {entries : List (κ × α)}
    (once : (entries.map Prod.fst).Nodup) :
    entries.lookup key = some value ↔ (key, value) ∈ entries := by
  induction entries with
  | nil => simp
  | cons e rest ih =>
    obtain ⟨fresh, others⟩ := List.nodup_cons.1 once
    rw [List.lookup_cons, List.mem_cons]
    by_cases h : key = e.1
    · subst h
      have absent : (e.1, value) ∉ rest := fun hm => fresh (List.mem_map.2 ⟨_, hm, rfl⟩)
      simp only [beq_self_eq_true, absent, or_false, Prod.ext_iff, true_and, Option.some.injEq,
        eq_comm]
    · simp only [beq_eq_false_iff_ne.2 h, ih others, Prod.ext_iff, h, false_and, false_or]

def empty : Registry κ α := ⟨[], .nil⟩

instance : Inhabited (Registry κ α) := ⟨empty⟩

def get? (r : Registry κ α) (key : κ) : Option α :=
  r.entries.lookup key

def contains (r : Registry κ α) (key : κ) : Bool :=
  (r.get? key).isSome

def insert (r : Registry κ α) (key : κ) (value : α) : Registry κ α :=
  ⟨put key value r.entries, nodup_put r.keysOnce⟩

def filter (r : Registry κ α) (p : κ × α → Bool) : Registry κ α :=
  ⟨r.entries.filter p, r.keysOnce.sublist (List.filter_sublist.map _)⟩

def erase (r : Registry κ α) (key : κ) : Registry κ α :=
  r.filter fun e => !decide (e.1 = key)

def values (r : Registry κ α) : List α :=
  r.entries.map Prod.snd

def keys (r : Registry κ α) : List κ :=
  r.entries.map Prod.fst

def size (r : Registry κ α) : Nat :=
  r.entries.length

def ofList (entries : List (κ × α)) : Registry κ α :=
  entries.foldl (fun r e => r.insert e.1 e.2) empty

theorem get?_insert (r : Registry κ α) (key other : κ) (value : α) :
    (r.insert key value).get? other = if other = key then some value else r.get? other :=
  lookup_put

theorem insert_insert (r : Registry κ α) (key : κ) (first second : α) :
    (r.insert key first).insert key second = r.insert key second := by
  simp only [insert, put_put]

theorem get?_eq_some_iff {r : Registry κ α} {key : κ} {value : α} :
    r.get? key = some value ↔ (key, value) ∈ r.entries :=
  lookup_eq_some_iff r.keysOnce

theorem mem_keys_iff {r : Registry κ α} {key : κ} :
    key ∈ r.keys ↔ ∃ value, r.get? key = some value := by
  simp only [keys, List.mem_map, Prod.exists, get?_eq_some_iff, exists_and_right, exists_eq_right]

theorem get?_filter_of_pos {r : Registry κ α} {p : κ × α → Bool} {key : κ} {value : α}
    (h : r.get? key = some value) (kept : p (key, value) = true) :
    (r.filter p).get? key = some value :=
  get?_eq_some_iff.2 (List.mem_filter.2 ⟨get?_eq_some_iff.1 h, kept⟩)

/-- Of the keys that satisfy a test, the entries stay. -/
theorem get?_filter_keys (r : Registry κ α) (p : κ → Bool) (key : κ) :
    (r.filter fun e => p e.1).get? key = if p key then r.get? key else none := by
  obtain ⟨entries, _⟩ := r
  simp only [get?, filter]
  induction entries with
  | nil => simp
  | cons e rest ih => grind

theorem get?_erase (r : Registry κ α) (key other : κ) :
    (r.erase key).get? other = if other = key then none else r.get? other := by
  rw [erase, get?_filter_keys r fun k => !decide (k = key)]
  by_cases same : other = key <;> simp [same]

end Registry

end AccessBroker
