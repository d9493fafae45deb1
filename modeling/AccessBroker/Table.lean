import AccessBroker.Registry

/-! # Tables

A table gives a value to each of finitely many names.  It is kept as a list in
ascending order of names, so two tables with the same entries are equal.
-/

namespace AccessBroker

/-- A finite map from names to values, in ascending order of names. -/
structure Table (α : Type) where
  toList : List (String × α)
  ascending : toList.Pairwise fun a b => a.1 < b.1

namespace Table

variable {α : Type}

/-- Puts an entry at its place; an entry of that name is replaced. -/
def place (name : String) (value : α) : List (String × α) → List (String × α)
  | [] => [(name, value)]
  | (other, old) :: rest =>
    if name < other then (name, value) :: (other, old) :: rest
    else if name = other then (name, value) :: rest
    else (other, old) :: place name value rest

/-- The entries in ascending order of names, the last one of each name. -/
def sort (entries : List (String × α)) : List (String × α) :=
  entries.foldl (fun sorted m => place m.1 m.2 sorted) []

theorem mem_place {name : String} {value : α} {entries : List (String × α)}
    {m : String × α} (h : m ∈ place name value entries) :
    m = (name, value) ∨ m ∈ entries := by
  fun_induction place name value entries with
  | case1 => simpa using h
  | case2 => simpa using h
  | case3 old rest _ => simp only [List.mem_cons] at h ⊢; grind
  | case4 other old rest _ _ ih => simp only [List.mem_cons] at h ⊢; grind

theorem pairwise_place {name : String} {value : α} {entries : List (String × α)}
    (h : entries.Pairwise fun a b => a.1 < b.1) :
    (place name value entries).Pairwise fun a b => a.1 < b.1 := by
  fun_induction place name value entries with
  | case1 => simp
  | case2 other old rest below =>
    refine List.pairwise_cons.2 ⟨fun m hm => ?_, h⟩
    rcases List.mem_cons.1 hm with rfl | hm
    · exact below
    · exact String.lt_trans below ((List.pairwise_cons.1 h).1 m hm)
  | case3 old rest _ =>
    obtain ⟨first, others⟩ := List.pairwise_cons.1 h
    exact List.pairwise_cons.2 ⟨fun m hm => first m hm, others⟩
  | case4 other old rest notBelow ne ih =>
    obtain ⟨first, others⟩ := List.pairwise_cons.1 h
    refine List.pairwise_cons.2 ⟨fun m hm => ?_, ih others⟩
    rcases mem_place hm with rfl | hm
    · have le : other ≤ name := String.not_lt.1 notBelow
      exact Decidable.byContradiction fun hlt =>
        ne (String.le_antisymm (String.not_lt.1 hlt) le)
    · exact first m hm

theorem pairwise_sort (entries : List (String × α)) :
    (sort entries).Pairwise fun a b => a.1 < b.1 := by
  suffices h : ∀ sorted : List (String × α), (sorted.Pairwise fun a b => a.1 < b.1) →
      (entries.foldl (fun sorted m => place m.1 m.2 sorted) sorted).Pairwise
        fun a b => a.1 < b.1 from h [] .nil
  induction entries with
  | nil => exact fun _ h => h
  | cons m rest ih => exact fun sorted h => ih _ (pairwise_place h)

/-- An entry after all others goes last. -/
theorem place_of_last {name : String} {value : α} {entries : List (String × α)}
    (h : ∀ e ∈ entries, e.1 < name) : place name value entries = entries ++ [(name, value)] := by
  fun_induction place name value entries with
  | case1 => rfl
  | case2 other old rest below =>
    exact absurd (h (other, old) (List.mem_cons_self ..)) (String.lt_asymm below)
  | case3 old rest _ =>
    exact absurd (h (name, old) (List.mem_cons_self ..)) (String.lt_irrefl name)
  | case4 other old rest _ _ ih =>
    rw [ih fun e he => h e (List.mem_cons_of_mem _ he), List.cons_append]

/-- Entries in ascending order stay as they are. -/
theorem sort_of_ascending {entries : List (String × α)}
    (h : entries.Pairwise fun a b => a.1 < b.1) : sort entries = entries := by
  suffices hs : ∀ sorted : List (String × α), (sorted ++ entries).Pairwise (fun a b => a.1 < b.1) →
      entries.foldl (fun sorted m => place m.1 m.2 sorted) sorted = sorted ++ entries from hs [] h
  clear h
  induction entries with
  | nil => simp
  | cons m rest ih =>
    intro sorted h
    have last : place m.1 m.2 sorted = sorted ++ [m] :=
      place_of_last fun e he => (List.pairwise_append.1 h).2.2 e he m (List.mem_cons_self ..)
    rw [List.foldl_cons, last, ih _ (by simpa using h), List.append_assoc, List.singleton_append]

def empty : Table α := ⟨[], .nil⟩

instance : Inhabited (Table α) := ⟨empty⟩

instance [DecidableEq α] : DecidableEq (Table α) := fun a b =>
  decidable_of_iff (a.toList = b.toList) (by cases a; cases b; simp)

/-- The table of some entries; of those with one name the last one counts. -/
def ofList (entries : List (String × α)) : Table α :=
  ⟨sort entries, pairwise_sort entries⟩

theorem ofList_toList (t : Table α) : ofList t.toList = t := by
  obtain ⟨entries, ascending⟩ := t
  simp only [ofList, sort_of_ascending ascending]

def get? (t : Table α) (name : String) : Option α :=
  t.toList.lookup name

def insert (t : Table α) (name : String) (value : α) : Table α :=
  ⟨place name value t.toList, pairwise_place t.ascending⟩

theorem toList_foldl_insert (entries : List (String × α)) (t : Table α) :
    (entries.foldl (fun t m => t.insert m.1 m.2) t).toList =
      entries.foldl (fun sorted m => place m.1 m.2 sorted) t.toList := by
  induction entries generalizing t with
  | nil => rfl
  | cons m rest ih => exact ih _

def erase (t : Table α) (name : String) : Table α :=
  ⟨t.toList.filter (·.1 != name), t.ascending.filter _⟩

def names (t : Table α) : List String :=
  t.toList.map (·.1)

/-- The entries whose name and value satisfy a test. -/
def filter (t : Table α) (p : String × α → Bool) : Table α :=
  ⟨t.toList.filter p, t.ascending.filter p⟩

theorem lookup_place {name other : String} {value : α} {entries : List (String × α)} :
    (place name value entries).lookup other =
      if other = name then some value else entries.lookup other := by
  fun_induction place name value entries with
  | case1 => simp only [List.lookup_cons]; grind
  | case2 => simp only [List.lookup_cons]; grind
  | case3 => simp only [List.lookup_cons]; grind
  | case4 => simp only [List.lookup_cons]; grind

/-- A new name adds one entry. -/
theorem perm_place_of_lookup_eq_none {name : String} {value : α} {entries : List (String × α)}
    (h : entries.lookup name = none) :
    (place name value entries).Perm ((name, value) :: entries) := by
  fun_induction place name value entries with
  | case1 => exact .refl _
  | case2 => exact .refl _
  | case3 => simp at h
  | case4 other old rest _ ne ih =>
    rw [List.lookup_cons, beq_eq_false_iff_ne.2 ne] at h
    exact ((ih h).cons _).trans (.swap ..)

/-- A name that is there has its one entry replaced. -/
theorem perm_place_of_lookup_eq_some {name : String} {value old : α} {entries : List (String × α)}
    (ascending : entries.Pairwise fun a b => a.1 < b.1) (h : entries.lookup name = some old) :
    ∃ others, entries.Perm ((name, old) :: others) ∧
      (place name value entries).Perm ((name, value) :: others) := by
  fun_induction place name value entries with
  | case1 => simp at h
  | case2 other first rest below =>
    -- All entries come after `name`, so none of them is its own.
    have later : ∀ e ∈ (other, first) :: rest, name < e.1 := by
      intro e he
      rcases List.mem_cons.1 he with rfl | he
      · exact below
      · exact String.lt_trans below ((List.pairwise_cons.1 ascending).1 e he)
    have absent : ((other, first) :: rest).lookup name = none := by
      rw [List.lookup_eq_none_iff]
      intro e he
      simpa using fun eq : name = e.1 => String.lt_irrefl name (eq ▸ later e he)
    rw [absent] at h
    cases h
  | case3 first rest =>
    simp only [List.lookup_cons, beq_self_eq_true, Option.some.injEq] at h
    subst h
    exact ⟨rest, .refl _, .refl _⟩
  | case4 other first rest _ ne ih =>
    rw [List.lookup_cons, beq_eq_false_iff_ne.2 ne] at h
    obtain ⟨others, before, after⟩ := ih (List.pairwise_cons.1 ascending).2 h
    exact ⟨(other, first) :: others, (before.cons _).trans (.swap ..),
      (after.cons _).trans (.swap ..)⟩

/-- What is found in a table are its entries. -/
theorem mem_toList_iff {t : Table α} {name : String} {value : α} :
    (name, value) ∈ t.toList ↔ t.get? name = some value := by
  have once : (t.toList.map Prod.fst).Nodup := by
    apply List.pairwise_map.2
    apply t.ascending.imp
    intro a b before same
    rw [same] at before
    exact String.lt_irrefl _ before
  exact (Registry.lookup_eq_some_iff once).symm

theorem mem_names_iff {t : Table α} {name : String} :
    name ∈ t.names ↔ ∃ value, t.get? name = some value := by
  simp only [names, List.mem_map, Prod.exists, exists_and_right, exists_eq_right, mem_toList_iff]

/-- Two lists in ascending order with the same members are the same. -/
theorem eq_of_ascending {f : α → String} {as bs : List α}
    (ascending : (as.map f).Pairwise (· < ·)) (ascending' : (bs.map f).Pairwise (· < ·))
    (same : ∀ a, a ∈ as ↔ a ∈ bs) : as = bs := by
  have nodup {l : List α} (h : (l.map f).Pairwise (· < ·)) : l.Nodup := by
    apply (List.pairwise_map.1 h).imp
    intro a b before same
    rw [same] at before
    exact String.lt_irrefl _ before
  have perm : as.Perm bs :=
    (List.perm_ext_iff_of_nodup (nodup ascending) (nodup ascending')).2 same
  apply perm.eq_of_pairwise _ (List.pairwise_map.1 ascending) (List.pairwise_map.1 ascending')
  intro a b _ _ before after
  exact absurd after (String.lt_asymm before)

/-- Two tables in which the same is found are the same. -/
theorem eq_of_get? {s t : Table α} (same : ∀ name, s.get? name = t.get? name) : s = t := by
  have entries : s.toList = t.toList := by
    apply eq_of_ascending (List.pairwise_map.2 s.ascending) (List.pairwise_map.2 t.ascending)
    intro m
    rw [mem_toList_iff, mem_toList_iff, same]
  cases s
  cases t
  cases entries
  rfl

theorem get?_insert (t : Table α) (name other : String) (value : α) :
    (t.insert name value).get? other = if other = name then some value else t.get? other :=
  lookup_place

/-- Entries of different names are put into a table in any order. -/
theorem insert_comm (t : Table α) {name other : String} (apart : name ≠ other) (value old : α) :
    (t.insert name value).insert other old = (t.insert other old).insert name value := by
  apply eq_of_get?
  intro found
  simp only [get?_insert]
  by_cases here : found = name
  · simp [here, apart]
  · simp [here]

theorem get?_erase (t : Table α) (name other : String) :
    (t.erase name).get? other = if other = name then none else t.get? other := by
  obtain ⟨entries, _⟩ := t
  simp only [get?, erase]
  induction entries with
  | nil => simp
  | cons e rest ih => grind

theorem get?_foldl_erase (t : Table α) (names : List String) (other : String) :
    (names.foldl erase t).get? other = if other ∈ names then none else t.get? other := by
  induction names generalizing t with
  | nil => simp
  | cons name rest ih =>
    rw [List.foldl_cons, ih, get?_erase]
    by_cases here : other = name <;> simp [here]

end Table

end AccessBroker
