import AccessBroker.Text.Lowercase

/-! # Sets of names

A set of names is kept in ascending order without repeats, so two sets with
the same members are equal.  `ofNames` is the set of the normal forms of a list
of names; blank ones are no names.
-/

namespace AccessBroker

/-- A finite set of texts, in ascending order. -/
structure NameSet where
  toList : List String
  ascending : toList.Pairwise (· < ·)
deriving DecidableEq

namespace NameSet

/-- Puts a text at its place in an ascending list. -/
def place (name : String) : List String → List String
  | [] => [name]
  | other :: rest =>
    if name < other then name :: other :: rest
    else if name = other then other :: rest
    else other :: place name rest

theorem mem_place {name x : String} {names : List String} :
    x ∈ place name names ↔ x = name ∨ x ∈ names := by
  fun_induction place name names <;> grind

theorem pairwise_place {name : String} {names : List String} (h : names.Pairwise (· < ·)) :
    (place name names).Pairwise (· < ·) := by
  fun_induction place name names with
  | case1 => simp
  | case2 other rest below =>
    refine List.pairwise_cons.2 ⟨fun x hx => ?_, h⟩
    rcases List.mem_cons.1 hx with rfl | hx
    · exact below
    · exact String.lt_trans below ((List.pairwise_cons.1 h).1 x hx)
  | case3 => exact h
  | case4 other rest notBelow ne ih =>
    obtain ⟨first, others⟩ := List.pairwise_cons.1 h
    refine List.pairwise_cons.2 ⟨fun x hx => ?_, ih others⟩
    rcases mem_place.1 hx with rfl | hx
    · exact Decidable.byContradiction fun hlt =>
        ne (String.le_antisymm (String.not_lt.1 hlt) (String.not_lt.1 notBelow))
    · exact first x hx

def empty : NameSet := ⟨[], .nil⟩

instance : Inhabited NameSet := ⟨empty⟩

def insert (s : NameSet) (name : String) : NameSet :=
  ⟨place name s.toList, pairwise_place s.ascending⟩

def ofList (names : List String) : NameSet :=
  names.foldl insert empty

def union (s t : NameSet) : NameSet :=
  t.toList.foldl insert s

def isEmpty (s : NameSet) : Bool :=
  s.toList.isEmpty

def contains (s : NameSet) (name : String) : Bool :=
  s.toList.contains name

def filter (s : NameSet) (p : String → Bool) : NameSet :=
  ⟨s.toList.filter p, s.ascending.filter p⟩

/-- The set of the normal forms of a list of names, blank ones left out. -/
def ofNames (names : List String) : NameSet :=
  ofList ((names.map Text.normalize).filter (· ≠ ""))

instance : Membership String NameSet := ⟨fun s name => name ∈ s.toList⟩

theorem mem_iff {s : NameSet} {name : String} : name ∈ s ↔ name ∈ s.toList := Iff.rfl

theorem contains_iff {s : NameSet} {name : String} : s.contains name = true ↔ name ∈ s := by
  simp [contains, mem_iff]

theorem mem_insert {s : NameSet} {name x : String} : x ∈ s.insert name ↔ x = name ∨ x ∈ s :=
  mem_place

theorem mem_foldl_insert {names : List String} {s : NameSet} {x : String} :
    x ∈ names.foldl insert s ↔ x ∈ s ∨ x ∈ names := by
  induction names generalizing s with
  | nil => simp
  | cons name rest ih => simp only [List.foldl_cons, ih, mem_insert, List.mem_cons]; grind

theorem mem_ofList {names : List String} {x : String} : x ∈ ofList names ↔ x ∈ names := by
  rw [ofList, mem_foldl_insert]
  simp [mem_iff, empty]

theorem mem_filter {s : NameSet} {p : String → Bool} {x : String} :
    x ∈ s.filter p ↔ x ∈ s ∧ p x = true :=
  List.mem_filter

/-- Taking out a text that is not in a set changes nothing. -/
theorem filter_ne_eq_self {s : NameSet} {name : String} (h : name ∉ s) :
    s.filter (· ≠ name) = s := by
  obtain ⟨names, ascending⟩ := s
  have same : names.filter (· ≠ name) = names :=
    List.filter_eq_self.2 fun x hx => by simpa using fun eq : x = name => h (eq ▸ hx)
  simp only [filter, same]

theorem mem_union {s t : NameSet} {x : String} : x ∈ s.union t ↔ x ∈ s ∨ x ∈ t :=
  mem_foldl_insert

end NameSet

end AccessBroker
