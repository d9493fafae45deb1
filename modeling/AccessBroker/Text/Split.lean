/-! # Cutting texts at a character -/

namespace AccessBroker.Text

/-- What stands before the first `sep` and what stands after it. -/
def cut (sep : Char) : List Char → Option (List Char × List Char)
  | [] => none
  | c :: cs =>
    if c = sep then some ([], cs)
    else (cut sep cs).map fun parts => (c :: parts.1, parts.2)

/-- What stands after the last `sep`, or everything if there is none. -/
def afterLast (sep : Char) (cs : List Char) : List Char :=
  (cs.reverse.takeWhile (· ≠ sep)).reverse

def pieces (sep : Char) : List Char → List (List Char)
  | [] => [[]]
  | c :: cs =>
    if c = sep then [] :: pieces sep cs
    else
      match pieces sep cs with
      | [] => [[c]]
      | piece :: rest => (c :: piece) :: rest

theorem pieces_ne_nil (sep : Char) (cs : List Char) : pieces sep cs ≠ [] := by
  fun_induction pieces sep cs <;> simp

def split (sep : Char) (s : String) : List String :=
  (pieces sep s.toList).map String.ofList

/-- The characters after a given beginning. -/
def after? : List Char → List Char → Option (List Char)
  | [], cs => some cs
  | _ :: _, [] => none
  | p :: ps, c :: cs => if p = c then after? ps cs else none

/-- Whether a list of characters occurs in another. -/
def occurs (part : List Char) : List Char → Bool
  | [] => part.isEmpty
  | c :: cs => (after? part (c :: cs)).isSome || occurs part cs

theorem cut_eq_some_iff {sep : Char} {cs before after : List Char} :
    cut sep cs = some (before, after) ↔ cs = before ++ sep :: after ∧ sep ∉ before := by
  fun_induction cut sep cs generalizing before with
  | case1 => simp
  | case2 cs =>
    constructor
    · rintro h
      obtain ⟨rfl, rfl⟩ := by simpa using h
      simp
    · rintro ⟨h, hn⟩
      cases before with
      | nil => simpa using h
      | cons b bs => simp_all
  | case3 c cs ne ih =>
    simp only [Option.map_eq_some_iff, Prod.exists, Prod.mk.injEq]
    constructor
    · rintro ⟨b, a, h, rfl, rfl⟩
      obtain ⟨rfl, hn⟩ := ih.1 h
      simp [hn, Ne.symm ne]
    · rintro ⟨h, hn⟩
      cases before with
      | nil => simp_all
      | cons b bs =>
        obtain ⟨rfl, rfl⟩ := by simpa using h
        exact ⟨bs, after, ih.2 ⟨rfl, by simp_all⟩, rfl, rfl⟩

theorem after?_eq_some_iff {start cs rest : List Char} :
    after? start cs = some rest ↔ cs = start ++ rest := by
  fun_induction after? start cs <;> grind

end AccessBroker.Text
