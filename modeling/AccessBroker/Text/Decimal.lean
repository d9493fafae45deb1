/-! # Decimal digits

Natural numbers and integers in decimal, most significant digit first, without
leading zeros.
-/

namespace AccessBroker.Text

def digitChar (n : Nat) : Char :=
  Char.ofNat (0x30 + n)

def digitValue (c : Char) : Nat :=
  c.toNat - 0x30

def natChars (n : Nat) : List Char :=
  if n < 10 then [digitChar n] else natChars (n / 10) ++ [digitChar (n % 10)]
termination_by n

/-- The decimal digits of `i`, after a minus sign when it is negative. -/
def intChars (i : Int) : List Char :=
  if i < 0 then '-' :: natChars i.natAbs else natChars i.natAbs

/-- The number that a list of decimal digits writes. -/
def digitsValue (cs : List Char) : Nat :=
  cs.foldl (fun n c => n * 10 + digitValue c) 0

def natText (n : Nat) : String :=
  String.ofList (natChars n)

def intText (i : Int) : String :=
  String.ofList (intChars i)

theorem natChars_ne_nil (n : Nat) : natChars n ≠ [] := by
  rw [natChars]
  split <;> simp

theorem digitValue_digitChar {n : Nat} (h : n < 10) : digitValue (digitChar n) = n := by
  have : n = 0 ∨ n = 1 ∨ n = 2 ∨ n = 3 ∨ n = 4 ∨ n = 5 ∨ n = 6 ∨ n = 7 ∨ n = 8 ∨ n = 9 := by
    omega
  rcases this with h | h | h | h | h | h | h | h | h | h <;> subst h <;> rfl

theorem isDigit_digitChar {n : Nat} (h : n < 10) : (digitChar n).isDigit = true := by
  have digits : ∀ d, d < 10 → (digitChar d).isDigit = true := by decide
  exact digits n h

theorem isDigit_of_mem_natChars {n : Nat} {c : Char} (h : c ∈ natChars n) : c.isDigit = true := by
  fun_induction natChars n with
  | case1 n small =>
    rw [List.mem_singleton] at h
    exact h ▸ isDigit_digitChar small
  | case2 n _ ih =>
    rcases List.mem_append.1 h with h | h
    · exact ih h
    · rw [List.mem_singleton] at h
      exact h ▸ isDigit_digitChar (Nat.mod_lt _ (by decide))

theorem natChars_eq_cons (n : Nat) : ∃ c tail, natChars n = c :: tail ∧ c.isDigit = true := by
  cases h : natChars n with
  | nil => exact absurd h (natChars_ne_nil n)
  | cons c tail => exact ⟨c, tail, rfl, isDigit_of_mem_natChars (h ▸ List.mem_cons_self)⟩

theorem intChars_eq_cons (i : Int) :
    ∃ c tail, intChars i = c :: tail ∧ (c.isDigit = true ∨ c = '-') := by
  obtain ⟨c, tail, digits, isDigit⟩ := natChars_eq_cons i.natAbs
  unfold intChars
  split
  · exact ⟨'-', _, rfl, .inr rfl⟩
  · exact ⟨c, tail, digits, .inl isDigit⟩

theorem digitsValue_append_singleton (cs : List Char) (c : Char) :
    digitsValue (cs ++ [c]) = digitsValue cs * 10 + digitValue c := by
  simp [digitsValue]

/-- Reading the digits of a number gives the number. -/
theorem digitsValue_natChars (n : Nat) : digitsValue (natChars n) = n := by
  fun_induction natChars n with
  | case1 n h => simp [digitsValue, digitValue_digitChar h]
  | case2 n h ih =>
    rw [digitsValue_append_singleton, ih, digitValue_digitChar (Nat.mod_lt _ (by decide))]
    omega

/-- No number of two or more digits starts with a zero. -/
theorem eq_nil_of_natChars {n : Nat} {tail : List Char} (h : natChars n = '0' :: tail) :
    tail = [] := by
  fun_induction natChars n generalizing tail with
  | case1 => exact (List.cons.inj h).2.symm
  | case2 n large ih =>
    cases front : natChars (n / 10) with
    | nil => exact absurd front (natChars_ne_nil _)
    | cons c rest =>
      rw [front, List.cons_append, List.cons.injEq] at h
      obtain ⟨rfl, -⟩ := h
      have value := digitsValue_natChars (n / 10)
      rw [front, ih front] at value
      have zero : n / 10 = 0 := value.symm
      omega

end AccessBroker.Text
