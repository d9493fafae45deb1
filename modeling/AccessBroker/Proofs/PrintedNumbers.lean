import AccessBroker.Json.Outline
import AccessBroker.Json.Printer
import Mathlib.Algebra.Group.Nat.Defs

/-! # Reading back printed numbers

A printed number is read up to the first character that no number can go on
with.  An integer is read back as it was; of a double this depends on the
floating-point library, but what is printed of it is always a number.
-/

namespace AccessBroker.Json

open Text (natChars)

/-- No number goes on with this text. -/
def EndsNumber (rest : List Char) : Prop :=
  ∀ c tail, rest = c :: tail → c.isDigit = false ∧ c ≠ '.' ∧ c ≠ 'e' ∧ c ≠ 'E'

theorem endsNumber_nil : EndsNumber [] := nofun

theorem endsNumber_cons {c : Char} {rest : List Char}
    (h : c.isDigit = false ∧ c ≠ '.' ∧ c ≠ 'e' ∧ c ≠ 'E') : EndsNumber (c :: rest) := by
  intro d tail eq
  cases eq
  exact h

def EndsDigits (rest : List Char) : Prop :=
  ∀ c tail, rest = c :: tail → c.isDigit = false

theorem EndsNumber.digits {rest : List Char} (h : EndsNumber rest) : EndsDigits rest :=
  fun c tail eq => (h c tail eq).1

theorem endsDigits_cons {c : Char} {rest : List Char} (h : c.isDigit = false) :
    EndsDigits (c :: rest) := by
  intro d tail eq
  cases eq
  exact h

structure Digits (ds : List Char) : Prop where
  some : ds ≠ []
  all : ∀ c ∈ ds, c.isDigit = true

theorem digits_natChars (n : Nat) : Digits (natChars n) :=
  ⟨Text.natChars_ne_nil n, fun _ => Text.isDigit_of_mem_natChars⟩

theorem digits_zero : Digits ['0'] where
  some := nofun
  all c hc := by
    rw [List.mem_singleton.1 hc]
    rfl

/-! ## The parts of a number -/

section

variable {ds rest : List Char}

theorem Digits.takeWhile (digits : Digits ds) (ends : EndsDigits rest) :
    (ds ++ rest).takeWhile Char.isDigit = ds ∧ (ds ++ rest).dropWhile Char.isDigit = rest := by
  rw [List.takeWhile_append_of_pos digits.all, List.dropWhile_append_of_pos digits.all]
  cases rest with
  | nil => simp
  | cons c tail => simp [ends c tail rfl]

/-- Digits that start with a zero only if there are no others are those before a point. -/
theorem scanWhole_append (digits : Digits ds) (zero : ∀ tail, ds = '0' :: tail → tail = [])
    (ends : EndsDigits rest) : scanWhole (ds ++ rest) = some (ds, rest) := by
  obtain ⟨taken, dropped⟩ := digits.takeWhile ends
  rw [scanWhole, taken, dropped]
  split
  · exact absurd rfl digits.some
  · next c tail => cases zero _ rfl
  · rfl

theorem scanFraction_of_ends (ends : EndsNumber rest) : scanFraction rest = some (none, rest) := by
  unfold scanFraction
  split
  · next tail => exact absurd rfl (ends '.' tail rfl).2.1
  · rfl

theorem scanFraction_point (digits : Digits ds) (ends : EndsDigits rest) :
    scanFraction ('.' :: (ds ++ rest)) = some (some ds, rest) := by
  obtain ⟨taken, dropped⟩ := digits.takeWhile ends
  rw [scanFraction, taken, dropped]
  split
  · exact absurd rfl digits.some
  · rfl

theorem scanExponent_of_ends (ends : EndsNumber rest) : scanExponent rest = some (none, rest) := by
  unfold scanExponent
  cases rest with
  | nil => rfl
  | cons c tail =>
    have ⟨_, _, small, big⟩ := ends c tail rfl
    simp [small, big]

theorem scanExponent_mark {sign : Char} (signed : sign = '+' ∨ sign = '-') (digits : Digits ds)
    (ends : EndsDigits rest) :
    scanExponent ('e' :: sign :: (ds ++ rest)) = some (some (sign == '-', ds), rest) := by
  obtain ⟨taken, dropped⟩ := digits.takeWhile ends
  obtain ⟨d, more, rfl⟩ := List.exists_cons_of_ne_nil digits.some
  rcases signed with rfl | rfl
  · simp only [scanExponent, true_or, if_true, taken, dropped]; rfl
  · simp only [scanExponent, true_or, if_true, taken, dropped]; rfl

theorem scanUnsigned_of_parts {cs afterWhole afterFraction whole : List Char}
    {fraction : Option (List Char)} {exponent : Option (Bool × List Char)}
    (first : scanWhole cs = some (whole, afterWhole))
    (second : scanFraction afterWhole = some (fraction, afterFraction))
    (third : scanExponent afterFraction = some (exponent, rest)) (negative : Bool) :
    scanUnsigned negative cs = some (⟨negative, whole, fraction, exponent⟩, rest) := by
  simp only [scanUnsigned, first, second, third]

end

/-! ## Integers -/

section

variable {rest : List Char}

theorem scanUnsigned_natChars (negative : Bool) (n : Nat) (ends : EndsNumber rest) :
    scanUnsigned negative (natChars n ++ rest) =
      some (⟨negative, natChars n, none, none⟩, rest) := by
  have whole : scanWhole (natChars n ++ rest) = some (natChars n, rest) :=
    scanWhole_append (digits_natChars n) (fun _ => Text.eq_nil_of_natChars) ends.digits
  exact scanUnsigned_of_parts whole (scanFraction_of_ends ends) (scanExponent_of_ends ends) negative

theorem scanNumber_intChars (i : Int) (ends : EndsNumber rest) :
    scanNumber (Text.intChars i ++ rest) =
      some (⟨decide (i < 0), natChars i.natAbs, none, none⟩, rest) := by
  unfold Text.intChars
  split
  · next negative =>
    rw [List.cons_append, scanNumber, scanUnsigned_natChars true _ ends]
    simp [negative]
  · next positive =>
    unfold scanNumber
    split
    · next tail minus =>
      obtain ⟨c, others, digits, isDigit⟩ := Text.natChars_eq_cons i.natAbs
      rw [digits] at minus
      cases minus
      cases isDigit
    · rw [scanUnsigned_natChars false _ ends]
      simp [positive]

/-- An integer is read back as it was printed. -/
theorem value?_natChars (w : Whole) :
    NumberText.value? ⟨decide (w.val < 0), natChars w.val.natAbs, none, none⟩ =
      some (.whole w) := by
  obtain ⟨i, lower, upper⟩ := w
  have whole : NumberText.whole? ⟨decide (i < 0), natChars i.natAbs, none, none⟩ =
      some ⟨i, lower, upper⟩ := by
    simp only [NumberText.whole?, Text.digitsValue_natChars]
    by_cases negative : i < 0
    · have some_digit : i.natAbs ≠ 0 := by omega
      have fits : i.natAbs ≤ 9223372036854775808 := by omega
      simp only [decide_eq_true negative, if_true, if_neg some_digit, dif_pos fits]
      congr 2
      omega
    · have fits : i.natAbs < 18446744073709551616 := by omega
      simp only [decide_eq_false negative, Bool.false_eq_true, if_false, dif_pos fits]
      congr 2
      omega
  rw [NumberText.value?, whole]

end

/-! ## Doubles -/

/-- Without its sign, the text is a number, read up to its end whatever comes after it. -/
def Scans (cs : List Char) : Prop :=
  ∀ negative, ∃ n, ∀ rest, EndsNumber rest → scanUnsigned negative (cs ++ rest) = some (n, rest)

section

variable {whole fraction exponent : List Char} {sign : Char}

theorem scans_fraction (digits : Digits whole) (zero : ∀ tail, whole = '0' :: tail → tail = [])
    (after : Digits fraction) : Scans (whole ++ '.' :: fraction) := by
  refine fun negative => ⟨⟨negative, whole, some fraction, none⟩, fun rest ends => ?_⟩
  rw [List.append_assoc]
  exact scanUnsigned_of_parts (scanWhole_append digits zero (endsDigits_cons rfl))
    (scanFraction_point after ends.digits) (scanExponent_of_ends ends) negative

theorem scans_exponent (digits : Digits whole) (zero : ∀ tail, whole = '0' :: tail → tail = [])
    (signed : sign = '+' ∨ sign = '-') (power : Digits exponent) :
    Scans (whole ++ 'e' :: sign :: exponent) := by
  refine fun negative => ⟨⟨negative, whole, none, some (sign == '-', exponent)⟩,
    fun rest ends => ?_⟩
  have pointless : scanFraction ('e' :: sign :: (exponent ++ rest)) =
      some (none, 'e' :: sign :: (exponent ++ rest)) := rfl
  rw [List.append_assoc]
  exact scanUnsigned_of_parts (scanWhole_append digits zero (endsDigits_cons rfl)) pointless
    (scanExponent_mark signed power ends.digits) negative

theorem scans_fraction_exponent (digits : Digits whole)
    (zero : ∀ tail, whole = '0' :: tail → tail = []) (after : Digits fraction)
    (signed : sign = '+' ∨ sign = '-') (power : Digits exponent) :
    Scans (whole ++ '.' :: (fraction ++ 'e' :: sign :: exponent)) := by
  refine fun negative => ⟨⟨negative, whole, some fraction, some (sign == '-', exponent)⟩,
    fun rest ends => ?_⟩
  have point : scanFraction ('.' :: (fraction ++ 'e' :: sign :: (exponent ++ rest))) =
      some (some fraction, 'e' :: sign :: (exponent ++ rest)) :=
    scanFraction_point after (endsDigits_cons rfl)
  rw [List.append_assoc, List.cons_append, List.append_assoc]
  exact scanUnsigned_of_parts (scanWhole_append digits zero (endsDigits_cons rfl)) point
    (scanExponent_mark signed power ends.digits) negative

end

theorem digits_zeros_append {ds : List Char} (n : Nat) (digits : Digits ds) :
    Digits (List.replicate n '0' ++ ds) ∧ Digits (ds ++ List.replicate n '0') := by
  have zero : ∀ c ∈ List.replicate n '0', c.isDigit = true := by
    intro c hc
    rw [List.eq_of_mem_replicate hc]
    rfl
  refine ⟨⟨by simp [digits.some], fun c hc => ?_⟩, ⟨by simp [digits.some], fun c hc => ?_⟩⟩
  · exact (List.mem_append.1 hc).elim (zero c) (digits.all c)
  · exact (List.mem_append.1 hc).elim (digits.all c) (zero c)

/-- However its digits are laid out, a number that does not start with a zero stays a number. -/
theorem scans_layout {first : Char} {others : List Char} (digits : Digits (first :: others))
    (leading : first ≠ '0') (power : Int) : Scans (Double.layout (first :: others) power) := by
  have alone : Digits [first] := ⟨by simp, fun c hc => digits.all c (by simp_all)⟩
  have nonzero {more : List Char} : ∀ tail, first :: more = '0' :: tail → tail = [] :=
    fun _ same => absurd (List.cons.inj same).1 leading
  unfold Double.layout
  extract_lets point exponent sign tail
  have reach : point = (first :: others).length + power := rfl
  have signed : sign = '+' ∨ sign = '-' := by
    simp only [sign]
    split <;> simp
  clear_value point sign
  split
  · exact scans_fraction (digits_zeros_append _ digits).2 nonzero digits_zero
  · next notWhole =>
    split
    · next inside =>
      -- The point falls between two digits, so there are some on each side.
      obtain ⟨n, here⟩ : ∃ n : Nat, point = (n + 1 : Nat) := ⟨(point - 1).toNat, by omega⟩
      rw [here, Int.toNat_natCast]
      have short : n + 1 < (first :: others).length := by omega
      have before : Digits ((first :: others).take (n + 1)) :=
        ⟨by simp, fun c hc => digits.all c (List.mem_of_mem_take hc)⟩
      have after : Digits ((first :: others).drop (n + 1)) :=
        ⟨by simpa using short, fun c hc => digits.all c (List.mem_of_mem_drop hc)⟩
      exact scans_fraction before nonzero after
    · split
      · exact scans_fraction digits_zero (fun _ same => (List.cons.inj same).2.symm)
          (digits_zeros_append _ digits).1
      · cases others with
        | nil => exact scans_exponent alone nonzero signed (digits_natChars _)
        | cons second more =>
          have after : Digits (second :: more) :=
            ⟨by simp, fun c hc => digits.all c (List.mem_cons_of_mem _ hc)⟩
          exact scans_fraction_exponent alone nonzero after signed (digits_natChars _)

/-! A double that is not zero has digits other than zero, however the search for them ends. -/

theorem ten_pow_le_two_pow {p b : Nat} (h : 10 * (p / 3) + 4 * (p % 3) ≤ b) : 10 ^ p ≤ 2 ^ b :=
  calc 10 ^ p = 10 ^ (3 * (p / 3) + p % 3) := by rw [Nat.div_add_mod]
    _ = (10 ^ 3) ^ (p / 3) * 10 ^ (p % 3) := by rw [Nat.pow_add, Nat.pow_mul]
    _ ≤ (2 ^ 10) ^ (p / 3) * (2 ^ 4) ^ (p % 3) :=
      Nat.mul_le_mul (Nat.pow_le_pow_left (by decide) _) (Nat.pow_le_pow_left (by decide) _)
    _ = 2 ^ (10 * (p / 3) + 4 * (p % 3)) := by rw [Nat.pow_add, Nat.pow_mul, Nat.pow_mul]
    _ ≤ 2 ^ b := Nat.pow_le_pow_right (by decide) h

theorem two_pow_le_ten_pow {b q : Nat} (h : b ≤ 13 * (q / 4) + 3 * (q % 4)) : 2 ^ b ≤ 10 ^ q :=
  calc 2 ^ b ≤ 2 ^ (13 * (q / 4) + 3 * (q % 4)) := Nat.pow_le_pow_right (by decide) h
    _ = (2 ^ 13) ^ (q / 4) * (2 ^ 3) ^ (q % 4) := by rw [Nat.pow_add, Nat.pow_mul, Nat.pow_mul]
    _ ≤ (10 ^ 4) ^ (q / 4) * 10 ^ (q % 4) :=
      Nat.mul_le_mul (Nat.pow_le_pow_left (by decide) _) (Nat.pow_le_pow_left (by decide) _)
    _ = 10 ^ (4 * (q / 4) + q % 4) := by rw [Nat.pow_add, Nat.pow_mul]
    _ = 10 ^ q := by rw [Nat.div_add_mod]

namespace Double

/-- The grid that the search falls back on is as fine as the number. -/
theorem fallback_le (length : Nat) (exponent : Int) (small : length ≤ 52)
    (low : -1074 ≤ exponent) (high : exponent ≤ 971) (power : Int)
    (fallback : power = (((length : Int) + exponent + 1) * 30103).fdiv 100000 + 1 - 20) :
    2 ^ (-exponent).toNat * 10 ^ power.toNat ≤
      2 ^ length * 2 ^ exponent.toNat * 10 ^ (-power).toNat := by
  rw [Int.fdiv_eq_ediv_of_nonneg _ (by decide)] at fallback
  have twos : 2 ^ length * 2 ^ exponent.toNat = 2 ^ (length + exponent.toNat) := by
    rw [Nat.pow_add]
  rw [twos]
  by_cases coarse : 0 ≤ power
  · have none : (-power).toNat = 0 := by omega
    have tens : 10 ^ power.toNat ≤ 2 ^ (length + exponent.toNat - (-exponent).toNat) :=
      ten_pow_le_two_pow (by omega)
    calc 2 ^ (-exponent).toNat * 10 ^ power.toNat
        ≤ 2 ^ (-exponent).toNat * 2 ^ (length + exponent.toNat - (-exponent).toNat) :=
          Nat.mul_le_mul_left _ tens
      _ = 2 ^ (length + exponent.toNat) := by rw [← Nat.pow_add]; congr 1; omega
      _ = 2 ^ (length + exponent.toNat) * 10 ^ (-power).toNat := by rw [none]; simp
  · have none : power.toNat = 0 := by omega
    have tens : 2 ^ ((-exponent).toNat - (length + exponent.toNat)) ≤ 10 ^ (-power).toNat :=
      two_pow_le_ten_pow (by omega)
    calc 2 ^ (-exponent).toNat * 10 ^ power.toNat = 2 ^ (-exponent).toNat := by rw [none]; simp
      _ ≤ 2 ^ (length + exponent.toNat + ((-exponent).toNat - (length + exponent.toNat))) :=
          Nat.pow_le_pow_right (by decide) (by omega)
      _ = 2 ^ (length + exponent.toNat) * 2 ^ ((-exponent).toNat - (length + exponent.toNat)) := by
          rw [Nat.pow_add]
      _ ≤ 2 ^ (length + exponent.toNat) * 10 ^ (-power).toNat := Nat.mul_le_mul_left _ tens

structure Span.Bounded (s : Span) : Prop where
  some : s.mantissa ≠ 0
  short : s.mantissa < 2 * fractionCount
  low : -1074 ≤ s.exponent
  high : s.exponent ≤ 971

theorem bounded_span {d : Double} (h : d.isZero = false) : d.span.Bounded := by
  have nonzero : d.bits.toNat % 9223372036854775808 ≠ 0 := by simpa [isZero] using h
  have field_lt : exponentField d.bits < 2048 := Nat.mod_lt _ (by decide)
  have fraction_lt : d.bits.toNat % fractionCount < fractionCount := Nat.mod_lt _ (by decide)
  unfold span
  extract_lets field fraction
  split
  · next subnormal =>
    refine ⟨fun none => nonzero ?_, ?_, Int.le_refl _, by simp⟩
    · simp only [field, fraction, exponentField, fractionCount] at subnormal none
      omega
    · simp only [fraction]
      omega
  · next normal =>
    refine ⟨by simp [fractionCount], ?_, ?_, ?_⟩
    · simp only [fraction]
      omega
    · simp only [field] at normal ⊢
      omega
    · simp only [field]
      have := d.finite
      omega

theorem Span.Bounded.floorDigits_ne_zero {s : Span} (h : s.Bounded) :
    (s.floorDigits (s.topPower - 20)).1 ≠ 0 := by
  have length : Nat.log2 s.mantissa ≤ 52 := by
    have := (Nat.log2_lt h.some).2 (show s.mantissa < 2 ^ 53 from h.short)
    omega
  have fits := fallback_le s.mantissa.log2 s.exponent length h.low h.high (s.topPower - 20) rfl
  have leading : 2 ^ s.mantissa.log2 ≤ s.mantissa := Nat.log2_self_le h.some
  refine Nat.ne_of_gt (Nat.div_pos ?_ ?_)
  · exact Nat.le_trans fits (Nat.mul_le_mul_right _ (Nat.mul_le_mul_right _ leading))
  · exact Nat.mul_pos (Nat.pow_pos (by decide)) (Nat.pow_pos (by decide))

theorem Span.search_ne_zero {s : Span} {power : Int} {tries : Nat}
    (fallback : (s.floorDigits (power - tries)).1 ≠ 0) : (s.search power tries).1 ≠ 0 := by
  induction tries generalizing power with
  | zero => simpa [search] using fallback
  | succ tries ih =>
    have finer : (s.search (power - 1) tries).1 ≠ 0 := by
      refine ih ?_
      rwa [show power - 1 - (tries : Int) = power - (tries + 1 : Nat) by omega]
    unfold search
    split
    · split
      · exact finer
      · next other => exact other
    · exact finer

theorem dropZeros_ne_zero {digits : Nat} (h : digits ≠ 0) (power : Int) (tries : Nat) :
    (dropZeros digits power tries).1 ≠ 0 := by
  induction tries generalizing digits power with
  | zero => exact h
  | succ tries ih =>
    unfold dropZeros
    split
    · exact ih (by omega) _
    · exact h

theorem shortest_ne_zero {d : Double} (h : d.isZero = false) : d.shortest.1 ≠ 0 :=
  dropZeros_ne_zero (Span.search_ne_zero (bounded_span h).floorDigits_ne_zero) _ _

theorem scans_body {digits : Nat} (h : digits ≠ 0) (power : Int) :
    Scans (layout (natChars digits) power) := by
  have written := digits_natChars digits
  cases front : natChars digits with
  | nil => exact absurd front written.some
  | cons first others =>
    rw [front] at written
    refine scans_layout written ?_ power
    rintro rfl
    have value := Text.digitsValue_natChars digits
    rw [front, Text.eq_nil_of_natChars front] at value
    exact h value.symm

/-- What is printed of a double is a number, read up to its end whatever comes after it. -/
theorem scanNumber_chars (d : Double) :
    ∃ n, ∀ rest, EndsNumber rest → scanNumber (d.chars ++ rest) = some (n, rest) := by
  have signed (body : List Char) (scans : Scans body) : ∃ n, ∀ rest, EndsNumber rest →
      scanNumber ((if d.negative then '-' :: body else body) ++ rest) = some (n, rest) := by
    split
    · exact scans true
    · obtain ⟨n, scanned⟩ := scans false
      refine ⟨n, fun rest ends => ?_⟩
      have unsigned := scanned rest ends
      unfold scanNumber
      split
      · next tail minus =>
        rw [minus] at unsigned
        cases unsigned
      · exact unsigned
  unfold chars
  refine signed _ ?_
  cases zero : d.isZero with
  | true => exact scans_fraction digits_zero (fun _ same => (List.cons.inj same).2.symm) digits_zero
  | false => exact scans_body (shortest_ne_zero zero) _

end Double

/-- A number starts with a digit or a minus sign. -/
theorem eq_cons_of_scanNumber {cs rest : List Char} {n : NumberText}
    (h : scanNumber cs = some (n, rest)) :
    ∃ c tail, cs = c :: tail ∧ (c.isDigit = true ∨ c = '-') := by
  cases cs with
  | nil => cases h
  | cons c tail =>
    refine ⟨c, tail, rfl, ?_⟩
    by_cases minus : c = '-'
    · exact .inr minus
    · refine .inl (Decidable.byContradiction fun other => ?_)
      have nothing : scanNumber (c :: tail) = none := by
        simp [scanNumber, minus, scanUnsigned, scanWhole, other]
      rw [nothing] at h
      cases h

end AccessBroker.Json
