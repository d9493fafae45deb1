import AccessBroker.Identity
import AccessBroker.Table

/-! # Normal forms settle at once

What lower case makes of a character is left alone by lower case, and a blank
stays one.  So a name in normal form is its own normal form, however it was
spelled: trimming and lower case find nothing left to do.
-/

namespace AccessBroker

namespace Text

/-! ## The table of lower cases -/

def blankRanges : List (Nat × Nat) := [
  (0x09, 0x0d), (0x20, 0x20), (0x85, 0x85), (0xa0, 0xa0), (0x1680, 0x1680), (0x2000, 0x200a),
  (0x2028, 0x2029), (0x202f, 0x202f), (0x205f, 0x205f), (0x3000, 0x3000)]

theorem isBlank_iff {c : Char} :
    isBlank c = true ↔ ∃ b ∈ blankRanges, b.1 ≤ c.toNat ∧ c.toNat ≤ b.2 := by
  simp only [isBlank, blankRanges, List.mem_cons, List.not_mem_nil, or_false, exists_eq_or_imp,
    exists_eq_left, Bool.or_eq_true, Bool.and_eq_true, decide_eq_true_eq, beq_iff_eq]
  omega

def isSolid (first last : Nat) : Bool :=
  blankRanges.all fun b => b.2 < first || last < b.1

theorem isBlank_of_isSolid {first last : Nat} {c : Char} (solid : isSolid first last = true)
    (lower : first ≤ c.toNat) (upper : c.toNat ≤ last) : isBlank c = false := by
  rw [Bool.eq_false_iff]
  intro blank
  obtain ⟨b, hb, above, below⟩ := isBlank_iff.1 blank
  have apart := List.all_eq_true.1 solid b hb
  simp only [Bool.or_eq_true, decide_eq_true_eq] at apart
  omega

namespace CaseRun

def targetLast (r : CaseRun) : Nat :=
  r.target + (r.last - r.first)

/-- The lower cases of a run are characters, none of them `İ` or a capital letter of ASCII, and
there is no blank on either side. -/
def isSound (r : CaseRun) : Bool :=
  isSolid r.first r.last && isSolid r.target r.targetLast &&
    (r.targetLast < 0xd800 || (0xdfff < r.target && r.targetLast < 0x110000)) &&
    (0x7f < r.target || (0x5a < r.target && r.targetLast < 0x80)) &&
    (r.targetLast < 0x130 || 0x130 < r.target)

def isSparedBy (r other : CaseRun) : Bool :=
  Nat.blt other.last r.target || Nat.blt r.targetLast other.first ||
    (other.step == 2 && (r.step == 2 || r.first == r.last) && (r.target + other.first) % 2 == 1)

end CaseRun

theorem isSound_lowerRuns : lowerRuns.all CaseRun.isSound = true := by
  decide +kernel

theorem isSparedBy_lowerRuns : (lowerRuns.all fun r => lowerRuns.all r.isSparedBy) = true := by
  decide +kernel

theorem CaseRun.not_covers_of_isSparedBy {r other : CaseRun} {n : Nat}
    (spared : r.isSparedBy other = true) (covered : r.covers n = true) :
    other.covers (r.target + (n - r.first)) = false := by
  rw [Bool.eq_false_iff]
  intro again
  simp only [covers, Bool.and_eq_true, decide_eq_true_eq, beq_iff_eq] at again
  simp only [covers, Bool.and_eq_true, decide_eq_true_eq, beq_iff_eq] at covered
  simp only [isSparedBy, targetLast, Bool.or_eq_true, Bool.and_eq_true, Nat.blt_eq,
    beq_iff_eq] at spared
  obtain ⟨⟨lower, upper⟩, step⟩ := covered
  obtain ⟨⟨lower', upper'⟩, step'⟩ := again
  rcases spared with (before | after) | ⟨⟨two, steps⟩, odd⟩
  · omega
  · omega
  · -- Both runs go by twos, one over even code points and the other over odd ones.
    rw [two] at step'
    rcases steps with two' | single
    · rw [two'] at step
      omega
    · omega

/-! ## Lower case of a character -/

/-- Lower case leaves the character alone wherever it stands. -/
structure Settled (c : Char) : Prop where
  fixed : lowerChar c = c
  ne_sigma : c ≠ capitalSigma
  ne_dotted : c ≠ 'İ'

theorem isUpper_iff {c : Char} : c.isUpper = true ↔ 0x41 ≤ c.toNat ∧ c.toNat ≤ 0x5a := by
  change decide ('A'.val ≤ c.val ∧ c.val ≤ 'Z'.val) = true ↔ _
  rw [decide_eq_true_iff, UInt32.le_iff_toNat_le, UInt32.le_iff_toNat_le]
  rfl

theorem lowerChar_of_ascii {c : Char} (ascii : c.toNat < 0x80) :
    lowerChar c = if c.isUpper then Char.ofNat (c.toNat + 0x20) else c := by
  rw [lowerChar, if_pos ascii]

theorem settled_ascii : ∀ n < 0x80,
    lowerChar (lowerChar (Char.ofNat n)) = lowerChar (Char.ofNat n) ∧
      (lowerChar (Char.ofNat n)).toNat < 0x80 ∧
      isBlank (lowerChar (Char.ofNat n)) = isBlank (Char.ofNat n) := by
  decide +kernel

/-- A character beyond ASCII that no run lowers is its own lower case. -/
theorem lowerChar_of_not_covered {c : Char} (h : 0x80 ≤ c.toNat)
    (free : ∀ r ∈ lowerRuns, r.covers c.toNat = false) : lowerChar c = c := by
  have none : lowerRuns.find? (·.covers c.toNat) = none := by
    rw [List.find?_eq_none]
    intro r hr
    rw [free r hr]
    exact Bool.false_ne_true
  rw [lowerChar, if_neg (by omega), none]

theorem not_covers_lowered {r : CaseRun} (hr : r ∈ lowerRuns) {n : Nat}
    (covered : r.covers n = true) :
    ∀ other ∈ lowerRuns, other.covers (r.target + (n - r.first)) = false := by
  intro other ho
  have spared := List.all_eq_true.1 (List.all_eq_true.1 isSparedBy_lowerRuns r hr) other ho
  exact CaseRun.not_covers_of_isSparedBy spared covered

/-- A run lowers sigma, so a character that no run lowers is another one. -/
theorem ne_sigma_of_not_covers {c : Char} (free : ∀ r ∈ lowerRuns, r.covers c.toNat = false) :
    c ≠ capitalSigma := by
  rintro rfl
  have covered : lowerRuns.any (·.covers capitalSigma.toNat) = true := by decide +kernel
  obtain ⟨r, hr, covers⟩ := List.any_eq_true.1 covered
  rw [free r hr] at covers
  cases covers

theorem toNat_ofNat {n : Nat} (valid : n.isValidChar) : (Char.ofNat n).toNat = n := by
  rw [Char.ofNat, dif_pos valid]
  rfl

theorem settled_of_covered {c : Char} {r : CaseRun} (hr : r ∈ lowerRuns)
    (covered : r.covers c.toNat = true) :
    Settled (Char.ofNat (r.target + (c.toNat - r.first))) ∧
      isBlank (Char.ofNat (r.target + (c.toNat - r.first))) = isBlank c := by
  have sound := List.all_eq_true.1 isSound_lowerRuns r hr
  have free := not_covers_lowered hr covered
  simp only [CaseRun.isSound, Bool.and_eq_true, Bool.or_eq_true, decide_eq_true_eq] at sound
  simp only [CaseRun.covers, Bool.and_eq_true, decide_eq_true_eq] at covered
  obtain ⟨⟨⟨⟨solid, solidTarget⟩, valid⟩, capital⟩, dotted⟩ := sound
  simp only [CaseRun.targetLast] at solidTarget valid capital dotted
  have value : (Char.ofNat (r.target + (c.toNat - r.first))).toNat =
      r.target + (c.toNat - r.first) := by
    apply toNat_ofNat
    simp only [Nat.isValidChar]
    omega
  rw [← value] at free
  generalize Char.ofNat (r.target + (c.toNat - r.first)) = lowered at value free
  have blank : isBlank c = false := isBlank_of_isSolid solid covered.1.1 covered.1.2
  have blank' : isBlank lowered = false :=
    isBlank_of_isSolid solidTarget (by omega) (by omega)
  refine ⟨⟨?_, ne_sigma_of_not_covers free, ?_⟩, by rw [blank, blank']⟩
  · by_cases ascii : lowered.toNat < 0x80
    · rw [lowerChar_of_ascii ascii, if_neg]
      rw [isUpper_iff]
      omega
    · exact lowerChar_of_not_covered (by omega) free
  · rintro rfl
    have : 'İ'.toNat = 0x130 := rfl
    omega

theorem settled_lowerChar {c : Char} (h : c ≠ 'İ') :
    Settled (lowerChar c) ∧ isBlank (lowerChar c) = isBlank c := by
  by_cases ascii : c.toNat < 0x80
  · have small := settled_ascii c.toNat ascii
    rw [Char.ofNat_toNat] at small
    obtain ⟨fixed, below, blank⟩ := small
    refine ⟨⟨fixed, ?_, ?_⟩, blank⟩
    · intro eq
      rw [eq] at below
      exact absurd below (by decide)
    · intro eq
      rw [eq] at below
      exact absurd below (by decide)
  · cases found : lowerRuns.find? (·.covers c.toNat) with
    | none =>
      have free : ∀ r ∈ lowerRuns, r.covers c.toNat = false := by
        intro r hr
        have := List.find?_eq_none.1 found r hr
        exact Bool.eq_false_iff.2 this
      have fixed := lowerChar_of_not_covered (by omega) free
      rw [fixed]
      exact ⟨⟨fixed, ne_sigma_of_not_covers free, h⟩, rfl⟩
    | some r =>
      have lowered : lowerChar c = Char.ofNat (r.target + (c.toNat - r.first)) := by
        rw [lowerChar, if_neg ascii, found]
      rw [lowered]
      have covered : r.covers c.toNat = true := by simpa using List.find?_some found
      exact settled_of_covered (List.mem_of_find?_eq_some found) covered

/-! ## Lower case of a text -/

def MeetsLetter (cs : List Char) : Prop :=
  ∃ ignored letter rest, cs = ignored ++ letter :: rest ∧
    (∀ x ∈ ignored, isCaseIgnorable x = true) ∧ isCaseIgnorable letter = false ∧
    isCased letter = true

theorem startsCased_iff {cs : List Char} : startsCased cs = true ↔ MeetsLetter cs := by
  constructor
  · intro starts
    unfold startsCased at starts
    cases kept : cs.dropWhile isCaseIgnorable with
    | nil =>
      rw [kept] at starts
      cases starts
    | cons letter rest =>
      rw [kept] at starts
      have counts := List.head?_dropWhile_not isCaseIgnorable cs
      rw [kept] at counts
      refine ⟨cs.takeWhile isCaseIgnorable, letter, rest, ?_, ?_, counts, starts⟩
      · rw [← kept, List.takeWhile_append_dropWhile]
      · exact List.all_eq_true.1 List.all_takeWhile
  · rintro ⟨ignored, letter, rest, rfl, passed, counts, cased⟩
    rw [startsCased, List.dropWhile_append_of_pos passed, List.dropWhile_cons, counts]
    exact cased

/-- What a character comes to between the characters before it, nearest first, and those after it.
A sigma is final when it ends a word. -/
inductive Lowers (before after : List Char) (c : Char) : List Char → Prop where
  | finalSigma (sigma : c = capitalSigma) (inWord : MeetsLetter before)
      (last : ¬ MeetsLetter after) : Lowers before after c ['ς']
  | sigma (sigma : c = capitalSigma) (inner : MeetsLetter before → MeetsLetter after) :
      Lowers before after c ['σ']
  | dotted (dotted : c = 'İ') : Lowers before after c ['i', '\u0307']
  | single (ne_sigma : c ≠ capitalSigma) (ne_dotted : c ≠ 'İ') : Lowers before after c [lowerChar c]

theorem lowers_lowerSigma (before after : List Char) :
    Lowers before after capitalSigma [lowerSigma before after] := by
  unfold lowerSigma
  by_cases final : (startsCased before && !startsCased after) = true
  · rw [if_pos final]
    rw [Bool.and_eq_true, Bool.not_eq_true', ← Bool.not_eq_true, startsCased_iff,
      startsCased_iff] at final
    exact .finalSigma rfl final.1 final.2
  · rw [if_neg final]
    rw [Bool.and_eq_true, Bool.not_eq_true', ← Bool.not_eq_true, startsCased_iff,
      startsCased_iff] at final
    exact .sigma rfl fun inWord => Classical.not_not.1 fun last => final ⟨inWord, last⟩

/-- Each character comes to a part of its own. -/
theorem lowerFrom_cons (before : List Char) (c : Char) (rest : List Char) :
    ∃ part, Lowers before rest c part ∧
      lowerFrom before (c :: rest) = part ++ lowerFrom (c :: before) rest := by
  by_cases sigma : c = capitalSigma
  · subst sigma
    exact ⟨_, lowers_lowerSigma before rest, by simp [lowerFrom]⟩
  by_cases dotted : c = 'İ'
  · exact ⟨_, .dotted dotted, by simp [lowerFrom, dotted, capitalSigma]⟩
  · exact ⟨_, .single sigma dotted, by simp [lowerFrom, sigma, dotted]⟩

section

variable {before after part cs : List Char} {c x : Char}

/-- What a character comes to is settled, and blank if it is. -/
theorem Lowers.settled (lowers : Lowers before after c part) (hx : x ∈ part) :
    Settled x ∧ isBlank x = isBlank c := by
  cases lowers with
  | finalSigma sigma =>
    rw [List.mem_singleton.1 hx, sigma]
    exact ⟨⟨by decide +kernel, by decide, by decide⟩, by decide⟩
  | sigma sigma =>
    rw [List.mem_singleton.1 hx, sigma]
    exact ⟨⟨by decide +kernel, by decide, by decide⟩, by decide⟩
  | dotted dotted =>
    rw [dotted]
    simp only [List.mem_cons, List.not_mem_nil, or_false] at hx
    rcases hx with rfl | rfl
    · exact ⟨⟨by decide +kernel, by decide, by decide⟩, by decide⟩
    · exact ⟨⟨by decide +kernel, by decide, by decide⟩, by decide⟩
  | single _ ne_dotted =>
    rw [List.mem_singleton.1 hx]
    exact settled_lowerChar ne_dotted

theorem Lowers.ne_nil (lowers : Lowers before after c part) : part ≠ [] := by
  cases lowers <;> exact List.cons_ne_nil _ _

theorem settled_of_mem_lowerFrom (hx : x ∈ lowerFrom before cs) : Settled x := by
  induction cs generalizing before with
  | nil => cases hx
  | cons c rest ih =>
    obtain ⟨part, lowers, parts⟩ := lowerFrom_cons before c rest
    rw [parts, List.mem_append] at hx
    rcases hx with hx | hx
    · exact (lowers.settled hx).1
    · exact ih hx

theorem lowerFrom_of_settled (settled : ∀ x ∈ cs, Settled x) : lowerFrom before cs = cs := by
  induction cs generalizing before with
  | nil => rfl
  | cons c rest ih =>
    have head := settled c List.mem_cons_self
    have tail : lowerFrom (c :: before) rest = rest :=
      ih fun x hx => settled x (List.mem_cons_of_mem c hx)
    simp only [lowerFrom, if_neg head.ne_sigma, if_neg head.ne_dotted, head.fixed, tail]

theorem lowerFrom_eq_nil_iff : lowerFrom before cs = [] ↔ cs = [] := by
  cases cs with
  | nil => exact Iff.rfl
  | cons c rest =>
    obtain ⟨part, lowers, parts⟩ := lowerFrom_cons before c rest
    simp [parts, lowers.ne_nil]

theorem isBlank_head_lowerFrom (hx : (lowerFrom before cs).head? = some x) :
    ∃ c, cs.head? = some c ∧ isBlank x = isBlank c := by
  cases cs with
  | nil => cases hx
  | cons c rest =>
    obtain ⟨part, lowers, parts⟩ := lowerFrom_cons before c rest
    obtain ⟨first, others, rfl⟩ := List.exists_cons_of_ne_nil lowers.ne_nil
    obtain rfl : first = x := by simpa [parts] using hx
    exact ⟨c, rfl, (lowers.settled List.mem_cons_self).2⟩

theorem isBlank_last_lowerFrom (hx : (lowerFrom before cs).getLast? = some x) :
    ∃ c, cs.getLast? = some c ∧ isBlank x = isBlank c := by
  induction cs generalizing before with
  | nil => cases hx
  | cons c rest ih =>
    obtain ⟨part, lowers, parts⟩ := lowerFrom_cons before c rest
    rw [parts, List.getLast?_append] at hx
    cases last : (lowerFrom (c :: before) rest).getLast? with
    | some y =>
      rw [last, Option.some_or, Option.some.injEq] at hx
      subst hx
      obtain ⟨d, hd, same⟩ := ih last
      refine ⟨d, ?_, same⟩
      rw [List.getLast?_cons, hd, Option.getD_some]
    | none =>
      rw [last, Option.none_or] at hx
      have alone : rest = [] := lowerFrom_eq_nil_iff.1 (List.getLast?_eq_none_iff.1 last)
      subst alone
      exact ⟨c, rfl, (lowers.settled (List.mem_of_getLast? hx)).2⟩

end

theorem lower_lower (s : String) : lower (lower s) = lower s := by
  have settled : ∀ x ∈ (lower s).toList, Settled x := by
    intro x hx
    rw [lower, String.toList_ofList] at hx
    exact settled_of_mem_lowerFrom hx
  rw [lower, lowerFrom_of_settled settled, String.ofList_toList]

/-! ## Trimming -/

theorem dropBlanks_eq_self_iff {cs : List Char} :
    dropBlanks cs = cs ↔ ∀ c, cs.head? = some c → isBlank c = false := by
  constructor
  · intro whole c head
    have first := List.head?_dropWhile_not isBlank cs
    rw [show cs.dropWhile isBlank = cs from whole, head] at first
    exact first
  · intro solid
    cases cs with
    | nil => rfl
    | cons c rest =>
      have head := solid c rfl
      rw [dropBlanks, List.dropWhile_cons, head]
      rfl

structure SolidEnds (cs : List Char) : Prop where
  first : ∀ c, cs.head? = some c → isBlank c = false
  last : ∀ c, cs.getLast? = some c → isBlank c = false

theorem solidEnds_iff {cs : List Char} :
    SolidEnds cs ↔ dropBlanks cs = cs ∧ dropBlanks cs.reverse = cs.reverse := by
  rw [dropBlanks_eq_self_iff, dropBlanks_eq_self_iff, List.head?_reverse]
  exact ⟨fun solid => ⟨solid.first, solid.last⟩, fun solid => ⟨solid.1, solid.2⟩⟩

/-- A list is left by trimming if it has no blank at either end. -/
theorem trimChars_eq_self_iff {cs : List Char} : trimChars cs = cs ↔ SolidEnds cs := by
  rw [solidEnds_iff]
  constructor
  · intro whole
    have shorter : cs.length ≤ (dropBlanks cs).length := by
      have inner := length_dropBlanks_le (dropBlanks cs).reverse
      rw [List.length_reverse] at inner
      calc cs.length = (trimChars cs).length := by rw [whole]
        _ = (dropBlanks (dropBlanks cs).reverse).length := List.length_reverse
        _ ≤ (dropBlanks cs).length := inner
    have front : dropBlanks cs = cs := (List.dropWhile_sublist isBlank).eq_of_length_le shorter
    refine ⟨front, ?_⟩
    have back : (dropBlanks cs.reverse).reverse = cs := by
      rw [trimChars, front] at whole
      exact whole
    exact List.reverse_eq_iff.1 back
  · rintro ⟨front, back⟩
    rw [trimChars, front, back, List.reverse_reverse]

theorem trimChars_lowerFrom {before cs : List Char} (trimmed : trimChars cs = cs) :
    trimChars (lowerFrom before cs) = lowerFrom before cs := by
  obtain ⟨front, back⟩ := trimChars_eq_self_iff.1 trimmed
  refine trimChars_eq_self_iff.2 ⟨?_, ?_⟩
  · intro x hx
    obtain ⟨c, head, same⟩ := isBlank_head_lowerFrom hx
    rw [same, front c head]
  · intro x hx
    obtain ⟨c, last, same⟩ := isBlank_last_lowerFrom hx
    rw [same, back c last]

theorem dropBlanks_eq_nil_iff {cs : List Char} :
    dropBlanks cs = [] ↔ ∀ c ∈ cs, isBlank c = true := by
  induction cs with
  | nil => simp [dropBlanks]
  | cons c rest ih =>
    rw [dropBlanks] at ih ⊢
    by_cases blank : isBlank c = true <;> simp [blank, ih]

theorem trimChars_eq_nil_iff {cs : List Char} :
    trimChars cs = [] ↔ ∀ c ∈ cs, isBlank c = true := by
  rw [trimChars, List.reverse_eq_nil_iff, dropBlanks_eq_nil_iff, ← @dropBlanks_eq_nil_iff cs]
  constructor
  · intro blank
    cases rest : dropBlanks cs with
    | nil => rfl
    | cons c others =>
      have solid := List.head?_dropWhile_not isBlank cs
      rw [show cs.dropWhile isBlank = c :: others from rest] at solid
      have solid : isBlank c = false := solid
      rw [blank c (by simp [rest])] at solid
      cases solid
  · intro nothing c hc
    rw [nothing] at hc
    cases hc

theorem trim_eq_empty_iff {s : String} : trim s = "" ↔ isAllBlank s = true := by
  rw [← String.toList_inj, toList_trim, String.toList_empty, trimChars_eq_nil_iff, isAllBlank,
    List.all_eq_true]

/-! ## Names in normal form -/

theorem trim_normalize (s : String) : trim (normalize s) = normalize s := by
  have trimmed : trimChars (trim s).toList = (trim s).toList := by
    rw [toList_trim, trimChars_trimChars]
  rw [trim, normalize, lower, String.toList_ofList, trimChars_lowerFrom trimmed]

theorem lower_normalize (s : String) : lower (normalize s) = normalize s :=
  lower_lower (trim s)

theorem normalize_normalize (s : String) : normalize (normalize s) = normalize s := by
  rw [normalize, trim_normalize, lower_normalize]

theorem lower_eq_empty_iff {s : String} : lower s = "" ↔ s = "" := by
  rw [← String.toList_inj, lower, String.toList_ofList, String.toList_empty, lowerFrom_eq_nil_iff,
    ← String.toList_empty, String.toList_inj]

/-- Only a blank text has an empty normal form. -/
theorem normalize_eq_empty_iff {s : String} : normalize s = "" ↔ isAllBlank s = true := by
  rw [normalize, lower_eq_empty_iff, trim_eq_empty_iff]

theorem isAllBlank_eq_false_iff {s : String} : isAllBlank s = false ↔ normalize s ≠ "" := by
  rw [ne_eq, normalize_eq_empty_iff, Bool.not_eq_true]

theorem isAllBlank_normalize (s : String) : isAllBlank (normalize s) = isAllBlank s := by
  rw [Bool.eq_iff_iff, ← normalize_eq_empty_iff, normalize_normalize, normalize_eq_empty_iff]

end Text

/-! ## Identities -/

/-- Two sets with the same names are the same. -/
theorem NameSet.ext_mem {s t : NameSet} (same : ∀ name, name ∈ s ↔ name ∈ t) : s = t := by
  have names : s.toList = t.toList :=
    Table.eq_of_ascending (f := id) (by simpa using s.ascending) (by simpa using t.ascending) same
  cases s
  cases t
  cases names
  rfl

theorem NameSet.mem_ofNames {names : List String} {x : String} :
    x ∈ ofNames names ↔ ∃ name ∈ names, Text.isAllBlank name = false ∧ Text.normalize name = x := by
  simp only [ofNames, mem_ofList, List.mem_filter, List.mem_map, decide_eq_true_eq,
    Text.isAllBlank_eq_false_iff]
  constructor
  · rintro ⟨⟨name, listed, rfl⟩, named⟩
    exact ⟨name, listed, named, rfl⟩
  · rintro ⟨name, listed, named, rfl⟩
    exact ⟨⟨name, listed, rfl⟩, named⟩

/-- The set of the normal forms of some names is made again from its own members. -/
theorem NameSet.ofNames_toList_ofNames (names : List String) :
    ofNames (ofNames names).toList = ofNames names := by
  apply ext_mem
  intro x
  rw [mem_ofNames]
  constructor
  · rintro ⟨name, listed, _, rfl⟩
    obtain ⟨given, _, _, rfl⟩ := mem_ofNames.1 listed
    rw [Text.normalize_normalize]
    exact listed
  · intro member
    obtain ⟨given, _, solid, rfl⟩ := mem_ofNames.1 member
    exact ⟨_, member, (Text.isAllBlank_normalize given).trans solid, Text.normalize_normalize given⟩

namespace Identity

structure Extends (wider who : Identity) : Prop where
  user : wider.user = who.user
  groups : ∀ group ∈ who.groups, group ∈ wider.groups

variable {who wider : Identity} {name : String}

theorem isNamed_iff :
    who.isNamed name = true ↔
      who.user = Text.normalize name ∨ Text.normalize name ∈ who.groups := by
  simp [isNamed, NameSet.contains_iff]

theorem isNamed_normalize : who.isNamed (Text.normalize name) = who.isNamed name := by
  rw [isNamed, isNamed, Text.normalize_normalize]

theorem Extends.isNamed (more : wider.Extends who) (h : who.isNamed name = true) :
    wider.isNamed name = true := by
  rw [isNamed_iff] at h ⊢
  rw [more.user]
  exact h.imp_right (more.groups _)

/-- Whether an identity is in a set of names does not depend on how they were spelled. -/
theorem isAmong_ofNames {names : List String} :
    who.isAmong (NameSet.ofNames names).toList = true ↔
      ∃ name ∈ names, Text.isAllBlank name = false ∧ who.isNamed name = true := by
  rw [isAmong, List.any_eq_true]
  constructor
  · rintro ⟨x, hx, named⟩
    obtain ⟨name, listed, solid, rfl⟩ := NameSet.mem_ofNames.1 hx
    rw [isNamed_normalize] at named
    exact ⟨name, listed, solid, named⟩
  · rintro ⟨name, listed, solid, named⟩
    have member : Text.normalize name ∈ NameSet.ofNames names :=
      NameSet.mem_ofNames.2 ⟨name, listed, solid, rfl⟩
    exact ⟨Text.normalize name, member, isNamed_normalize.trans named⟩

end Identity

end AccessBroker
