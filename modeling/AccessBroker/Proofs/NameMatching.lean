import AccessBroker.Proofs.NormalForms

/-! # Names match by their normal forms

A text has one normal form: what is left of it without the blanks at its two
ends, each character in lower case at its place among the others.  A normal form
is its own.  So it makes no difference whether an identity is made of names or
of their normal forms, nor how a name is spelled that is presented to it.
-/

namespace AccessBroker

namespace Text

/-! ## What trimming leaves -/

/-- The core is what stands between the blanks at the two ends. -/
structure Trims (cs core : List Char) : Prop where
  margins : ∃ front back, cs = front ++ core ++ back ∧
    (∀ c ∈ front, isBlank c = true) ∧ ∀ c ∈ back, isBlank c = true
  solid : SolidEnds core

section

variable {cs core front rest : List Char}

theorem dropBlanks_append (blank : ∀ c ∈ front, isBlank c = true)
    (solid : ∀ c, rest.head? = some c → isBlank c = false) :
    dropBlanks (front ++ rest) = rest := by
  rw [dropBlanks, List.dropWhile_append_of_pos blank]
  exact dropBlanks_eq_self_iff.2 solid

theorem trims_trimChars (cs : List Char) : Trims cs (trimChars cs) where
  margins := by
    refine ⟨cs.takeWhile isBlank, ((dropBlanks cs).reverse.takeWhile isBlank).reverse, ?_,
      List.all_eq_true.1 List.all_takeWhile, fun c hc => ?_⟩
    · have inner : trimChars cs ++ ((dropBlanks cs).reverse.takeWhile isBlank).reverse =
          dropBlanks cs := by
        rw [trimChars, ← List.reverse_append]
        unfold dropBlanks
        rw [List.takeWhile_append_dropWhile, List.reverse_reverse]
      rw [List.append_assoc, inner, dropBlanks, List.takeWhile_append_dropWhile]
    · exact List.all_eq_true.1 List.all_takeWhile c (List.mem_reverse.1 hc)
  solid := trimChars_eq_self_iff.1 (trimChars_trimChars cs)

theorem Trims.trimChars_eq (trims : Trims cs core) : trimChars cs = core := by
  obtain ⟨⟨front, back, rfl, blankFront, blankBack⟩, solid⟩ := trims
  cases core with
  | nil =>
    rw [trimChars_eq_nil_iff, List.append_nil, List.forall_mem_append]
    exact ⟨blankFront, blankBack⟩
  | cons c core =>
    have right : dropBlanks (front ++ c :: core ++ back) = c :: core ++ back := by
      rw [List.append_assoc]
      exact dropBlanks_append blankFront solid.first
    have left : dropBlanks (c :: core ++ back).reverse = (c :: core).reverse := by
      rw [List.reverse_append]
      apply dropBlanks_append
      · intro x hx
        exact blankBack x (List.mem_reverse.1 hx)
      · rw [List.head?_reverse]
        exact solid.last
    rw [trimChars, right, left, List.reverse_reverse]

end

/-! ## What lower case makes of a text -/

theorem Lowers.unique {before after part part' : List Char} {c : Char}
    (lowers : Lowers before after c part) (lowers' : Lowers before after c part') :
    part = part' := by
  cases lowers <;> cases lowers' <;> grind [capitalSigma]

/-- Every character of `cs`, which stands after the characters `before` (nearest first), comes to a
part of its own. -/
structure LowersEach (before cs : List Char) (parts : List (List Char)) : Prop where
  length_eq : parts.length = cs.length
  lowers : ∀ front c after, cs = front ++ c :: after →
    ∃ part, parts[front.length]? = some part ∧ Lowers (front.reverse ++ before) after c part

section

variable {before cs : List Char} {parts parts' : List (List Char)}

theorem LowersEach.unique (each : LowersEach before cs parts)
    (each' : LowersEach before cs parts') : parts = parts' := by
  apply List.ext_getElem?
  intro i
  by_cases inside : i < cs.length
  · have place : cs = cs.take i ++ cs[i] :: cs.drop (i + 1) := by
      rw [← List.drop_eq_getElem_cons inside, List.take_append_drop]
    have reached : (cs.take i).length = i := List.length_take_of_le (Nat.le_of_lt inside)
    obtain ⟨part, here, lowers⟩ := each.lowers _ _ _ place
    obtain ⟨part', here', lowers'⟩ := each'.lowers _ _ _ place
    rw [reached] at here here'
    rw [here, here', lowers.unique lowers']
  · have beyond : cs.length ≤ i := Nat.le_of_not_lt inside
    rw [List.getElem?_eq_none (each.length_eq ▸ beyond),
      List.getElem?_eq_none (each'.length_eq ▸ beyond)]

theorem exists_lowersEach (before cs : List Char) :
    ∃ parts, LowersEach before cs parts ∧ parts.flatten = lowerFrom before cs := by
  induction cs generalizing before with
  | nil => exact ⟨[], ⟨rfl, by simp⟩, rfl⟩
  | cons c rest ih =>
    obtain ⟨part, lowers, whole⟩ := lowerFrom_cons before c rest
    obtain ⟨parts, each, joined⟩ := ih (c :: before)
    refine ⟨part :: parts, ⟨?_, ?_⟩, ?_⟩
    · rw [List.length_cons, List.length_cons, each.length_eq]
    · intro front d after place
      cases front with
      | nil =>
        obtain ⟨rfl, rfl⟩ := List.cons.inj place
        exact ⟨part, rfl, lowers⟩
      | cons first front =>
        obtain ⟨rfl, others⟩ := List.cons.inj place
        obtain ⟨part', here, lowers'⟩ := each.lowers front d after others
        refine ⟨part', here, ?_⟩
        rw [List.reverse_cons, List.append_assoc]
        exact lowers'
    · rw [List.flatten_cons, joined, whole]

end

/-! ## The normal form of a text -/

def IsNormalForm (s t : String) : Prop :=
  ∃ core parts, Trims s.toList core ∧ LowersEach [] core parts ∧ t.toList = parts.flatten

theorem normalize_eq_iff {s t : String} : normalize s = t ↔ IsNormalForm s t := by
  constructor
  · rintro rfl
    obtain ⟨parts, each, joined⟩ := exists_lowersEach [] (trimChars s.toList)
    refine ⟨_, parts, trims_trimChars s.toList, each, ?_⟩
    rw [joined, normalize, lower, String.toList_ofList, toList_trim]
  · rintro ⟨core, parts, trims, each, whole⟩
    obtain ⟨parts', each', joined⟩ := exists_lowersEach [] core
    rw [← String.toList_inj, normalize, lower, String.toList_ofList, toList_trim,
      trims.trimChars_eq, ← joined, whole, each.unique each']

theorem solidEnds_normalize (s : String) : SolidEnds (normalize s).toList := by
  rw [← trimChars_eq_self_iff, ← toList_trim, trim_normalize]

end Text

/-! ## The names of an identity -/

namespace Identity

variable {user name : String} {groups : List String}

/-- An identity is made again from its own names. -/
theorem of_user_groups (user : String) (groups : List String) :
    of (of user groups).user (of user groups).groups.toList = of user groups := by
  simp only [of, Text.normalize_normalize, NameSet.ofNames_toList_ofNames]

theorem isNamed_of_iff :
    (of user groups).isNamed name = true ↔
      Text.normalize name = Text.normalize user ∨
        Text.normalize name ≠ "" ∧ ∃ group ∈ groups, Text.normalize name = Text.normalize group := by
  rw [isNamed_iff, of, NameSet.mem_ofNames]
  refine or_congr eq_comm ⟨?_, ?_⟩
  · rintro ⟨group, listed, solid, same⟩
    rw [← same]
    exact ⟨Text.isAllBlank_eq_false_iff.1 solid, group, listed, rfl⟩
  · rintro ⟨named, group, listed, same⟩
    rw [same] at named
    exact ⟨group, listed, Text.isAllBlank_eq_false_iff.2 named, same.symm⟩

theorem isAmong_map_normalize (who : Identity) (names : List String) :
    who.isAmong (names.map Text.normalize) = who.isAmong names := by
  have same : who.isNamed ∘ Text.normalize = who.isNamed := by
    funext name
    rw [Function.comp_apply, isNamed_normalize]
  rw [isAmong, List.any_map, same, isAmong]

/-- Every text has one normal form, which starts and ends with no blank and is its own.  So an
identity is made again from its own names, and a name in any spelling is one of its names exactly
if it has the normal form of the user or, not being blank, that of a group. -/
theorem matches_by_normal_form :
    (∀ s, (∀ t, Text.normalize s = t ↔ Text.IsNormalForm s t) ∧
      Text.normalize (Text.normalize s) = Text.normalize s ∧
      Text.SolidEnds (Text.normalize s).toList) ∧
    ∀ user groups,
      of (of user groups).user (of user groups).groups.toList = of user groups ∧
      (∀ name, (of user groups).isNamed name = (of user groups).isNamed (Text.normalize name) ∧
        ((of user groups).isNamed name = true ↔
          Text.normalize name = Text.normalize user ∨
            Text.normalize name ≠ "" ∧
              ∃ group ∈ groups, Text.normalize name = Text.normalize group)) ∧
      ∀ names, (of user groups).isAmong names =
        (of user groups).isAmong (names.map Text.normalize) := by
  refine ⟨fun s => ⟨fun t => Text.normalize_eq_iff, Text.normalize_normalize s,
    Text.solidEnds_normalize s⟩, fun user groups => ⟨of_user_groups user groups,
    fun name => ⟨isNamed_normalize.symm, isNamed_of_iff⟩,
    fun names => (isAmong_map_normalize _ names).symm⟩⟩

/-- A final sigma, a capital letter that comes to two characters, and a group without a name. -/
example :
    let who := of " ΟΔΥΣΣΕΥΣ\u00a0" ["İSTANBUL", " \t"]
    who.isNamed "οδυσσευς" = true ∧ who.isNamed "i\u0307stanbul " = true ∧
      who.isNamed "istanbul" = false ∧ who.isNamed "" = false := by
  decide +kernel

end Identity

end AccessBroker
