import AccessBroker.Proofs.NormalForms
import AccessBroker.Proofs.RestrictedGroups

/-! # Laying down the attributes of a group

The names that are given are stored in normal form, in order and each once, and
the group is found under the normal form of its own name.  Both forms settle at
once, so laying down again what was stored finds nothing left to change, and
nobody is an approver by the stored names who was not one by the given names.
-/

namespace AccessBroker

open World (Alike)

/-! ## Names in order -/

/-- What is stored of some names that were given. -/
structure Tidied (given stored : List String) : Prop where
  /-- They are in order, and no name is there twice. -/
  ascending : stored.Pairwise (· < ·)
  trimmed : ∀ x ∈ stored, Text.trim x = x
  lowercase : ∀ x ∈ stored, Text.lower x = x
  normalForms : ∀ x, x ∈ stored ↔
    ∃ name ∈ given, Text.isAllBlank name = false ∧ Text.lower (Text.trim name) = x
  sameAnswers : ∀ who : Identity,
    who.isAmong stored = who.isAmong (given.filter fun name => !Text.isAllBlank name)

theorem tidied_ofNames (given : List String) : Tidied given (NameSet.ofNames given).toList where
  ascending := (NameSet.ofNames given).ascending
  trimmed x member := by
    obtain ⟨name, _, _, rfl⟩ := NameSet.mem_ofNames.1 member
    exact Text.trim_normalize name
  lowercase x member := by
    obtain ⟨name, _, _, rfl⟩ := NameSet.mem_ofNames.1 member
    exact Text.lower_normalize name
  normalForms _ := NameSet.mem_ofNames
  sameAnswers who := by
    rw [Bool.eq_iff_iff, Identity.isAmong_ofNames, Identity.isAmong, List.any_eq_true]
    simp only [List.mem_filter, Bool.not_eq_true', and_assoc]

/-! ## The directory -/

namespace Directory

variable {d : Directory} {name other : String} {a : GroupAttributes}

theorem group?_putAttributes (d : Directory) (name : String) (a : GroupAttributes)
    (other : String) :
    (d.putAttributes name a).group? other =
      if Text.normalize other = Text.normalize name then some ⟨a, d.members name⟩
      else d.group? other :=
  Table.get?_insert ..

theorem attributes?_putAttributes (same : Text.normalize other = Text.normalize name) :
    (d.putAttributes name a).attributes? other = some a := by
  rw [attributes?, group?_putAttributes, if_pos same]
  rfl

/-- Attributes are laid down for one group only, whatever the spelling of its name. -/
theorem attributes?_putAttributes_of_ne (apart : Text.normalize other ≠ Text.normalize name) :
    (d.putAttributes name a).attributes? other = d.attributes? other := by
  rw [attributes?, group?_putAttributes, if_neg apart]
  rfl

/-- The same attributes under another spelling of the name change nothing. -/
theorem putAttributes_again (same : Text.normalize other = Text.normalize name) :
    (d.putAttributes name a).putAttributes other a = d.putAttributes name a := by
  have groups : ((d.putAttributes name a).putAttributes other a).groups =
      (d.putAttributes name a).groups := by
    apply Table.eq_of_get?
    intro key
    have members : (d.putAttributes name a).members other = d.members name := by
      rw [members_putAttributes, members, members, group?_congr same]
    simp only [putAttributes, Table.get?_insert, same] at members ⊢
    by_cases here : key = Text.normalize name
    · rw [if_pos here, if_pos here, members]
    · rw [if_neg here, if_neg here]
  exact congrArg Directory.mk groups

end Directory

/-! ## One update -/

namespace Service

variable {setup : Setup} {w left : World} {who : Identity} {name : String} {a : GroupAttributes}

theorem tidyAttributes_tidyAttributes (a : GroupAttributes) :
    tidyAttributes (tidyAttributes a) = tidyAttributes a := by
  simp only [tidyAttributes, NameSet.ofNames_toList_ofNames]

theorem trim_eq_empty_iff_of_same {other : String}
    (same : Text.normalize other = Text.normalize name) :
    Text.trim other = "" ↔ Text.trim name = "" := by
  rw [Text.trim_eq_empty_iff, ← Text.normalize_eq_empty_iff, same, Text.normalize_eq_empty_iff,
    Text.trim_eq_empty_iff]

theorem Updated.eq_ok {outcome : Except Error GroupAttributes × World}
    {group : String} (updated : Updated setup w who group a outcome) (answers : AttributesAnswer w)
    (may : MayEdit setup w who group) :
    ∃ left, outcome = (.ok (tidyAttributes a), left) ∧ Alike { w with
      directory := w.directory.putAttributes group (tidyAttributes a) } left := by
  cases updated with
  | laid _ alike => exact ⟨_, rfl, alike⟩
  | refused mayNot => exact absurd may (mayNot answers)

theorem perform_groupAttributes (setup : Setup) (answers : AttributesAnswer w)
    (here : w.directory.attributes? name = some a) :
    ∃ left, (groupAttributes name).perform setup w = (.ok a, left) := by
  have ends : Ends setup w (groupAttributes name) (fun result _ => result = a)
      fun _ _ => False := by
    simp only [groupAttributes, ends_bind]
    refine ends_groupAttributes? (fun left _ => ?_) fun e left fails _ =>
      answers.read.not_fail fails
    rw [here]
    rfl
  obtain ⟨_, left, run, rfl⟩ := ends.ok
  exact ⟨left, run⟩

/-- Whoever hands in again what was stored changes nothing. -/
theorem Updated.alike_of_stored {group : String} {outcome : Except Error GroupAttributes × World}
    (updated : Updated setup w who group a outcome)
    (stored : w.directory.putAttributes group (tidyAttributes a) = w.directory) :
    Alike w outcome.2 := by
  cases updated with
  | laid _ alike =>
    rw [stored] at alike
    exact alike
  | refused _ alike => exact alike

/-- The attributes of a group are laid down exactly if it has a name and the caller may edit
attributes; otherwise nothing is changed.  The answer is what is found from then on under every
spelling of the name: the names given, tidied.  Who hands the answer in again gets it again, and
nobody changes anything so.  No group gets other members, and no other group gets other
attributes. -/
theorem updateGroup_lays_down (setup : Setup) (who : Identity) (name : String)
    (given : GroupAttributes) (answers : AttributesAnswer w) :
    ((∃ result left, (updateGroup who name given).perform setup w = (.ok result, left)) ↔
      Text.trim name ≠ "" ∧ (listsIn setup w).permits who .editAttributes false = true) ∧
    (∀ e left, (updateGroup who name given).perform setup w = (.error e, left) → Alike w left) ∧
    ∀ result left, (updateGroup who name given).perform setup w = (.ok result, left) →
      Tidied given.approvers result.approvers ∧
      Tidied given.selfApprovalGroups result.selfApprovalGroups ∧
      result.restricted = given.restricted ∧ result.requestable = given.requestable ∧
      (∀ spelling, Text.normalize spelling = Text.normalize name →
        (∃ later, (groupAttributes spelling).perform setup left = (.ok result, later)) ∧
        (∃ again, (updateGroup who spelling result).perform setup left = (.ok result, again)) ∧
        ∀ anyone, Alike left ((updateGroup anyone spelling result).perform setup left).2) ∧
      Alike { w with directory := left.directory } left ∧
      (∀ other, left.directory.members other = w.directory.members other) ∧
      ∀ other, Text.normalize other ≠ Text.normalize name →
        left.directory.attributes? other = w.directory.attributes? other := by
  have outcome := updated setup w who name given
  refine ⟨⟨?_, fun ⟨named, permitted⟩ => ?_⟩, ?_, ?_⟩
  · rintro ⟨result, left, run⟩
    rw [run] at outcome
    cases outcome with
    | laid may _ => exact ⟨may.named, may.permitted⟩
  · obtain ⟨left, run, -⟩ := outcome.eq_ok answers ⟨named, permitted⟩
    exact ⟨_, left, run⟩
  · intro e left run
    rw [run] at outcome
    cases outcome with
    | refused _ alike => exact alike
  · intro result left run
    rw [run] at outcome
    cases outcome with
    | laid may alike =>
      have directory := alike.directory
      have answers := answers.rest alike.leftOver
      have trimmed : Text.normalize (Text.trim name) = Text.normalize name :=
        Text.normalize_trim name
      refine ⟨tidied_ofNames _, tidied_ofNames _, rfl, rfl, fun spelling same => ⟨?_, ?_, ?_⟩, ?_,
        fun other => ?_, fun other apart => ?_⟩
      · apply perform_groupAttributes setup answers
        rw [directory, Directory.attributes?_putAttributes (same.trans trimmed.symm)]
      · have mayAgain : MayEdit setup left who (Text.trim spelling) := by
          refine ⟨fun blank => may.named ((trim_eq_empty_iff_of_same same).1 blank), ?_⟩
          rw [listsIn, alike.published]
          exact may.permitted
        obtain ⟨again, run', -⟩ :=
          (updated setup left who spelling (tidyAttributes given)).eq_ok answers mayAgain
        rw [tidyAttributes_tidyAttributes] at run'
        exact ⟨again, run'⟩
      · intro anyone
        apply (updated setup left anyone spelling (tidyAttributes given)).alike_of_stored
        rw [tidyAttributes_tidyAttributes, directory]
        apply Directory.putAttributes_again
        rw [Text.normalize_trim, same, trimmed]
      · rw [directory]
        exact alike
      · rw [directory, Directory.members_putAttributes]
      · have apart : Text.normalize other ≠ Text.normalize (Text.trim name) := by rwa [trimmed]
        rw [directory, Directory.attributes?_putAttributes_of_ne apart]

/-! ## A group with a member -/

def ledSetup : Setup := ⟨{ FixedLists.empty with admins := ["Leads@example.com"] }, .standard⟩

def withMember : World :=
  { World.start ⟨.empty⟩ default with
    directory := ((Directory.empty.putAttributes "ops" ⟨[], [], false, true⟩).addMember "ops"
      "alice").2 }

/-- The approvers of the group, with two spellings of one name, and a blank. -/
def opsGiven : GroupAttributes :=
  ⟨[" Lead@Example.com", "BOB", " \t", "lead@example.com"], [], true, true⟩

theorem lead_lays_down_ops :
    ∃ left, (updateGroup (.of "Lead" [" leads@EXAMPLE.com"]) " OPS " opsGiven).perform ledSetup
        withMember = (.ok ⟨["bob", "lead@example.com"], [], true, true⟩, left) ∧
      left.directory.members "ops" = withMember.directory.members "ops" ∧
      (∃ later, (groupAttributes "Ops").perform ledSetup left =
        (.ok ⟨["bob", "lead@example.com"], [], true, true⟩, later)) ∧
      ∃ e refused, (updateGroup (.of "alice" []) "ops" opsGiven).perform ledSetup withMember =
        (.error e, refused) ∧ Alike withMember refused := by
  have answers : AttributesAnswer withMember :=
    ⟨World.undisturbed_of_unplanned rfl _, World.undisturbed_of_unplanned rfl _⟩
  obtain ⟨succeeds, -, laid⟩ := updateGroup_lays_down ledSetup
    (.of "Lead" [" leads@EXAMPLE.com"]) " OPS " opsGiven answers
  obtain ⟨result, left, run⟩ := succeeds.2 (by decide +kernel)
  have told : ((updateGroup (.of "Lead" [" leads@EXAMPLE.com"]) " OPS " opsGiven).perform ledSetup
      withMember).1.toOption = some ⟨["bob", "lead@example.com"], [], true, true⟩ := by
    decide +kernel
  rw [run] at told
  cases told
  obtain ⟨-, -, -, -, found, -, members, -⟩ := laid _ left run
  refine ⟨left, run, members "ops", (found "Ops" (by decide +kernel)).1, ?_⟩
  obtain ⟨permitted, unchanged, -⟩ := updateGroup_lays_down ledSetup (.of "alice" []) "ops"
    opsGiven answers
  rcases run' : (updateGroup (.of "alice" []) "ops" opsGiven).perform ledSetup withMember with
    ⟨e | result, refused⟩
  · exact ⟨e, refused, rfl, unchanged e refused run'⟩
  · exact absurd (permitted.1 ⟨result, refused, run'⟩) (by decide +kernel)

end Service

end AccessBroker
