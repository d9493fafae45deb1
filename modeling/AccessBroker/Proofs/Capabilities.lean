import AccessBroker.Authorization.Decision
import AccessBroker.Proofs.NormalForms

/-! # Who has a capability

Names come into the allow-lists in four ways and are brought into normal form
on each of them, some of them more than once.  What comes of it is a rule that
knows no normal form: some name that is written in one of the four lists is a
name of the caller.
-/

namespace AccessBroker

namespace ConfigDocument

def Lists (part : Option Json) (x : String) : Prop :=
  ∃ items, part.bind Json.items? = some items ∧ ∃ item ∈ items, item.text? = some x

theorem mem_names_iff {part : Option Json} {name : String} :
    name ∈ names part ↔
      ∃ x, Lists part x ∧ Text.isAllBlank x = false ∧ Text.normalize x = name := by
  unfold names Lists
  cases part.bind Json.items? with
  | none => simp
  | some items =>
    simp only [List.mem_filter, List.mem_map, List.mem_filterMap, decide_eq_true_eq]
    constructor
    · rintro ⟨⟨x, listed, rfl⟩, named⟩
      exact ⟨x, ⟨items, rfl, listed⟩, Text.isAllBlank_eq_false_iff.2 named, rfl⟩
    · rintro ⟨x, ⟨_, here, listed⟩, solid, rfl⟩
      obtain rfl := Option.some.inj here
      exact ⟨⟨x, listed, rfl⟩, Text.isAllBlank_eq_false_iff.1 solid⟩

end ConfigDocument

inductive Entitles (fixed : FixedLists) (document : ConfigDocument) (c : Capability) (x : String) :
    Prop where
  | fixedAdmin (listed : x ∈ fixed.admins)
  | fixedHolder (listed : x ∈ fixed.holders c)
  | admin (listed : ConfigDocument.Lists (document.json.field? "admins") x)
  | holder (listed :
      ConfigDocument.Lists ((document.json.field? "capabilities").bind (·.field? c.name)) x)

namespace AllowLists

variable {fixed : FixedLists} {document : ConfigDocument} {who : Identity} {c : Capability}
  {restricted : Bool}

/-- Fixed names and those of a section of a document make one list. -/
theorem isAmong_merged {names : List String} {part : Option Json} :
    who.isAmong (NameSet.ofNames (names ++ ConfigDocument.names part)).toList = true ↔
      ∃ x, (x ∈ names ∨ ConfigDocument.Lists part x) ∧ Text.isAllBlank x = false ∧
        who.isNamed x = true := by
  rw [Identity.isAmong_ofNames]
  constructor
  · rintro ⟨x, listed, solid, named⟩
    rcases List.mem_append.1 listed with listed | listed
    · exact ⟨x, .inl listed, solid, named⟩
    · obtain ⟨y, written, notBlank, rfl⟩ := ConfigDocument.mem_names_iff.1 listed
      rw [Identity.isNamed_normalize] at named
      exact ⟨y, .inr written, notBlank, named⟩
  · rintro ⟨x, listed | listed, solid, named⟩
    · exact ⟨x, List.mem_append_left _ listed, solid, named⟩
    · have member := ConfigDocument.mem_names_iff.2 ⟨x, listed, solid, rfl⟩
      refine ⟨Text.normalize x, List.mem_append_right _ member, ?_, ?_⟩
      · rw [Text.isAllBlank_normalize, solid]
      · rw [Identity.isNamed_normalize, named]

theorem isAdmin_merge_iff :
    (merge fixed document).isAdmin who = true ↔
      ∃ x, (x ∈ fixed.admins ∨ ConfigDocument.Lists (document.json.field? "admins") x) ∧
        Text.isAllBlank x = false ∧ who.isNamed x = true :=
  isAmong_merged

theorem isHolder_merge_iff :
    who.isAmong ((merge fixed document).holders c).toList = true ↔
      ∃ x, (x ∈ fixed.holders c ∨ ConfigDocument.Lists
          ((document.json.field? "capabilities").bind (·.field? c.name)) x) ∧
        Text.isAllBlank x = false ∧ who.isNamed x = true :=
  isAmong_merged

theorem modifiesMembers_iff : c.modifiesMembers = true ↔ c = .modifyMembers := by
  cases c <;> simp [Capability.modifiesMembers]

theorem permits_merge_iff :
    (merge fixed document).permits who c restricted = true ↔
      ¬ (restricted = true ∧ c = .modifyMembers) ∧
        ∃ x, Entitles fixed document c x ∧ Text.isAllBlank x = false ∧ who.isNamed x = true := by
  have open_ : (!(restricted && c.modifiesMembers)) = true ↔
      ¬ (restricted = true ∧ c = .modifyMembers) := by
    rw [Bool.not_eq_true', Bool.eq_false_iff, ne_eq, Bool.and_eq_true, modifiesMembers_iff]
  have named : ((merge fixed document).isAdmin who ||
        who.isAmong ((merge fixed document).holders c).toList) = true ↔
      ∃ x, Entitles fixed document c x ∧ Text.isAllBlank x = false ∧ who.isNamed x = true := by
    rw [Bool.or_eq_true, isAdmin_merge_iff, isHolder_merge_iff]
    constructor
    · rintro (⟨x, listed | listed, rest⟩ | ⟨x, listed | listed, rest⟩)
      · exact ⟨x, .fixedAdmin listed, rest⟩
      · exact ⟨x, .admin listed, rest⟩
      · exact ⟨x, .fixedHolder listed, rest⟩
      · exact ⟨x, .holder listed, rest⟩
    · rintro ⟨x, entitles, rest⟩
      cases entitles with
      | fixedAdmin listed => exact .inl ⟨x, .inl listed, rest⟩
      | fixedHolder listed => exact .inr ⟨x, .inl listed, rest⟩
      | admin listed => exact .inl ⟨x, .inr listed, rest⟩
      | holder listed => exact .inr ⟨x, .inr listed, rest⟩
  rw [permits, Bool.and_eq_true, open_, named]

/-- An empty document names nobody. -/
theorem entitles_of_empty {x : String} (entitles : Entitles fixed .empty c x) :
    Entitles fixed document c x := by
  cases entitles with
  | fixedAdmin listed => exact .fixedAdmin listed
  | fixedHolder listed => exact .fixedHolder listed
  | admin listed =>
    obtain ⟨items, here, -⟩ := listed
    cases here
  | holder listed =>
    obtain ⟨items, here, -⟩ := listed
    cases here

/-- An identity has a capability exactly if one of its names is written in one of the four lists,
and nobody changes the members of what is restricted.  So whatever names are added, and whatever
groups the identity joins, no capability is lost, and no document takes away what the fixed lists
give. -/
theorem permits_union (fixed : FixedLists) (document : ConfigDocument) (who : Identity)
    (c : Capability) (restricted : Bool) :
    ((merge fixed document).permits who c restricted = true ↔
      ¬ (restricted = true ∧ c = .modifyMembers) ∧
        ∃ x, Entitles fixed document c x ∧ Text.isAllBlank x = false ∧ who.isNamed x = true) ∧
    (∀ fixed' document' (wider : Identity),
      (∀ x, Entitles fixed document c x → Entitles fixed' document' c x) → wider.Extends who →
      (merge fixed document).permits who c restricted = true →
        (merge fixed' document').permits wider c restricted = true) ∧
    ((merge fixed .empty).permits who c restricted = true →
      (merge fixed document).permits who c restricted = true) := by
  refine ⟨permits_merge_iff, ?_, ?_⟩
  · intro fixed' document' wider more extends_ permitted
    obtain ⟨unrestricted, x, entitles, notBlank, named⟩ := permits_merge_iff.1 permitted
    exact permits_merge_iff.2
      ⟨unrestricted, x, more x entitles, notBlank, extends_.isNamed named⟩
  · intro permitted
    obtain ⟨unrestricted, x, entitles, rest⟩ := permits_merge_iff.1 permitted
    exact permits_merge_iff.2 ⟨unrestricted, x, entitles_of_empty entitles, rest⟩

/-! ## A name with a final sigma -/

def odysseusFixed : FixedLists := ⟨[" ΟΔΥΣΣΕΥΣ "], fun _ => [], []⟩

/-- Its section of administrators is no list. -/
def odysseusDocument : ConfigDocument :=
  ⟨.object [("admins", .string "penelope")], rfl⟩

/-- He is an administrator by the fixed lists and stays one, also in new groups. -/
theorem odysseus_stays_admin :
    (merge odysseusFixed odysseusDocument).permits (.of "Οδυσσευς" []) .editConfig true = true ∧
      (merge odysseusFixed odysseusDocument).permits (.of "Οδυσσευς" ["crew"]) .editConfig true =
        true := by
  have named : (Identity.of "Οδυσσευς" []).isNamed " ΟΔΥΣΣΕΥΣ " = true := by decide +kernel
  have fixedRight := (permits_union odysseusFixed .empty (.of "Οδυσσευς" []) .editConfig true).1.2
    ⟨by decide, " ΟΔΥΣΣΕΥΣ ", .fixedAdmin List.mem_cons_self, by decide +kernel, named⟩
  have right := (permits_union odysseusFixed odysseusDocument (.of "Οδυσσευς" []) .editConfig
    true).2.2 fixedRight
  have wider : (Identity.of "Οδυσσευς" ["crew"]).Extends (.of "Οδυσσευς" []) := by
    refine ⟨rfl, ?_⟩
    intro group member
    cases member
  have widerRight := (permits_union odysseusFixed odysseusDocument (.of "Οδυσσευς" []) .editConfig
    true).2.1 odysseusFixed odysseusDocument _ (fun _ entitles => entitles) wider right
  exact ⟨right, widerRight⟩

end AllowLists

end AccessBroker
