import AccessBroker.Proofs.EligibleRoles

/-! # How the keys of role mappings are compared

Names in the allow-lists are brought into normal form before they are compared.
The keys of the role mappings are not: only their letters from A to Z are
lowered.  So a key is found by those whom it names if no more than that is
between it and its normal form, and by nobody otherwise.
-/

namespace AccessBroker

namespace Text

/-! ## Lower case of ASCII -/

def lowerLetter (c : Char) : Char :=
  if c.isUpper then Char.ofNat (c.toNat + 0x20) else c

theorem toList_lowerAscii (s : String) : (lowerAscii s).toList = s.toList.map lowerLetter := by
  rw [lowerAscii, String.toList_map]
  rfl

theorem lowerLetter_of_ascii {c : Char} (ascii : c.toNat < 0x80) : lowerLetter c = lowerChar c := by
  rw [lowerChar_of_ascii ascii, lowerLetter]

theorem lowerLetter_of_not_ascii {c : Char} (beyond : ¬ c.toNat < 0x80) : lowerLetter c = c := by
  rw [lowerLetter, if_neg]
  rw [isUpper_iff]
  omega

theorem isBlank_lowerLetter (c : Char) : isBlank (lowerLetter c) = isBlank c := by
  by_cases ascii : c.toNat < 0x80
  · rw [lowerLetter_of_ascii ascii]
    apply (settled_lowerChar _).2
    rintro rfl
    exact absurd ascii (by decide)
  · rw [lowerLetter_of_not_ascii ascii]

theorem Settled.lowerLetter {c : Char} (settled : Settled c) : lowerLetter c = c := by
  by_cases ascii : c.toNat < 0x80
  · rw [lowerLetter_of_ascii ascii, settled.fixed]
  · exact lowerLetter_of_not_ascii ascii

/-- Where lower case of ASCII settles all characters, lower case does the same. -/
theorem lowerFrom_of_settled_letters {before cs : List Char}
    (settled : ∀ c ∈ cs, Settled (lowerLetter c)) : lowerFrom before cs = cs.map lowerLetter := by
  induction cs generalizing before with
  | nil => rfl
  | cons c rest ih =>
    have tail : lowerFrom (c :: before) rest = rest.map lowerLetter :=
      ih fun x hx => settled x (List.mem_cons_of_mem c hx)
    have head := settled c List.mem_cons_self
    by_cases ascii : c.toNat < 0x80
    · have notSigma : c ≠ capitalSigma := by
        rintro rfl
        exact absurd ascii (by decide)
      have notDotted : c ≠ 'İ' := by
        rintro rfl
        exact absurd ascii (by decide)
      simp only [lowerFrom, if_neg notSigma, if_neg notDotted, tail, List.map_cons,
        lowerLetter_of_ascii ascii]
    · rw [lowerLetter_of_not_ascii ascii] at head
      simp only [lowerFrom, if_neg head.ne_sigma, if_neg head.ne_dotted, head.fixed, tail,
        List.map_cons, lowerLetter_of_not_ascii ascii]

theorem settled_of_mem_normal {name : String} {c : Char} (normal : normalize name = name)
    (hc : c ∈ name.toList) : Settled c := by
  rw [← normal, normalize, lower, String.toList_ofList] at hc
  exact settled_of_mem_lowerFrom hc

/-- A normal form has no letters from A to Z. -/
theorem lowerAscii_of_normal {name : String} (normal : normalize name = name) :
    lowerAscii name = name := by
  have same : name.toList.map lowerLetter = name.toList.map id := by
    apply List.map_congr_left
    intro c hc
    exact (settled_of_mem_normal normal hc).lowerLetter
  rw [← String.toList_inj, toList_lowerAscii, same, List.map_id]

theorem trim_of_trim_lowerAscii {s : String} (trimmed : trim (lowerAscii s) = lowerAscii s) :
    trim s = s := by
  rw [← String.toList_inj, toList_trim, toList_lowerAscii, trimChars_eq_self_iff] at trimmed
  rw [← String.toList_inj, toList_trim, trimChars_eq_self_iff]
  obtain ⟨front, back⟩ := trimmed
  constructor
  · intro c head
    rw [← isBlank_lowerLetter]
    apply front
    rw [List.head?_map, head, Option.map_some]
  · intro c last
    rw [← isBlank_lowerLetter]
    apply back
    rw [List.getLast?_map, last, Option.map_some]

/-- A text that lower case of ASCII brings into normal form has that normal form. -/
theorem normalize_of_lowerAscii {s : String} (normal : normalize (lowerAscii s) = lowerAscii s) :
    normalize s = lowerAscii s := by
  have trimmed : trim s = s := by
    apply trim_of_trim_lowerAscii
    rw [← normal, trim_normalize]
  have settled : ∀ c ∈ s.toList, Settled (lowerLetter c) := by
    intro c hc
    apply settled_of_mem_normal normal
    rw [toList_lowerAscii]
    exact List.mem_map_of_mem hc
  rw [normalize, trimmed, lower, lowerFrom_of_settled_letters settled, ← toList_lowerAscii,
    String.ofList_toList]

/-- A text and a normal form are the same up to the case of ASCII letters if it is the normal form
of the text, and lower case of ASCII is enough to come to it. -/
theorem sameAscii_iff_of_normal {s name : String} (normal : normalize name = name) :
    sameAscii s name = true ↔ normalize s = name ∧ lowerAscii s = normalize s := by
  rw [sameAscii, beq_iff_eq, lowerAscii_of_normal normal]
  constructor
  · rintro rfl
    have same := normalize_of_lowerAscii normal
    exact ⟨same, same.symm⟩
  · rintro ⟨rfl, enough⟩
    exact enough

end Text

/-! ## Values with members in order -/

namespace Json

theorem members?_of_tree {j : Json} {members : List (String × Tree)}
    (tree : j.tree = .object members) :
    ∃ found, j.members? = some found ∧ found.map (fun m => (m.1, m.2.tree)) = members := by
  obtain ⟨_, canonical⟩ := j
  subst tree
  refine ⟨_, rfl, ?_⟩
  rw [List.map_map]
  exact List.attach_map_subtype_val members

/-- Members in ascending order stay as they are. -/
theorem members?_object {members : List (String × Json)}
    (ascending : members.Pairwise fun a b => a.1 < b.1) :
    (Json.object members).members? = some members := by
  have tree : (Json.object members).tree = .object (members.map fun m => (m.1, m.2.tree)) := by
    show Tree.object ((Table.sort members).map fun m => (m.1, m.2.tree)) = _
    rw [Table.sort_of_ascending ascending]
  obtain ⟨found, here, same⟩ := members?_of_tree tree
  have apart (a b : String × Json) (eq : (a.1, a.2.tree) = (b.1, b.2.tree)) : a = b := by
    obtain ⟨name, tree⟩ := Prod.mk.inj eq
    exact Prod.ext name (Json.ext tree)
  rw [here, (List.map_inj_right apart).1 same]

theorem pairwise_of_members? {j : Json} {members : List (String × Json)}
    (here : j.members? = some members) : members.Pairwise fun a b => a.1 < b.1 := by
  obtain ⟨tree, canonical⟩ := j
  cases tree with
  | object inner =>
    obtain ⟨found, here', same⟩ := members?_of_tree (j := ⟨.object inner, canonical⟩) rfl
    obtain rfl := Option.some.inj (here.symm.trans here')
    have ascending := canonical.ascending
    rw [← same, List.pairwise_map] at ascending
    exact ascending
  | _ => cases here

end Json

/-! ## What is stored under a key -/

namespace ConfigDocument

def mappings (d : ConfigDocument) : List (String × Json) :=
  ((d.json.field? "role_mappings").bind Json.members?).getD []

def validEntries (j : Json) : List RoleMapping :=
  (j.items?.getD []).filterMap RoleMapping.ofJson?

variable {d : ConfigDocument} {k name : String}

theorem roleMappings_eq (d : ConfigDocument) (name : String) :
    d.roleMappings name =
      (d.mappings.filter fun m => Text.sameAscii m.1 name).flatMap fun m => validEntries m.2 := by
  unfold roleMappings mappings
  cases (d.json.field? "role_mappings").bind Json.members? with
  | none => rfl
  | some members => rfl

theorem pairwise_mappings (d : ConfigDocument) : d.mappings.Pairwise fun a b => a.1 < b.1 := by
  unfold mappings
  cases section_ : d.json.field? "role_mappings" with
  | none => exact .nil
  | some part =>
    cases members : part.members? with
    | none => simp [members]
    | some found => simpa [members] using Json.pairwise_of_members? members

def otherMappings (d : ConfigDocument) (k : String) : ConfigDocument :=
  ⟨.object [("role_mappings", .object (d.mappings.filter (·.1 ≠ k)))], rfl⟩

theorem mappings_otherMappings (d : ConfigDocument) (k : String) :
    (d.otherMappings k).mappings = d.mappings.filter (·.1 ≠ k) := by
  have others : (d.mappings.filter (·.1 ≠ k)).Pairwise fun a b => a.1 < b.1 :=
    d.pairwise_mappings.filter _
  have part : (d.otherMappings k).json.field? "role_mappings" =
      some (.object (d.mappings.filter (·.1 ≠ k))) := by
    rw [otherMappings, Json.field?, Json.members?_object (List.pairwise_singleton _ _)]
    rfl
  rw [mappings, part, Option.bind_some, Json.members?_object others, Option.getD_some]

def MapsAt (d : ConfigDocument) (k : String) : Prop :=
  ∃ j items, (k, j) ∈ d.mappings ∧ j.items? = some items ∧
    ∃ item ∈ items, ∃ m, RoleMapping.ofJson? item = some m

/-- A lookup finds less without what is stored under the key. -/
def Selects (d : ConfigDocument) (k name : String) : Prop :=
  (d.otherMappings k).roleMappings name ≠ d.roleMappings name

theorem validEntries_ne_nil {j : Json} {items : List Json} (here : j.items? = some items)
    (valid : ∃ item ∈ items, ∃ m, RoleMapping.ofJson? item = some m) : validEntries j ≠ [] := by
  obtain ⟨item, listed, m, read⟩ := valid
  have member : m ∈ validEntries j := by
    rw [validEntries, here, Option.getD_some, List.mem_filterMap]
    exact ⟨item, listed, read⟩
  exact List.ne_nil_of_mem member

/-- Keys that stand before or after a key in ascending order are others. -/
theorem filter_ne_key {before after : List (String × Json)} {j : Json}
    (ascending : (before ++ (k, j) :: after).Pairwise fun a b => a.1 < b.1) :
    (before ++ (k, j) :: after).filter (·.1 ≠ k) = before ++ after := by
  obtain ⟨-, later, earlier⟩ := List.pairwise_append.1 ascending
  have before_ : before.filter (·.1 ≠ k) = before := by
    apply List.filter_eq_self.2
    intro m hm
    have below := earlier m hm (k, j) List.mem_cons_self
    simpa using String.ne_of_lt below
  have after_ : after.filter (·.1 ≠ k) = after := by
    apply List.filter_eq_self.2
    intro m hm
    have above := (List.pairwise_cons.1 later).1 m hm
    simpa using (String.ne_of_lt above).symm
  rw [List.filter_append, List.filter_cons_of_neg (by simp), before_, after_]

/-- A key with a valid entry is found by the names that are the same up to the case of ASCII
letters. -/
theorem selects_iff (maps : d.MapsAt k) : d.Selects k name ↔ Text.sameAscii k name = true := by
  obtain ⟨j, items, here, array, valid⟩ := maps
  obtain ⟨before, after, split⟩ := List.append_of_mem here
  have ascending := d.pairwise_mappings
  rw [Selects, roleMappings_eq, roleMappings_eq, mappings_otherMappings, split]
  rw [split] at ascending
  rw [filter_ne_key ascending]
  simp only [List.filter_append, List.flatMap_append]
  by_cases same : Text.sameAscii k name = true
  · have found : ((k, j) :: after).filter (fun m => Text.sameAscii m.1 name) =
        (k, j) :: after.filter fun m => Text.sameAscii m.1 name :=
      List.filter_cons_of_pos (p := fun m : String × Json => Text.sameAscii m.1 name) same
    have longer := List.length_pos_iff.2 (validEntries_ne_nil array valid)
    refine ⟨fun _ => same, fun _ eq => ?_⟩
    have lengths := congrArg List.length eq
    simp only [found, List.flatMap_cons, List.length_append] at lengths
    omega
  · have passed : ((k, j) :: after).filter (fun m => Text.sameAscii m.1 name) =
        after.filter fun m => Text.sameAscii m.1 name :=
      List.filter_cons_of_neg (p := fun m : String × Json => Text.sameAscii m.1 name) same
    simp [passed, same]

/-- What is stored under the key is looked up for the caller or for one of the caller's groups. -/
def Collects (d : ConfigDocument) (who : Identity) (k : String) : Prop :=
  ∃ name, (name = who.user ∨ name ∈ who.groups) ∧ d.Selects k name

theorem collects_iff_sameAscii {who : Identity} (maps : d.MapsAt k) :
    d.Collects who k ↔
      ∃ name, (name = who.user ∨ name ∈ who.groups) ∧ Text.sameAscii k name = true := by
  simp only [Collects, selects_iff maps]

/-- No key of the role mappings is a name of the caller, up to the case of ASCII letters. -/
def PassesOver (d : ConfigDocument) (who : Identity) : Bool :=
  (who.user :: who.groups.toList).all fun name => d.mappings.all fun m => !Text.sameAscii m.1 name

variable {who : Identity}

theorem PassesOver.not_collects (unnamed : d.PassesOver who = true) (maps : d.MapsAt k) :
    ¬ d.Collects who k := by
  rw [collects_iff_sameAscii maps]
  rintro ⟨name, own, same⟩
  obtain ⟨j, -, here, -⟩ := maps
  have differ := List.all_eq_true.1 (List.all_eq_true.1 unnamed name (List.mem_cons.2 own)) _ here
  rw [same] at differ
  cases differ

theorem PassesOver.answered (unnamed : d.PassesOver who = true) (console : Bool) :
    Service.AnsweredBy d who console [] := by
  have unfound : (who.user :: who.groups.toList).flatMap d.roleMappings = [] := by
    rw [List.flatMap_eq_nil_iff]
    intro name own
    rw [roleMappings_eq, List.filter_eq_nil_iff.2, List.flatMap_nil]
    intro m hm
    simpa using List.all_eq_true.1 (List.all_eq_true.1 unnamed name own) m hm
  rw [Service.answeredBy_iff, Service.offeredRoles, unfound]
  rfl

end ConfigDocument

namespace Identity

/-- All names of an identity are in normal form. -/
theorem normal_of_mem {user : String} {groups : List String} {name : String}
    (own : name = (Identity.of user groups).user ∨ name ∈ (Identity.of user groups).groups) :
    Text.normalize name = name := by
  rcases own with rfl | member
  · exact Text.normalize_normalize user
  · obtain ⟨group, -, -, rfl⟩ := NameSet.mem_ofNames.1 member
    exact Text.normalize_normalize group

end Identity

/-- Of the callers that a key names, either all are given what is stored under it or none: they are
if lower case of ASCII is enough to bring the key into normal form. -/
theorem ConfigDocument.collects_iff {d : ConfigDocument} {k : String} (maps : d.MapsAt k)
    (user : String) (groups : List String) :
    d.Collects (.of user groups) k ↔
      (Identity.of user groups).isNamed k = true ∧ Text.lowerAscii k = Text.normalize k := by
  rw [collects_iff_sameAscii maps, Identity.isNamed_iff]
  constructor
  · rintro ⟨name, own, same⟩
    obtain ⟨rfl, enough⟩ := (Text.sameAscii_iff_of_normal (Identity.normal_of_mem own)).1 same
    exact ⟨own.imp_left Eq.symm, enough⟩
  · rintro ⟨named, enough⟩
    have own := named.imp_left Eq.symm
    refine ⟨Text.normalize k, own, ?_⟩
    exact (Text.sameAscii_iff_of_normal (Identity.normal_of_mem own)).2 ⟨rfl, enough⟩

/-! ## Keys as an administrator may write them -/

namespace ConfigDocument

def spelledFreely : ConfigDocument :=
  ⟨.object [("role_mappings", .object [
    (" eng ", .array [.string "viewer"]),
    ("OPS", .array [.string "auditor"]),
    ("Équipe", .array [.string "deployer"])])], rfl⟩

theorem mapsAt_spelledFreely (k arn : String)
    (here : (k, .array [.string arn]) ∈ spelledFreely.mappings) : spelledFreely.MapsAt k :=
  ⟨_, [.string arn], here, rfl, .string arn, List.mem_cons_self, ⟨arn, false⟩, rfl⟩

theorem ops_are_mapped :
    spelledFreely.MapsAt "OPS" ∧ spelledFreely.Collects (.of "kim" ["Ops"]) "OPS" := by
  have maps : spelledFreely.MapsAt "OPS" := mapsAt_spelledFreely "OPS" "auditor" (by decide +kernel)
  refine ⟨maps, (collects_iff maps "kim" ["Ops"]).2 ⟨by decide +kernel, ?_⟩⟩
  rw [← String.toList_inj, Text.toList_lowerAscii]
  decide +kernel

/-- Both keys name a group of the caller, the second one exactly as the caller hands it over, and
both have a valid entry; the caller is offered nothing. -/
theorem named_keys_are_passed_over :
    (spelledFreely.MapsAt " eng " ∧ Text.isAllBlank " eng " = false ∧
      (Identity.of "lee" ["eng"]).isNamed " eng " = true ∧
      ¬ spelledFreely.Collects (.of "lee" ["eng"]) " eng " ∧
      Service.AnsweredBy spelledFreely (.of "lee" ["eng"]) true []) ∧
    (spelledFreely.MapsAt "Équipe" ∧ Text.isAllBlank "Équipe" = false ∧
      (Identity.of "dev" ["Équipe"]).isNamed "Équipe" = true ∧
      ¬ spelledFreely.Collects (.of "dev" ["Équipe"]) "Équipe" ∧
      Service.AnsweredBy spelledFreely (.of "dev" ["Équipe"]) true []) := by
  have lee : spelledFreely.PassesOver (.of "lee" ["eng"]) = true := by
    simp only [PassesOver, Text.sameAscii_eq]
    decide +kernel
  have dev : spelledFreely.PassesOver (.of "dev" ["Équipe"]) = true := by
    simp only [PassesOver, Text.sameAscii_eq]
    decide +kernel
  have padded := mapsAt_spelledFreely " eng " "viewer" (by decide +kernel)
  have accented := mapsAt_spelledFreely "Équipe" "deployer" (by decide +kernel)
  constructor
  · exact ⟨padded, by decide, by decide +kernel, PassesOver.not_collects lee padded,
      PassesOver.answered lee true⟩
  · exact ⟨accented, by decide, by decide +kernel, PassesOver.not_collects dev accented,
      PassesOver.answered dev true⟩

end ConfigDocument

end AccessBroker
