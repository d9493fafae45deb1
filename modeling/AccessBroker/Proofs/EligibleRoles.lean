import AccessBroker.Broker.Authorization
import AccessBroker.Proofs.Calls
import AccessBroker.Proofs.NormalForms

/-! # Which roles a caller is offered

The mappings of a caller come from several sections of a document and are
merged one after the other.  What is found of a role does not depend on that
order: it is for the console only if all mappings of the role say so.
-/

namespace AccessBroker

/-- Texts are the same up to the case of ASCII letters if their characters are. -/
theorem Text.sameAscii_eq (s t : String) :
    sameAscii s t =
      (s.toList.map (fun c => if c.isUpper then Char.ofNat (c.toNat + 0x20) else c) ==
        t.toList.map fun c => if c.isUpper then Char.ofNat (c.toNat + 0x20) else c) := by
  rw [sameAscii, lowerAscii, lowerAscii, Bool.eq_iff_iff, beq_iff_eq, beq_iff_eq,
    ← String.toList_inj, String.toList_map, String.toList_map]

namespace Service

/-! ## Merging mappings -/

/-- What some mappings come to for one role. -/
def summary (ms : List RoleMapping) (arn : String) : Option RoleMapping :=
  let offers := ms.filter (·.arn = arn)
  if offers = [] then none else some ⟨arn, offers.all (·.consoleOnly)⟩

theorem summary_eq_some_iff {ms : List RoleMapping} {arn : String} {role : RoleMapping} :
    summary ms arn = some role ↔ role.arn = arn ∧ (∃ m ∈ ms, m.arn = arn) ∧
      (role.consoleOnly = true ↔ ∀ m ∈ ms, m.arn = arn → m.consoleOnly = true) := by
  obtain ⟨name, consoleOnly⟩ := role
  have offered : ms.filter (·.arn = arn) ≠ [] ↔ ∃ m ∈ ms, m.arn = arn := by
    simp [List.filter_eq_nil_iff]
  have all : (ms.filter (·.arn = arn)).all (·.consoleOnly) = true ↔
      ∀ m ∈ ms, m.arn = arn → m.consoleOnly = true := by
    simp only [List.all_eq_true, List.mem_filter, decide_eq_true_eq, and_imp]
  rw [← offered, ← all, ← Bool.eq_iff_iff, summary]
  by_cases nothing : ms.filter (·.arn = arn) = []
  · simp [nothing]
  · rw [if_neg nothing, Option.some.injEq, RoleMapping.mk.injEq]
    constructor
    · rintro ⟨rfl, rfl⟩
      exact ⟨rfl, nothing, rfl⟩
    · rintro ⟨named, -, same⟩
      exact ⟨named.symm, same.symm⟩

/-- One more mapping changes what is found of its own role. -/
theorem summary_append {ms : List RoleMapping} {m : RoleMapping} {arn : String} :
    summary (ms ++ [m]) arn =
      if arn = m.arn then
        some ⟨arn, ((summary ms arn).map (·.consoleOnly)).getD true && m.consoleOnly⟩
      else summary ms arn := by
  unfold summary
  by_cases same : arn = m.arn
  · subst same
    by_cases nothing : ms.filter (·.arn = m.arn) = []
    · simp [nothing]
    · simp [nothing]
  · simp [same, Ne.symm same]

def Merges (ms : List RoleMapping) (found : Table RoleMapping) : Prop :=
  ∀ arn, found.get? arn = summary ms arn

theorem Merges.addMapping {ms : List RoleMapping} {found : Table RoleMapping}
    (merges : Merges ms found) (m : RoleMapping) : Merges (ms ++ [m]) (addMapping found m) := by
  intro arn
  rw [summary_append, ← merges arn, Service.addMapping]
  cases before : found.get? m.arn with
  | none =>
    show (found.insert m.arn m).get? arn = _
    rw [Table.get?_insert]
    by_cases same : arn = m.arn
    · simp [same, before]
    · simp [same]
  | some old =>
    show (found.insert m.arn _).get? arn = _
    rw [Table.get?_insert]
    by_cases same : arn = m.arn
    · have named : old.arn = m.arn := (summary_eq_some_iff.1 ((merges m.arn).symm.trans before)).1
      simp [same, before, named]
    · simp [same]

theorem Merges.foldl {ms : List RoleMapping} {found : Table RoleMapping}
    (merges : Merges ms found) (more : List RoleMapping) :
    Merges (ms ++ more) (more.foldl Service.addMapping found) := by
  induction more generalizing ms found with
  | nil =>
    rw [List.append_nil]
    exact merges
  | cons m rest ih =>
    have step := ih (merges.addMapping m)
    rw [List.append_assoc] at step
    exact step

/-- What is found under a name is a role of that name. -/
theorem Merges.arns {ms : List RoleMapping} {found : Table RoleMapping}
    (merges : Merges ms found) : found.toList.map (·.2.arn) = found.names := by
  apply List.map_congr_left
  rintro ⟨name, value⟩ entry
  have here := Table.mem_toList_iff.1 entry
  rw [merges, summary_eq_some_iff] at here
  exact here.1

theorem merges_all (ms : List RoleMapping) : Merges ms (ms.foldl Service.addMapping .empty) := by
  have nothing : Merges [] .empty := fun _ => rfl
  exact nothing.foldl ms

/-! ## The roles of a caller -/

variable {document : ConfigDocument} {who wider : Identity} {console : Bool}
  {m role : RoleMapping}

/-- The document offers the mapping to the user or to one of the groups. -/
def Offers (document : ConfigDocument) (who : Identity) (m : RoleMapping) : Prop :=
  ∃ name, (name = who.user ∨ name ∈ who.groups) ∧ m ∈ document.roleMappings name

/-- Whoever belongs to more groups is offered more. -/
theorem Offers.joined (more : wider.Extends who) (offers : Offers document who m) :
    Offers document wider m := by
  obtain ⟨name, named, listed⟩ := offers
  refine ⟨name, ?_, listed⟩
  rw [more.user]
  exact named.imp_right (more.groups name)

def usable (document : ConfigDocument) (who : Identity) (console : Bool) : List RoleMapping :=
  ((who.user :: who.groups.toList).flatMap document.roleMappings).filter fun m =>
    console || !m.consoleOnly

theorem mem_usable_iff :
    m ∈ usable document who console ↔
      Offers document who m ∧ (console = true ∨ m.consoleOnly = false) := by
  simp only [usable, Offers, NameSet.mem_iff, List.mem_filter, List.mem_flatMap, List.mem_cons,
    Bool.or_eq_true, Bool.not_eq_true']

theorem mem_offeredRoles_iff :
    role ∈ offeredRoles document who console ↔
      summary (usable document who console) role.arn = some role := by
  have merges := merges_all (usable document who console)
  show role ∈ (((usable document who console).foldl addMapping .empty).toList.map Prod.snd) ↔ _
  rw [← merges, ← Table.mem_toList_iff, List.mem_map]
  constructor
  · rintro ⟨⟨name, value⟩, entry, rfl⟩
    have found := Table.mem_toList_iff.1 entry
    rw [merges, summary_eq_some_iff] at found
    rw [found.1]
    exact entry
  · intro entry
    exact ⟨_, entry, rfl⟩

/-- What is offered for one kind of session is found, and found once. -/
theorem exists_mem_offeredRoles {arn : String} :
    (∃ role ∈ offeredRoles document who console, role.arn = arn) ↔
      ∃ m ∈ usable document who console, m.arn = arn := by
  constructor
  · rintro ⟨role, member, rfl⟩
    exact (summary_eq_some_iff.1 (mem_offeredRoles_iff.1 member)).2.1
  · intro offered
    refine ⟨⟨arn, decide (∀ m ∈ usable document who console, m.arn = arn → m.consoleOnly = true)⟩,
      mem_offeredRoles_iff.2 ?_, rfl⟩
    exact summary_eq_some_iff.2 ⟨rfl, offered, decide_eq_true_iff⟩

theorem consoleOnly_iff (member : role ∈ offeredRoles document who console) :
    role.consoleOnly = true ↔
      ∀ m ∈ usable document who console, m.arn = role.arn → m.consoleOnly = true :=
  (summary_eq_some_iff.1 (mem_offeredRoles_iff.1 member)).2.2

theorem ascending_offeredRoles :
    ((offeredRoles document who console).map (·.arn)).Pairwise (· < ·) := by
  have merges := merges_all (usable document who console)
  have ascending : ((usable document who console).foldl addMapping .empty).names.Pairwise (· < ·) :=
    List.pairwise_map.2 (Table.ascending _)
  rw [← merges.arns] at ascending
  rw [offeredRoles, List.map_map]
  exact ascending

/-- Outside the console a caller has the roles that are not for the console only. -/
theorem offeredRoles_false :
    offeredRoles document who false =
      (offeredRoles document who true).filter fun role => !role.consoleOnly := by
  apply Table.eq_of_ascending ascending_offeredRoles
  · exact ascending_offeredRoles.sublist (List.filter_sublist.map _)
  · intro role
    rw [List.mem_filter, mem_offeredRoles_iff, mem_offeredRoles_iff, summary_eq_some_iff,
      summary_eq_some_iff]
    simp only [mem_usable_iff, Bool.false_eq_true, false_or, true_or, and_true]
    grind

/-- More groups take no role away, nor put one behind the console. -/
theorem offeredRoles_wider (more : wider.Extends who)
    (member : role ∈ offeredRoles document who console) :
    ∃ role' ∈ offeredRoles document wider console, role'.arn = role.arn ∧
      (role'.consoleOnly = true → role.consoleOnly = true) := by
  have spreads : ∀ m ∈ usable document who console, m ∈ usable document wider console := by
    intro m counts
    rw [mem_usable_iff] at counts ⊢
    exact ⟨counts.1.joined more, counts.2⟩
  obtain ⟨m, counts, named⟩ := exists_mem_offeredRoles.1 ⟨role, member, rfl⟩
  obtain ⟨role', member', named'⟩ :=
    exists_mem_offeredRoles.2 ⟨m, spreads m counts, named⟩
  refine ⟨role', member', named', ?_⟩
  intro only
  rw [consoleOnly_iff member]
  rw [consoleOnly_iff member', named'] at only
  intro m counts
  exact only m (spreads m counts)

/-! ## Calls -/

def Misses (setup : Setup) (w : World) (who : Identity) (console : Bool) : Prop :=
  Ends setup w (getEligible? who.user console) (fun found _ => found = none) fun _ _ => True

/-- Whenever this document is in force and no answer is remembered, a call is answered by the
roles. -/
def AnsweredBy (document : ConfigDocument) (who : Identity) (console : Bool)
    (roles : List RoleMapping) : Prop :=
  ∀ setup w, w.published.document = document → Misses setup w who console →
    ((eligibleRoles who console).perform setup w).1 = .ok roles

theorem ends_eligibleRoles {setup : Setup} {w : World} (miss : Misses setup w who console) :
    Ends setup w (eligibleRoles who console)
      (fun roles _ => roles = offeredRoles w.published.document who console)
      fun _ _ => False := by
  have alike : Ends setup w (getEligible? who.user console)
      (fun _ left => w.Alike left) fun _ left => w.Alike left :=
    ends_getEligible (fun _ alike => alike) fun _ _ _ alike => alike
  have works (left : World) (alike : w.Alike left) :
      offeredRoles left.published.document who console =
        offeredRoles w.published.document who console := by
    rw [alike.published]
  simp only [eligibleRoles, ends_bind, ends_tryCatch]
  apply (miss.and alike).mono
  · rintro found left ⟨rfl, alike⟩
    simp only [ends_bind, ends_get, ends_settings, ends_quietly, ends_pure]
    exact ends_putEligible (fun _ _ => works left alike) fun _ _ _ _ => works left alike
  · rintro e left ⟨-, alike⟩
    simp only [ends_bind, ends_get, ends_settings, ends_quietly, ends_pure]
    exact ends_putEligible (fun _ _ => works left alike) fun _ _ _ _ => works left alike

theorem answeredBy_offeredRoles :
    AnsweredBy document who console (offeredRoles document who console) := by
  rintro setup w rfl miss
  obtain ⟨roles, left, run, rfl⟩ := (ends_eligibleRoles miss).ok
  rw [run]

def inForce (document : ConfigDocument) : World :=
  { (default : World) with published := ⟨document, none, none, none⟩ }

theorem misses_inForce : Misses default (inForce document) who console :=
  ends_getEligible (fun _ _ => rfl) fun _ _ _ _ => trivial

theorem answeredBy_iff {roles : List RoleMapping} :
    AnsweredBy document who console roles ↔ roles = offeredRoles document who console := by
  constructor
  · intro answered
    have given := answered default (inForce document) rfl misses_inForce
    have offered : ((eligibleRoles who console).perform default (inForce document)).1 =
        .ok (offeredRoles document who console) :=
      answeredBy_offeredRoles default (inForce document) rfl misses_inForce
    exact Except.ok.inj (given.symm.trans offered)
  · rintro rfl
    exact answeredBy_offeredRoles

/-- The roles of a caller are exactly those of the mappings that a document offers to the user or to
one of the groups, once each and in ascending order; a role is for the console only if all of its
mappings are.  Outside the console the caller has the others.  More groups never cost a role. -/
theorem eligibleRoles_merge_offers (document : ConfigDocument) (who : Identity) :
    ∃ all : List RoleMapping,
      AnsweredBy document who true all ∧
      AnsweredBy document who false (all.filter fun role => !role.consoleOnly) ∧
      (all.map (·.arn)).Pairwise (· < ·) ∧
      (∀ arn, arn ∈ all.map (·.arn) ↔ ∃ m, Offers document who m ∧ m.arn = arn) ∧
      (∀ role ∈ all, role.consoleOnly = true ↔
        ∀ m, Offers document who m → m.arn = role.arn → m.consoleOnly = true) ∧
      ∀ (wider : Identity) (console : Bool) (roles more : List RoleMapping),
        wider.Extends who → AnsweredBy document who console roles →
        AnsweredBy document wider console more →
        ∀ role ∈ roles, ∃ role' ∈ more, role'.arn = role.arn ∧
          (role'.consoleOnly = true → role.consoleOnly = true) := by
  refine ⟨offeredRoles document who true, answeredBy_offeredRoles, ?_, ascending_offeredRoles, ?_,
    ?_, ?_⟩
  · rw [← offeredRoles_false]
    exact answeredBy_offeredRoles
  · intro arn
    rw [List.mem_map, exists_mem_offeredRoles]
    simp only [mem_usable_iff, true_or, and_true]
  · intro role member
    rw [consoleOnly_iff member]
    simp only [mem_usable_iff, true_or, and_true]
  · intro wider console roles more extends_ answered answered' role member
    rw [answeredBy_iff] at answered answered'
    subst answered answered'
    exact offeredRoles_wider extends_ member

/-! ## A caller whose group is spelled in two ways -/

def spelledTwice : ConfigDocument :=
  ⟨.object [("role_mappings", .object [
    ("ENG", .array [.string "deployer", .null]),
    ("Eng", .array [
      .object [("arn", .string "deployer"), ("console_only", .bool true)],
      .object [("arn", .string "viewer"), ("console_only", .bool true)]]),
    ("ops", .array [.string "viewer"]),
    ("qa", .string "tester")])], rfl⟩

/-- One of the two roles is for the console only, until another group gives it for all sessions. -/
theorem viewer_opens_up :
    AnsweredBy spelledTwice (.of "Alice" ["eng"]) true [⟨"deployer", false⟩, ⟨"viewer", true⟩] ∧
      AnsweredBy spelledTwice (.of "Alice" ["eng"]) false [⟨"deployer", false⟩] ∧
      AnsweredBy spelledTwice (.of "Alice" ["ops", "eng"]) true
        [⟨"deployer", false⟩, ⟨"viewer", false⟩] := by
  have eng : spelledTwice.roleMappings "eng" =
      [⟨"deployer", false⟩, ⟨"deployer", true⟩, ⟨"viewer", true⟩] := by
    simp only [ConfigDocument.roleMappings, Text.sameAscii_eq]
    decide +kernel
  have ops : spelledTwice.roleMappings "ops" = [⟨"viewer", false⟩] := by
    simp only [ConfigDocument.roleMappings, Text.sameAscii_eq]
    decide +kernel
  have alice : spelledTwice.roleMappings "alice" = [] := by
    simp only [ConfigDocument.roleMappings, Text.sameAscii_eq]
    decide +kernel
  have narrow : offeredRoles spelledTwice (.of "Alice" ["eng"]) true =
      [⟨"deployer", false⟩, ⟨"viewer", true⟩] := by
    have names : (Identity.of "Alice" ["eng"]).user :: (Identity.of "Alice" ["eng"]).groups.toList =
        ["alice", "eng"] := by
      decide +kernel
    simp only [offeredRoles, names, List.flatMap_cons, List.flatMap_nil, alice, eng]
    decide +kernel
  have wide : offeredRoles spelledTwice (.of "Alice" ["ops", "eng"]) true =
      [⟨"deployer", false⟩, ⟨"viewer", false⟩] := by
    have names : (Identity.of "Alice" ["ops", "eng"]).user ::
        (Identity.of "Alice" ["ops", "eng"]).groups.toList = ["alice", "eng", "ops"] := by
      decide +kernel
    simp only [offeredRoles, names, List.flatMap_cons, List.flatMap_nil, alice, eng, ops]
    decide +kernel
  obtain ⟨all, inside, outside, -⟩ :=
    eligibleRoles_merge_offers spelledTwice (.of "Alice" ["eng"])
  obtain ⟨more, wider, -⟩ := eligibleRoles_merge_offers spelledTwice (.of "Alice" ["ops", "eng"])
  obtain rfl := (answeredBy_iff.1 inside).trans narrow
  obtain rfl := (answeredBy_iff.1 wider).trans wide
  exact ⟨inside, outside, wider⟩

end Service

end AccessBroker
