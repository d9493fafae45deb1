import AccessBroker.Cache.Entries
import AccessBroker.Proofs.RoleText
import AccessBroker.Proofs.TargetKeys

/-! # The entries of a server

Each entry stands under a text that is joined at colons.  The names of users and
of roles may have colons of their own, and still no two entries have one text.
What is kept is printed, and it reads back as it was, unless a number in it is a
double or its values nest deeper than a reader follows.
-/

namespace AccessBroker

theorem RoleKey.isAccount_account (k : RoleKey) : isAccount k.account = true := by
  have accepted := k.wellFormed
  unfold refusal? at accepted
  split at accepted
  · cases accepted
  · next form => simpa using form

theorem RoleKey.colon_not_mem_account (k : RoleKey) : ':' ∉ k.account.toList := by
  intro colon
  have digits : k.account.toList.all Char.isDigit = true := by
    have form := k.isAccount_account
    simp only [isAccount, Bool.and_eq_true] at form
    exact form.2
  have digit := List.all_eq_true.1 digits ':' colon
  exact absurd digit (by decide)

namespace Cache

/-! ## Where entries stand -/

/-- What an entry is of: a role, the configuration, or the roles of a user whose name is in lower
case. -/
inductive Slot where
  | role (key : RoleKey)
  | config
  | eligible (name : String) (console : Bool)
deriving DecidableEq

namespace Slot

def text (space : String) : Slot → String
  | role key => roleKey space key
  | config => configKey space
  | eligible name console => s!"{space}:eligible:{name}:console_only={console}"

variable {space : String}

/-! What stands behind the space tells entries apart. -/

theorem toList_text_role (key : RoleKey) :
    (text space (role key)).toList =
      space.toList ++ (":role:".toList ++ (key.account ++ ":" ++ key.arn).toList) := by
  simp [text, roleKey, toString, String.toList_append]

theorem toList_text_config :
    (text space config).toList = space.toList ++ ":dynamic-config".toList := by
  simp [text, configKey, toString, String.toList_append]

theorem toList_text_eligible (name : String) (console : Bool) :
    (text space (eligible name console)).toList = space.toList ++
      (":eligible:".toList ++ (name ++ ":console_only=" ++ toString console).toList) := by
  simp [text, toString, String.toList_append]

theorem text_role_inj {a b : RoleKey} : text space (role a) = text space (role b) ↔ a = b := by
  constructor
  · intro same
    have joined : a.account ++ ":" ++ a.arn = b.account ++ ":" ++ b.arn := by
      simpa only [← String.toList_inj, toList_text_role, List.append_cancel_left_eq] using same
    rcases Text.joined_eq_iff.1 joined with ⟨account, arn⟩ | ⟨x, account, -⟩ | ⟨x, account, -⟩
    · exact RoleKey.eq_of_parts account arn
    · exact absurd (by simp [account, String.toList_append]) b.colon_not_mem_account
    · exact absurd (by simp [account, String.toList_append]) a.colon_not_mem_account
  · rintro rfl
    rfl

theorem text_eligible_inj {name name' : String} {console console' : Bool} :
    text space (eligible name console) = text space (eligible name' console') ↔
      name = name' ∧ console = console' := by
  constructor
  · intro same
    have rest : (name ++ ":console_only=" ++ toString console).toList =
        (name' ++ ":console_only=" ++ toString console').toList := by
      simpa only [← String.toList_inj, toList_text_eligible, List.append_cancel_left_eq] using same
    -- Read from its end, the text tells the kind of session before it comes to the name.
    have backwards := congrArg List.reverse rest
    cases console <;> cases console' <;> simp [toString, String.toList_append] at backwards
    · exact ⟨String.toList_inj.1 backwards, rfl⟩
    · exact ⟨String.toList_inj.1 backwards, rfl⟩
  · rintro ⟨rfl, rfl⟩
    rfl

/-- No two entries stand under one text. -/
theorem text_inj {a b : Slot} : text space a = text space b ↔ a = b := by
  cases a with
  | role key =>
    cases b with
    | role key' => rw [text_role_inj, role.injEq]
    | config => simp [← String.toList_inj, toList_text_role, toList_text_config]
    | eligible => simp [← String.toList_inj, toList_text_role, toList_text_eligible]
  | config =>
    cases b with
    | role => simp [← String.toList_inj, toList_text_config, toList_text_role]
    | config => simp
    | eligible => simp [← String.toList_inj, toList_text_config, toList_text_eligible]
  | eligible name console =>
    cases b with
    | role => simp [← String.toList_inj, toList_text_eligible, toList_text_role]
    | config => simp [← String.toList_inj, toList_text_eligible, toList_text_config]
    | eligible name' console' => rw [text_eligible_inj, eligible.injEq]

end Slot

end Cache

/-! ## What is kept there -/

/-- What is printed of the tree reads back: no number in it is a double, and it nests no deeper than
a reader follows. -/
structure Json.Tree.ReadsBack (t : Json.Tree) : Prop where
  exact_ : t.exact = true
  fits : t.depth ≤ Json.maxDepth

theorem FastEntry.reader_toTree {e : FastEntry} (fits : e.toTree.depth ≤ Json.maxDepth) :
    FastEntry.fields.reader Json.maxDepth (.ofTree e.toTree) = .ok e := by
  simp only [FastEntry.toTree, Json.Tree.depth, Json.Tree.depthMembers, Json.maxDepth] at fits
  have role : RoleDocument.reader 126 (.ofTree e.role.toTree) = .ok e.role :=
    RoleDocument.reader_toTree (by omega)
  have cachedAt : Timestamp.reader 126 (.ofTree e.cachedAt.toTree) = .ok e.cachedAt :=
    e.cachedAt.reader_toTree 126
  refine Json.Fields.reader_ofTree rfl ?_
  simp only [fields, Json.Fields.and, Json.Fields.pure, Json.Fields.required, Json.Fields.one,
    Json.Fields.find?, Json.Outline.ofMembers, List.lookup_cons, Option.some_beq_some,
    String.reduceBEq, beq_self_eq_true, role, cachedAt]
  rfl

theorem ConfigVersion.reader_toTree {v : ConfigVersion} (fits : v.toTree.depth ≤ Json.maxDepth) :
    ConfigVersion.fields.reader Json.maxDepth (.ofTree v.toTree) = .ok v := by
  simp only [ConfigVersion.toTree, Json.Tree.depth, Json.Tree.depthMembers, Json.maxDepth] at fits
  have value : Json.Reader.value 126 (.ofTree v.document.json.tree) = .ok v.document.json :=
    Json.Reader.value_ofTree (by omega)
  have isDocument : ConfigDocument.ofJson v.document.json = .ok v.document :=
    dif_pos v.document.isObject
  have document : Json.Reader.refine .value (fun j => (ConfigDocument.ofJson j).toOption) 126
      (.ofTree v.document.json.tree) = .ok v.document := by
    rw [Json.Reader.refine, value]
    simp only [isDocument, Except.toOption]
  have updatedAt : Timestamp.reader 126 (.ofTree v.updatedAt.toTree) = .ok v.updatedAt :=
    v.updatedAt.reader_toTree 126
  refine Json.Fields.reader_ofTree rfl ?_
  simp only [fields, Json.Fields.and, Json.Fields.pure, Json.Fields.required, Json.Fields.one,
    Json.Fields.find?, Json.Outline.ofMembers, List.lookup_cons, Option.some_beq_some,
    String.reduceBEq, beq_self_eq_true, document, updatedAt]
  rfl

def RoleMapping.listText (roles : List RoleMapping) : String :=
  (Json.Tree.array (roles.map (·.toTree))).text

theorem RoleMapping.reader_toTree (m : RoleMapping) (room : Nat) :
    RoleMapping.fields.reader (room + 1) (.ofTree m.toTree) = .ok m :=
  Json.Fields.reader_ofTree rfl rfl

namespace Cache

theorem readText_role {e : FastEntry} (h : e.toTree.ReadsBack) :
    Json.readText FastEntry.fields.reader e.toTree.text = .ok e :=
  Json.readText_text h.exact_ (FastEntry.reader_toTree h.fits)

theorem readText_config {v : ConfigVersion} (h : v.toTree.ReadsBack) :
    Json.readText ConfigVersion.fields.reader v.toTree.text = .ok v :=
  Json.readText_text h.exact_ (ConfigVersion.reader_toTree h.fits)

/-- Eligible roles have neither numbers nor depth. -/
theorem readText_eligible (roles : List RoleMapping) :
    Json.readText (.list RoleMapping.fields.reader) (RoleMapping.listText roles) = .ok roles :=
  Json.readText_text (Json.Tree.exact_array (fun _ => rfl) roles)
    (Json.Reader.list_ofTree RoleMapping.toTree fun m _ => m.reader_toTree 125)

/-- A value that was printed, if there is one, is found again. -/
theorem decode_printed {α : Type} {reader : Json.Reader α} {print : α → String} {found : Option α}
    (failure : String) (reads : ∀ a, found = some a → Json.readText reader (print a) = .ok a) :
    decode reader failure (found.map print) = .ok found := by
  cases found with
  | none => rfl
  | some a =>
    have read := reads a rfl
    simp only [Option.map_some, decode, read]

end Cache

end AccessBroker
