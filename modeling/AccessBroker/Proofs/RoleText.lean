import AccessBroker.Proofs.PrintedText
import AccessBroker.Role.Document

/-! # Reading back a role document

The stored text of a role gives the document again, unless a number in it is a
double or its values nest deeper than a reader follows.
-/

namespace AccessBroker

namespace Json

/-! ## Values -/

theorem map_fst_ofMembers (members : List (String × Tree)) :
    (ofMembers members).map (·.1) = members.map (·.1) := by
  induction members with
  | nil => rfl
  | cons m members ih =>
    rw [ofMembers, List.map_cons, List.map_cons, ih]

theorem pairwise_ofMembers {members : List (String × Tree)}
    (ascending : members.Pairwise fun a b => a.1 < b.1) :
    (ofMembers members).Pairwise fun a b => a.1 < b.1 := by
  have names : (members.map (·.1)).Pairwise (· < ·) := List.pairwise_map.2 ascending
  rw [← map_fst_ofMembers] at names
  exact List.pairwise_map.1 names

mutual

/-- A tree in canonical form is the one of its value. -/
theorem tree_ofTree : {t : Tree} → t.Canonical → (ofTree t).tree = t
  | .null, _ => rfl
  | .bool _, _ => rfl
  | .whole _, _ => rfl
  | .double _, _ => rfl
  | .string _, _ => rfl
  | .array items, h => by
    simp only [ofTree, array, map_tree_ofTrees items fun x hx => h.item hx]
  | .object members, h => by
    simp only [ofTree, object, Table.sort_of_ascending (pairwise_ofMembers h.ascending),
      map_tree_ofMembers members fun m hm => h.member hm]

theorem map_tree_ofTrees : (items : List Tree) → (∀ x ∈ items, x.Canonical) →
    (ofTrees items).map (·.tree) = items
  | [], _ => rfl
  | x :: items, h => by
    rw [ofTrees, List.map_cons, tree_ofTree (h x (List.mem_cons_self ..)),
      map_tree_ofTrees items fun y hy => h y (List.mem_cons_of_mem _ hy)]

theorem map_tree_ofMembers : (members : List (String × Tree)) → (∀ m ∈ members, m.2.Canonical) →
    (ofMembers members).map (fun m => (m.1, m.2.tree)) = members
  | [], _ => rfl
  | m :: members, h => by
    rw [ofMembers, List.map_cons, tree_ofTree (h m (List.mem_cons_self ..)),
      map_tree_ofMembers members fun y hy => h y (List.mem_cons_of_mem _ hy)]

end

theorem ofTree_tree (j : Json) : ofTree j.tree = j :=
  ext (tree_ofTree j.canonical)

namespace Outline

mutual

/-- The outline of a tree has the value of the tree where there is room for its depth. -/
theorem value?_ofTree : (t : Tree) → (room : Nat) → t.depth ≤ room →
    (ofTree t).value? room = some (Json.ofTree t)
  | .null, _, _ => rfl
  | .bool _, _, _ => rfl
  | .whole _, _, _ => rfl
  | .double _, _, _ => rfl
  | .string _, _, _ => rfl
  | .array items, 0, h => by simp [Tree.depth] at h
  | .array items, room + 1, h => by
    have fits : Tree.depthItems items ≤ room := Nat.le_of_succ_le_succ h
    simp [ofTree, value?, Json.ofTree, values?_ofTrees items room fits]
  | .object members, 0, h => by simp [Tree.depth] at h
  | .object members, room + 1, h => by
    have fits : Tree.depthMembers members ≤ room := Nat.le_of_succ_le_succ h
    simp [ofTree, value?, Json.ofTree, memberValues?_ofMembers members room fits]

theorem values?_ofTrees : (items : List Tree) → (room : Nat) → Tree.depthItems items ≤ room →
    values? room (ofTrees items) = some (Json.ofTrees items)
  | [], _, _ => rfl
  | x :: items, room, h => by
    have fits := Nat.max_le.1 h
    simp [ofTrees, values?, Json.ofTrees, value?_ofTree x room fits.1,
      values?_ofTrees items room fits.2]

theorem memberValues?_ofMembers : (members : List (String × Tree)) → (room : Nat) →
    Tree.depthMembers members ≤ room →
    memberValues? room (ofMembers members) = some (Json.ofMembers members)
  | [], _, _ => rfl
  | (name, x) :: members, room, h => by
    have fits := Nat.max_le.1 h
    simp [ofMembers, memberValues?, Json.ofMembers, value?_ofTree x room fits.1,
      memberValues?_ofMembers members room fits.2]

end

end Outline

/-! ## Readers -/

namespace Reader

variable {α : Type} {reader : Reader α} {room : Nat}

theorem value_ofTree {j : Json} (h : j.tree.depth ≤ room) :
    Reader.value room (.ofTree j.tree) = .ok j := by
  rw [Reader.value, Outline.value?_ofTree j.tree room h, ofTree_tree]

/-- A list is read where each of its items is. -/
theorem list_ofTree (toTree : α → Tree) {as : List α}
    (h : ∀ a ∈ as, reader room (.ofTree (toTree a)) = .ok a) :
    reader.list (room + 1) (.ofTree (.array (as.map toTree))) = .ok as := by
  have each : items reader room (Outline.ofTrees (as.map toTree)) = .ok as := by
    induction as with
    | nil => rfl
    | cons a as ih =>
      rw [List.map_cons, Outline.ofTrees, items, h a (List.mem_cons_self ..),
        ih fun b hb => h b (List.mem_cons_of_mem _ hb)]
      rfl
  rw [Outline.ofTree, list, each]
  rfl

/-- A table is read where each of its values is. -/
theorem table_ofTree (toTree : α → Tree) {t : Table α}
    (h : ∀ e ∈ t.toList, reader room (.ofTree (toTree e.2)) = .ok e.2) :
    reader.table (room + 1) (.ofTree (.object (t.toList.map fun e => (e.1, toTree e.2)))) =
      .ok t := by
  have each : ∀ l : List (String × α), (∀ e ∈ l, reader room (.ofTree (toTree e.2)) = .ok e.2) →
      entries reader room (Outline.ofMembers (l.map fun e => (e.1, toTree e.2))) = .ok l := by
    intro l h
    induction l with
    | nil => rfl
    | cons e l ih =>
      rw [List.map_cons, Outline.ofMembers, entries, h e (List.mem_cons_self ..),
        ih fun b hb => h b (List.mem_cons_of_mem _ hb)]
      rfl
  rw [Outline.ofTree, table, each t.toList h]
  dsimp only [bind, Except.bind]
  rw [if_pos rfl, Table.ofList_toList]
  rfl

end Reader

/-- A record is read from an object that names its fields once each. -/
theorem Fields.reader_ofTree {α : Type} {fields : Fields α} {members : List (String × Tree)}
    {room : Nat} {a : α} (once : tidy fields.names (Outline.ofMembers members) = true)
    (built : fields.build .byName room (find? (Outline.ofMembers members)) = .ok a) :
    fields.reader (room + 1) (.ofTree (.object members)) = .ok a := by
  rw [Outline.ofTree, Fields.reader, once, built]
  rfl

/-- What is read from an object is built from its members by name. -/
theorem Fields.built_of_reader {α : Type} {fields : Fields α} {room : Nat} {closed : Bool}
    {members : List (Option String × Outline)} {a : α}
    (h : fields.reader (room + 1) (.object members closed) = .ok a) :
    fields.build .byName room (find? members) = .ok a := by
  rw [Fields.reader] at h
  split at h
  · next built => rw [built, Except.ok.inj h]
  · cases h

/-- A printed tree without doubles is read as the tree is. -/
theorem readText_text {α : Type} {reader : Reader α} {t : Tree} {a : α} (exact_ : t.exact = true)
    (read : reader maxDepth (.ofTree t) = .ok a) : readText reader t.text = .ok a := by
  rw [readText, outline_text, Outline.ofPrinted_of_exact t exact_]
  dsimp only
  rw [read]
  rfl

theorem Fields.build_and {α β : Type} {f : Fields (α → β)} {x : Fields α} {form : Form}
    {room : Nat} {get? : String → Option Outline} {b : β} :
    (f.and x).build form room get? = .ok b ↔
      ∃ g a, f.build form room get? = .ok g ∧ x.build form room get? = .ok a ∧ g a = b := by
  simp only [Fields.and]
  cases f.build form room get? with
  | error => simp [bind, Except.bind]
  | ok g => cases x.build form room get? <;> simp [bind, Except.bind, Pure.pure, Except.pure]

theorem Fields.build_required {α : Type} {name : String} {reader : Reader α} {form : Form}
    {room : Nat} {get? : String → Option Outline} {o : Outline} (here : get? name = some o) :
    (required name reader).build form room get? = reader room o := by
  simp only [required, one, here]

theorem Fields.build_optional {α : Type} {name : String} {reader : Reader α} {form : Form}
    {room : Nat} {get? : String → Option Outline} {o : Outline} (here : get? name = some o) :
    (optional name reader).build form room get? = reader.option room o := by
  simp only [optional, one, here]

theorem Tree.exact_array {α : Type} {toTree : α → Tree} (h : ∀ a, (toTree a).exact = true)
    (as : List α) : (array (as.map toTree)).exact = true := by
  show exactItems (as.map toTree) = true
  induction as with
  | nil => rfl
  | cons a as ih => rw [List.map_cons, exactItems, h a, ih]; rfl

theorem Tree.exact_object {α : Type} {toTree : α → Tree} (h : ∀ a, (toTree a).exact = true)
    (as : List (String × α)) : (object (as.map fun a => (a.1, toTree a.2))).exact = true := by
  show exactMembers (as.map fun a => (a.1, toTree a.2)) = true
  induction as with
  | nil => rfl
  | cons a as ih => rw [List.map_cons, exactMembers, h a.2, ih]; rfl

theorem Tree.depth_le_of_member {members : List (String × Tree)} {m : String × Tree}
    (h : m ∈ members) : m.2.depth ≤ depthMembers members := by
  induction members with
  | nil => cases h
  | cons x members ih =>
    rcases List.mem_cons.1 h with rfl | h
    · exact Nat.le_max_left ..
    · exact Nat.le_trans (ih h) (Nat.le_max_right ..)

end Json

/-! ## Documents -/

theorem Attachment.reader_toTree (a : Attachment) (room : Nat) :
    Attachment.fields.reader (room + 1) (.ofTree a.toTree) = .ok a :=
  Json.Fields.reader_ofTree rfl rfl

theorem Timestamp.reader_toTree (t : Timestamp) (room : Nat) :
    Timestamp.reader room (.ofTree t.toTree) = .ok t := by
  have within : -9223372036854775808 ≤ t.seconds ∧ t.seconds ≤ 9223372036854775807 :=
    ⟨t.lower, Int.le_of_lt_add_one t.upper⟩
  have same : clamp t.seconds = t := eq_of_seconds_eq (seconds_clamp t.lower t.upper)
  simp only [Timestamp.reader, Json.Reader.map, Timestamp.toTree, Json.Outline.ofTree,
    Json.Reader.integer, if_pos within, Except.map, same]

namespace RoleDocument

variable {d : RoleDocument} {room : Nat}

/-! Whatever the policies of the role are, there is room for the rest of the document. -/

theorem managedPolicies_ofTree : Json.Reader.list Attachment.fields.reader (room + 2)
    (.ofTree (.array (d.managedPolicies.map Attachment.toTree))) = .ok d.managedPolicies :=
  Json.Reader.list_ofTree Attachment.toTree fun a _ => a.reader_toTree room

theorem tags_ofTree : Json.Reader.table .text (room + 1)
    (.ofTree (.object (d.tags.toList.map fun t => (t.1, .string t.2)))) = .ok d.tags :=
  Json.Reader.table_ofTree .string fun _ _ => rfl

theorem templated_ofTree :
    Json.Reader.option .text room (.ofTree (.ofText? d.templated)) = .ok d.templated := by
  cases d.templated <;> rfl

theorem reader_toTree (h : d.toTree.depth ≤ room + 3) :
    RoleDocument.reader (room + 3) (.ofTree d.toTree) = .ok d := by
  simp only [toTree, Json.Tree.depth, Json.Tree.depthMembers] at h
  have trust : Json.Reader.value (room + 2) (.ofTree d.trustPolicy.tree) = .ok d.trustPolicy :=
    Json.Reader.value_ofTree (by omega)
  have inline : Json.Reader.table .value (room + 2)
      (.ofTree (.object (d.inlinePolicies.toList.map fun p => (p.1, p.2.tree)))) =
        .ok d.inlinePolicies := by
    refine Json.Reader.table_ofTree Json.tree fun e he => Json.Reader.value_ofTree ?_
    have inside := Json.Tree.depth_le_of_member
      (List.mem_map_of_mem (f := fun p => (p.1, p.2.tree)) he)
    dsimp only at inside
    omega
  -- Each name is looked up among the ten members, and its reader finds what was written.
  refine Json.Fields.reader_ofTree rfl ?_
  simp only [fields, Json.Fields.and, Json.Fields.pure, Json.Fields.required, Json.Fields.optional,
    Json.Fields.one, Json.Fields.find?, Json.Outline.ofMembers, List.lookup_cons,
    Option.some_beq_some, String.reduceBEq, beq_self_eq_true, trust, inline, managedPolicies_ofTree,
    tags_ofTree, templated_ofTree, d.fetchedAt.reader_toTree]
  rfl

/-- Reading the stored text gives the document again. -/
theorem ofPolicyText_policyText (exact_ : d.toTree.exact = true)
    (fits : d.toTree.depth ≤ Json.maxDepth) : ofPolicyText d.policyText = .ok d := by
  have read : Json.readText reader d.toTree.text = .ok d :=
    Json.readText_text exact_ (reader_toTree fits)
  rw [ofPolicyText, policyText, read]

/-- Each part of a document is what its field says. -/
theorem parts_of_build {form : Json.Form} {get? : String → Option Json.Outline}
    (h : fields.build form room get? = .ok d) :
    (Json.Fields.required "arn" .text).build form room get? = .ok d.arn ∧
    (Json.Fields.required "account_id" .text).build form room get? = .ok d.account ∧
    (Json.Fields.required "role_name" .text).build form room get? = .ok d.roleName ∧
    (Json.Fields.required "role_id" .text).build form room get? = .ok d.roleId ∧
    (Json.Fields.required "managed_policies" (.list Attachment.fields.reader)).build form room get? =
      .ok d.managedPolicies ∧
    (Json.Fields.required "tags" (.table .text)).build form room get? = .ok d.tags ∧
    (Json.Fields.optional "templated" .text).build form room get? = .ok d.templated ∧
    (Json.Fields.required "fetched_at" Timestamp.reader).build form room get? = .ok d.fetchedAt := by
  simp only [fields, Json.Fields.build_and] at h
  obtain ⟨_, _, ⟨_, _, ⟨_, _, ⟨_, _, ⟨_, _, ⟨_, _, ⟨_, _, ⟨_, _, ⟨_, _, ⟨make, _, first, arn, rfl⟩,
    account, rfl⟩, name, rfl⟩, id, rfl⟩, -, rfl⟩, -, rfl⟩, managed, rfl⟩, tags, rfl⟩, templated, rfl⟩,
    fetchedAt, rfl⟩ := h
  cases first
  exact ⟨arn, account, name, id, managed, tags, templated, fetchedAt⟩

theorem printed_of_policyText {read : RoleDocument} (h : ofPolicyText d.policyText = .ok read) :
    reader Json.maxDepth (.ofPrinted d.toTree) = .ok read := by
  have text : Json.readText reader d.policyText = .ok read := by
    unfold ofPolicyText at h
    split at h
    · next found => rw [found, Except.ok.inj h]
    · cases h
  rw [Json.readText, policyText, Json.outline_text] at text
  dsimp only at text
  split at text
  · next found => rw [found, ← text]; rfl
  · cases text

/-- Whatever becomes of its doubles, a document that is read back differs from the one that was
written in its policies at most. -/
theorem eq_of_policyText {read : RoleDocument} (h : ofPolicyText d.policyText = .ok read) :
    read = { d with trustPolicy := read.trustPolicy, inlinePolicies := read.inlinePolicies } := by
  have object := printed_of_policyText h
  rw [reader, Json.maxDepth, toTree, Json.Outline.ofPrinted] at object
  obtain ⟨arn, account, name, id, managed, tags, templated, fetchedAt⟩ :=
    parts_of_build (Json.Fields.built_of_reader object)
  -- Every field is in its place, and its reader finds what was written.
  rw [Json.Fields.build_required rfl] at arn account name id managed tags fetchedAt
  rw [Json.Fields.build_optional rfl] at templated
  rw [Json.Outline.ofPrinted_of_exact _ (Json.Tree.exact_array (fun _ => rfl) _),
    managedPolicies_ofTree] at managed
  rw [Json.Outline.ofPrinted_of_exact _ (Json.Tree.exact_object (fun _ => rfl) _),
    tags_ofTree] at tags
  rw [Json.Outline.ofPrinted_of_exact _ (by cases d.templated <;> rfl), templated_ofTree] at templated
  rw [Json.Outline.ofPrinted_of_exact _ rfl, d.fetchedAt.reader_toTree] at fetchedAt
  cases read
  cases arn
  cases account
  cases name
  cases id
  cases managed
  cases tags
  cases templated
  cases fetchedAt
  rfl

theorem fetchedAt_of_policyText {read : RoleDocument} (h : ofPolicyText d.policyText = .ok read) :
    read.fetchedAt = d.fetchedAt := by
  rw [eq_of_policyText h]

end RoleDocument

end AccessBroker
