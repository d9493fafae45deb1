import AccessBroker.Proofs.ConfigHistory
import AccessBroker.Proofs.StoredEntries

/-! # The one text of a configuration

A document without doubles is printed as no other document is, so its digest
tells it from all others whose digests are not the same by accident.  In which
order a text names the members of its objects leaves no trace in the document.
-/

namespace AccessBroker

/-! ## Texts tell values apart -/

theorem Text.toList_loop (bytes : ByteArray) (i : Nat) (read : List UInt8) :
    ByteArray.toList.loop bytes i read = read.reverse ++ bytes.data.toList.drop i := by
  fun_induction ByteArray.toList.loop bytes i read with
  | case1 i read inside ih =>
    have here : i < bytes.data.toList.length := inside
    rw [ih, List.drop_eq_getElem_cons here]
    simp [ByteArray.get!, inside]
  | case2 i read outside =>
    have past : bytes.data.toList.length ≤ i := Nat.le_of_not_lt outside
    rw [List.drop_eq_nil_of_le past, List.append_nil]

/-- Different texts have different bytes. -/
theorem Text.bytes_inj {s t : String} : s.toUTF8.toList = t.toUTF8.toList ↔ s = t := by
  constructor
  · intro same
    have data : s.toUTF8.data.toList = t.toUTF8.data.toList := by
      simpa [ByteArray.toList, toList_loop] using same
    exact String.toByteArray_inj.1 (ByteArray.ext (Array.toList_inj.1 data))
  · intro same
    rw [same]

namespace Json

/-- The value of an outline is the value that was outlined, whatever its depth. -/
theorem eq_of_ofTree {a b : Json} (same : Outline.ofTree a.tree = Outline.ofTree b.tree) :
    a = b := by
  have value (j : Json) (fits : j.tree.depth ≤ max a.tree.depth b.tree.depth) :
      (Outline.ofTree j.tree).value? (max a.tree.depth b.tree.depth) = some j := by
    rw [Outline.value?_ofTree j.tree _ fits, ofTree_tree]
  have first := value a (Nat.le_max_left ..)
  rw [same, value b (Nat.le_max_right ..)] at first
  exact (Option.some.inj first).symm

/-- Values without doubles have different texts. -/
theorem print_inj {a b : Json} (ha : a.tree.exact = true) (hb : b.tree.exact = true) :
    a.print = b.print ↔ a = b := by
  constructor
  · intro same
    have outlines : outline a.tree.text.toList = outline b.tree.text.toList := by
      rw [print, print] at same
      rw [same]
    rw [outline_text, outline_text, Outline.ofPrinted_of_exact _ ha,
      Outline.ofPrinted_of_exact _ hb] at outlines
    exact eq_of_ofTree (Prod.mk.inj outlines).1
  · intro same
    rw [same]

namespace Tree

mutual

/-- Trees without doubles are equal as values only if they are the same. -/
theorem eq_of_same : (a b : Tree) → a.exact = true → a.same b = true → a = b
  | .null, b, _, h => by cases b <;> simp [same] at h ⊢
  | .bool _, b, _, h => by cases b <;> simp [same] at h ⊢; exact h
  | .whole ⟨_, _, _⟩, b, _, h => by
    cases b with
    | whole w => cases w; simpa [same] using h
    | _ => simp [same] at h
  | .string _, b, _, h => by cases b <;> simp [same] at h ⊢; exact h
  | .array items, b, exact_, h => by
    cases b with
    | array others => rw [eq_of_sameItems items others exact_ h]
    | _ => simp [same] at h
  | .object members, b, exact_, h => by
    cases b with
    | object others => rw [eq_of_sameMembers members others exact_ h]
    | _ => simp [same] at h

theorem eq_of_sameItems : (items others : List Tree) → exactItems items = true →
    sameItems items others = true → items = others
  | [], [], _, _ => rfl
  | x :: items, y :: others, exact_, h => by
    simp only [exactItems, sameItems, Bool.and_eq_true] at exact_ h
    rw [eq_of_same x y exact_.1 h.1, eq_of_sameItems items others exact_.2 h.2]

theorem eq_of_sameMembers : (members others : List (String × Tree)) → exactMembers members = true →
    sameMembers members others = true → members = others
  | [], [], _, _ => rfl
  | (name, x) :: members, (other, y) :: others, exact_, h => by
    simp only [exactMembers, sameMembers, Bool.and_eq_true, beq_iff_eq] at exact_ h
    rw [h.1.1, eq_of_same x y exact_.1 h.1.2, eq_of_sameMembers members others exact_.2 h.2]

end

end Tree

/-- Values without doubles are compared as they are. -/
theorem same_iff {a b : Json} (exact_ : a.tree.exact = true) : a.same b = true ↔ a = b := by
  constructor
  · intro h
    exact ext (Tree.eq_of_same _ _ exact_ h)
  · intro h
    rw [h, same, Tree.same_self]

/-! ## The order of members -/

namespace Outline

mutual

/-- The objects of the outline have their members in another order, at any depth.  Members of one
name keep theirs: of these the last one counts. -/
inductive Reordered : Outline → Outline → Prop where
  | refl (o : Outline) : Reordered o o
  | array {items others : List Outline} (each : ReorderedItems items others) (closed : Bool) :
      Reordered (.array items closed) (.array others closed)
  | object {members others : List (Option String × Outline)}
      (each : ReorderedMembers members others) (closed : Bool) :
      Reordered (.object members closed) (.object others closed)

inductive ReorderedItems : List Outline → List Outline → Prop where
  | nil : ReorderedItems [] []
  | cons {o o' : Outline} {items others : List Outline} (first : Reordered o o')
      (rest : ReorderedItems items others) : ReorderedItems (o :: items) (o' :: others)

inductive ReorderedMembers :
    List (Option String × Outline) → List (Option String × Outline) → Prop where
  | nil : ReorderedMembers [] []
  | cons {o o' : Outline} {members others : List (Option String × Outline)} (name : Option String)
      (first : Reordered o o') (rest : ReorderedMembers members others) :
      ReorderedMembers ((name, o) :: members) ((name, o') :: others)
  | swap {m n : Option String × Outline} (apart : m.1 ≠ n.1)
      (members : List (Option String × Outline)) :
      ReorderedMembers (m :: n :: members) (n :: m :: members)
  | trans {members others more : List (Option String × Outline)}
      (first : ReorderedMembers members others) (next : ReorderedMembers others more) :
      ReorderedMembers members more

end

def tableOf (room : Nat) (members : List (Option String × Outline)) (t : Table Json) :
    Option (Table Json) :=
  (memberValues? room members).map fun entries => entries.foldl (fun t m => t.insert m.1 m.2) t

/-- The entry that one member makes. -/
def member? (room : Nat) (m : Option String × Outline) : Option (String × Json) :=
  m.1.bind fun name => (m.2.value? room).map (name, ·)

theorem name_of_member? {room : Nat} {m : Option String × Outline} {e : String × Json}
    (h : member? room m = some e) : m.1 = some e.1 := by
  obtain ⟨name, named, made⟩ := Option.bind_eq_some_iff.1 h
  obtain ⟨v, -, same⟩ := Option.map_eq_some_iff.1 made
  rw [named, ← same]

theorem tableOf_cons (room : Nat) (m : Option String × Outline)
    (members : List (Option String × Outline)) (t : Table Json) :
    tableOf room (m :: members) t =
      (member? room m).bind fun e => tableOf room members (t.insert e.1 e.2) := by
  obtain ⟨name, o⟩ := m
  cases name with
  | none => rfl
  | some name =>
    rw [tableOf, memberValues?]
    cases value : o.value? room with
    | none => simp [member?, value]
    | some v => simp [member?, value, tableOf, Function.comp_def]

/-- An object is made of the table of its members. -/
theorem map_object (room : Nat) (members : List (Option String × Outline)) :
    (memberValues? room members).map Json.object =
      (tableOf room members .empty).map fun t => Json.object t.toList := by
  rw [tableOf, Option.map_map]
  congr 1
  funext entries
  have sorted : (entries.foldl (fun t m => t.insert m.1 m.2) Table.empty).toList =
      Table.sort entries := Table.toList_foldl_insert entries .empty
  rw [Function.comp_apply, sorted]
  apply Json.ext
  simp only [Json.object, Table.sort_of_ascending (Table.pairwise_sort entries)]

/-- Members put the same into a table in whatever order two neighbours of different names come. -/
theorem tableOf_swap (room : Nat) {m n : Option String × Outline} (apart : m.1 ≠ n.1)
    (members : List (Option String × Outline)) (t : Table Json) :
    tableOf room (m :: n :: members) t = tableOf room (n :: m :: members) t := by
  rw [tableOf_cons, tableOf_cons]
  simp only [tableOf_cons]
  cases first : member? room m with
  | none => cases member? room n <;> rfl
  | some e =>
    cases second : member? room n with
    | none => rfl
    | some e' =>
      have differ : e.1 ≠ e'.1 := by
        intro same
        exact apart (by rw [name_of_member? first, name_of_member? second, same])
      simp only [Option.bind_some]
      rw [t.insert_comm differ]

mutual

theorem Reordered.value? : {o o' : Outline} → Reordered o o' → (room : Nat) →
    o.value? room = o'.value? room
  | _, _, .refl _, _ => rfl
  | _, _, .array _ _, 0 => rfl
  | _, _, .array each closed, room + 1 => by
    rw [Outline.value?, Outline.value?, each.values? room]
  | _, _, .object _ _, 0 => rfl
  | _, _, .object each closed, room + 1 => by
    rw [Outline.value?, Outline.value?, map_object, map_object, each.tableOf room .empty]

theorem ReorderedItems.values? : {items others : List Outline} → ReorderedItems items others →
    (room : Nat) → Outline.values? room items = Outline.values? room others
  | _, _, .nil, _ => rfl
  | _, _, .cons first rest, room => by
    rw [Outline.values?, Outline.values?, first.value? room, rest.values? room]

theorem ReorderedMembers.tableOf : {members others : List (Option String × Outline)} →
    ReorderedMembers members others → (room : Nat) → (t : Table Json) →
    Outline.tableOf room members t = Outline.tableOf room others t
  | _, _, .nil, _, _ => rfl
  | _, _, .cons _ first rest, room, t => by
    rw [tableOf_cons, tableOf_cons, member?, member?, first.value? room]
    simp only [rest.tableOf room]
  | _, _, .swap apart members, room, t => tableOf_swap room apart members t
  | _, _, .trans first next, room, t => (first.tableOf room t).trans (next.tableOf room t)

end

end Outline

/-- One text names the members of its objects in another order than the other does. -/
def SameButOrder (s t : String) : Prop :=
  (outline s.toList).1.Reordered (outline t.toList).1 ∧
    (outline s.toList).2 = (outline t.toList).2

theorem parse_of_sameButOrder {s t : String} (h : SameButOrder s t) : parse s = parse t := by
  obtain ⟨reordered, ended⟩ := h
  unfold parse
  rcases first : outline s.toList with ⟨o, done⟩
  rcases second : outline t.toList with ⟨o', done'⟩
  rw [first, second] at reordered ended
  cases ended
  cases done with
  | false => rfl
  | true => exact reordered.value? maxDepth

/-- A value without doubles that does not nest too deep is read back from its text. -/
theorem parse_print {j : Json} (h : j.tree.ReadsBack) : parse j.print = some j := by
  rw [parse, print, outline_text, Outline.ofPrinted_of_exact _ h.exact_]
  dsimp only
  rw [Outline.value?_ofTree j.tree maxDepth h.fits, ofTree_tree]

end Json

/-! ## Documents -/

/-- The bytes do not have one digest by accident. -/
def Sha256.TellsApart (x y : List UInt8) : Prop :=
  hex x = hex y → x = y

def ConfigVersion.Honest (v : ConfigVersion) : Prop :=
  v.checksum = v.document.checksum

namespace ConfigDocument

variable {a b : ConfigDocument}

def Exact (d : ConfigDocument) : Prop :=
  d.json.tree.exact = true

theorem json_inj : a.json = b.json ↔ a = b := by
  constructor
  · intro same
    cases a
    cases b
    cases same
    rfl
  · intro same
    rw [same]

theorem canonicalBytes_inj (ha : a.Exact) (hb : b.Exact) :
    a.canonicalBytes = b.canonicalBytes ↔ a = b := by
  rw [canonicalBytes, canonicalBytes, Text.bytes_inj, canonicalText, canonicalText,
    Json.print_inj ha hb, json_inj]

theorem checksum_inj (ha : a.Exact) (hb : b.Exact)
    (apart : Sha256.TellsApart a.canonicalBytes b.canonicalBytes) :
    a.checksum = b.checksum ↔ a = b := by
  constructor
  · intro same
    exact (canonicalBytes_inj ha hb).1 (apart same)
  · intro same
    rw [same]

theorem same_iff (ha : a.Exact) : a.same b = true ↔ a = b := by
  rw [same, Json.same_iff ha, json_inj]

theorem parse_of_sameButOrder {s t : String} (h : Json.SameButOrder s t) : parse s = parse t := by
  rw [parse, parse, Json.parse_of_sameButOrder h]

theorem parse_canonicalText {d : ConfigDocument} (h : d.json.tree.ReadsBack) :
    parse d.canonicalText = .ok d := by
  rw [parse, canonicalText, Json.parse_print h]
  exact dif_pos d.isObject

end ConfigDocument

/-! ## The guards of a write -/

namespace ConfigVersion

variable {v : ConfigVersion} {d known : ConfigDocument} {author : String} {clock : Instant}

/-- A document is found unchanged exactly if it has the checksum that is stored. -/
theorem Honest.same_iff (honest : v.Honest) (stored : v.document.Exact) (exact_ : d.Exact)
    (apart : Sha256.TellsApart v.document.canonicalBytes d.canonicalBytes) :
    v.document.same d = true ↔ v.checksum = d.checksum := by
  rw [honest, ConfigDocument.checksum_inj stored exact_ apart, ConfigDocument.same_iff stored]

/-- Who names the checksum of a document that it knows writes over that document and no other, and
only something else. -/
theorem Honest.planWrite_iff (honest : v.Honest) (stored : v.document.Exact)
    (exact_ : known.Exact)
    (apart : Sha256.TellsApart v.document.canonicalBytes known.canonicalBytes) :
    (∃ write, Service.planWrite (some v) d (some known.checksum) author clock = .ok write) ↔
      v.document = known ∧ known ≠ d := by
  have current : v.checksum = known.checksum ↔ v.document = known := by
    rw [honest, ConfigDocument.checksum_inj stored exact_ apart]
  constructor
  · intro ⟨write, planned⟩
    obtain ⟨expected, changes, -, -⟩ := Service.planWrite_eq_ok planned
    have here : v.document = known := current.1 (by simpa using expected)
    have differs := changes v rfl
    refine ⟨here, ?_⟩
    intro unchanged
    rw [here, unchanged, ConfigDocument.same, Json.same, Json.Tree.same_self] at differs
    cases differs
  · intro ⟨here, changes⟩
    have differs : v.document.same d = false := by
      rw [Bool.eq_false_iff]
      intro unchanged
      rw [ConfigDocument.same_iff stored, here] at unchanged
      exact changes unchanged
    simp [Service.planWrite, current.2 here, differs]

end ConfigVersion

namespace ConfigTable

variable {t : ConfigTable} {v row : ConfigVersion} {committed : List ConfigVersion} {id : String}

theorem mem_contents (here : t.find? id = some row) : row.content ∈ t.contents := by
  have entry : (id, row) ∈ t.rows.toList := Table.mem_toList_iff.2 here
  exact List.mem_map_of_mem entry

/-- A table that holds honest versions has honest rows. -/
theorem Holds.honest (holds : t.Holds committed) (honest : ∀ v ∈ committed, v.Honest)
    (here : t.find? id = some row) : row.Honest := by
  have content : row.content.Honest := honest _ (holds.all.mem_iff.1 (mem_contents here))
  exact content

end ConfigTable

theorem ConfigCall.honest_of_commits {setup : Setup} {w : World} {c : ConfigCall} {v : ConfigVersion}
    (h : v ∈ c.commits setup w) : v.Honest := by
  cases c with
  | read => cases h
  | refresh => cases h
  | write document expected author =>
    simp only [commits] at h
    split at h
    · rw [List.mem_singleton.1 h]
      rfl
    · cases h

/-- Whatever services write, what they commit goes with the digest of its document. -/
theorem Fleet.Run.honest {ι τ : Type} {tier : ι → τ} {start f : Fleet ι τ}
    {committed : List ConfigVersion} [DecidableEq ι] [DecidableEq τ]
    (run : Run tier start f committed) : ∀ v ∈ committed, v.Honest := by
  induction run with
  | start => exact List.forall_mem_nil _
  | call _ i setup around answers c ih =>
    intro v hv
    rcases List.mem_append.1 hv with before | now
    · exact ih v before
    · exact ConfigCall.honest_of_commits now

/-- Documents without doubles have the same bytes only if they are the same, so the checksum of a
version tells whether it is of a document, and both guards of a write say the same of it: what
services write goes with its checksum in every run.  Neither the order of members in a text nor
printing and reading a document change it. -/
theorem ConfigDocument.told_by_checksum :
    (∀ a b : ConfigDocument, a.Exact → b.Exact → (a.canonicalBytes = b.canonicalBytes ↔ a = b)) ∧
    (∀ (v : ConfigVersion) (d : ConfigDocument), v.Honest → v.document.Exact → d.Exact →
      Sha256.TellsApart v.document.canonicalBytes d.canonicalBytes →
      (v.document.same d = true ↔ v.checksum = d.checksum) ∧
      ∀ (document : ConfigDocument) (author : String) (clock : Instant),
        (∃ write, Service.planWrite (some v) document (some d.checksum) author clock = .ok write) ↔
          v.document = d ∧ d ≠ document) ∧
    (∀ {ι τ : Type} [DecidableEq ι] [DecidableEq τ] (tier : ι → τ) (start f : Fleet ι τ)
      (committed : List ConfigVersion), Fleet.Run tier start f committed → start.table = .empty →
      ∀ id v, f.table.find? id = some v → v.Honest) ∧
    (∀ s t : String, Json.SameButOrder s t → parse s = parse t) ∧
    ∀ d : ConfigDocument, d.json.tree.ReadsBack →
      parse d.canonicalText = .ok d ∧
      (parse d.canonicalText).map canonicalText = .ok d.canonicalText := by
  refine ⟨?_, ?_, ?_, ?_, ?_⟩
  · intro a b ha hb
    exact canonicalBytes_inj ha hb
  · intro v d honest stored exact_ apart
    refine ⟨honest.same_iff stored exact_ apart, ?_⟩
    intro document author clock
    exact honest.planWrite_iff stored exact_ apart
  · intro ι τ _ _ tier start f committed run empty id v here
    exact (run.holds empty).honest run.honest here
  · intro s t h
    exact parse_of_sameButOrder h
  · intro d h
    have read := parse_canonicalText h
    refine ⟨read, ?_⟩
    rw [read]
    rfl

def Json.nestedText : String :=
  "\x7b\"a\": 1, \"b\": \x7b\"c\": 2, \"d\": 3\x7d\x7d"

def Json.turnedText : String :=
  "\x7b\"b\": \x7b\"d\": 3, \"c\": 2\x7d, \"a\": 1\x7d"

def ConfigDocument.nested : ConfigDocument :=
  ⟨.object [("a", .whole (.clamp 1)),
    ("b", .object [("c", .whole (.clamp 2)), ("d", .whole (.clamp 3))])], rfl⟩

theorem Json.sameButOrder_nestedText : SameButOrder nestedText turnedText := by
  let one (n : Int) : Outline := .number (some (.whole (.clamp n)))
  have nested : outline nestedText.toList = (.object [(some "a", one 1),
      (some "b", .object [(some "c", one 2), (some "d", one 3)] true)] true, true) := by
    with_unfolding_all rfl
  have turned : outline turnedText.toList = (.object [
      (some "b", .object [(some "d", one 3), (some "c", one 2)] true), (some "a", one 1)] true,
      true) := by
    with_unfolding_all rfl
  rw [SameButOrder, nested, turned]
  refine ⟨.object (.trans (.swap (by decide) []) ?_) true, rfl⟩
  exact .cons _ (.object (.swap (by decide) []) true) (.cons _ (.refl _) .nil)

/-- The first configuration is empty.  Who knows it may write the nested one, whose text in another
order is no other document; who names the checksum of the nested one may not. -/
theorem ConfigDocument.nested_told_by_checksum :
    parse Json.nestedText = .ok nested ∧ parse Json.turnedText = .ok nested ∧
    parse nested.canonicalText = .ok nested ∧ empty.checksum ≠ nested.checksum ∧
    (∃ write, Service.planWrite (some (.written empty "root" default)) nested
      (some empty.checksum) "root" default = .ok write) ∧
    ¬ ∃ write, Service.planWrite (some (.written empty "root" default)) nested
      (some nested.checksum) "root" default = .ok write := by
  obtain ⟨-, guards, -, orders, reads⟩ := told_by_checksum
  have apart : empty.checksum ≠ nested.checksum := by decide +kernel
  have differ : empty ≠ nested := by decide
  have known := (guards (.written empty "root" default) empty rfl rfl rfl fun _ => rfl).2
  have unknown := (guards (.written empty "root" default) nested rfl rfl rfl
    fun same => absurd same apart).2
  have value : Json.parse Json.nestedText = some nested.json := by decide +kernel
  have read : parse Json.nestedText = .ok nested := by
    rw [parse, value]
    rfl
  refine ⟨read, ?_, (reads nested ⟨rfl, by decide⟩).1, apart, ?_, ?_⟩
  · rw [← orders _ _ Json.sameButOrder_nestedText, read]
  · exact (known nested "root" default).2 ⟨rfl, differ⟩
  · intro written
    exact differ ((unknown nested "root" default).1 written).1

end AccessBroker
