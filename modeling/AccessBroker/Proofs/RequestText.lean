import AccessBroker.Proofs.NotedPolicies
import AccessBroker.Proofs.StoredEntries

/-! # Reading back a request

What a request asks for is one of two forms, and a change of policies one of two
more; each is written with a tag that tells which.  The tag comes first, and
whatever the other members hold, it is found again.  Only a policy that is noted
as null would not be read back; no request that is stored or read notes it so.
-/

namespace AccessBroker

namespace Json

variable {α : Type} {room : Nat}

/-! ## Values that may be missing -/

/-- Only what is written as null is taken for missing. -/
theorem Reader.option_of_ne_null {reader : Reader α} {o : Outline} (h : o ≠ .null) :
    reader.option room o = (reader room o).map some := by
  cases o with
  | null => exact absurd rfl h
  | _ => rfl

theorem Outline.ofTree_ne_null {t : Tree} (h : t ≠ .null) : ofTree t ≠ .null := by
  cases t with
  | null => exact absurd rfl h
  | _ => exact nofun

theorem Reader.option_ofTree {reader : Reader α} (toTree : α → Tree) {value : Option α}
    (h : ∀ a, value = some a → toTree a ≠ .null ∧ reader room (.ofTree (toTree a)) = .ok a) :
    reader.option room (.ofTree ((value.map toTree).getD .null)) = .ok value := by
  cases value with
  | none => rfl
  | some a =>
    obtain ⟨here, read⟩ := h a rfl
    rw [Option.map_some, Option.getD_some, option_of_ne_null (Outline.ofTree_ne_null here), read]
    rfl

/-! ## Tagged unions -/

namespace Union

variable {u : Union α} {members : List (String × Tree)}

/-- Members of other names are left for the variant. -/
theorem takeTag_of_untagged (found : Option (Fields α)) (untagged : ∀ m ∈ members, m.1 ≠ u.tag)
    (fits : Tree.depthMembers members ≤ room) :
    u.takeTag room found (Outline.ofMembers members) = .ok (found, Outline.ofMembers members) := by
  induction members with
  | nil => rfl
  | cons m members ih =>
    have inside := Nat.max_le.1 fits
    have others := ih (fun x hx => untagged x (List.mem_cons_of_mem _ hx)) inside.2
    have other := untagged m List.mem_cons_self
    simp only [Outline.ofMembers, takeTag, if_neg other, Outline.value?_ofTree m.2 room inside.1,
      others]
    rfl

/-- A variant is read from an object that has its tag first. -/
theorem reader_ofTree {name : String} {fields : Fields α} {a : α}
    (known : u.variants.lookup name = some fields) (untagged : ∀ m ∈ members, m.1 ≠ u.tag)
    (fits : Tree.depthMembers members ≤ room)
    (read : fields.reader (room + 1) (.ofTree (.object members)) = .ok a) :
    u.reader (room + 1) (.ofTree (.object ((u.tag, .string name) :: members))) = .ok a := by
  have variant : u.variant (.string (some name)) = .ok fields := by
    simp only [Union.variant, known]
  have taken : u.takeTag room none (Outline.ofMembers ((u.tag, .string name) :: members)) =
      .ok (some fields, Outline.ofMembers members) := by
    simp only [Outline.ofMembers, Outline.ofTree, takeTag, if_true, variant]
    exact takeTag_of_untagged _ untagged fits
  rw [Outline.ofTree] at read
  rw [Outline.ofTree, reader, taken]
  simp only [bind, Except.bind, Bool.not_true, Bool.false_eq_true, if_false, read]
  rfl

end Union

end Json

/-! ## What is asked for -/

theorem PolicyChange.reader_toTree {c : PolicyChange} {nested : Bool} {room : Nat}
    (fits : c.toTree.depth ≤ room) : (union nested).reader room (.ofTree c.toTree) = .ok c := by
  cases room with
  | zero => cases c <;> simp [toTree, Json.Tree.depth] at fits
  | succ room =>
    cases c with
    | inlinePolicy name document =>
      have inside : Json.Tree.depthMembers
          [("policy_name", .string name), ("document", document.tree)] ≤ room := by
        simpa [toTree, Json.Tree.depth, Json.Tree.depthMembers] using fits
      have value : Json.Reader.value room (.ofTree document.tree) = .ok document :=
        Json.Reader.value_ofTree (by simpa [Json.Tree.depth, Json.Tree.depthMembers] using inside)
      refine Json.Union.reader_ofTree rfl (by simp [union]) inside (Json.Fields.reader_ofTree rfl ?_)
      simp only [Json.Fields.and, Json.Fields.pure, Json.Fields.required, Json.Fields.one,
        Json.Fields.find?, Json.Outline.ofMembers, List.lookup_cons, Option.some_beq_some,
        String.reduceBEq, beq_self_eq_true, value]
      rfl
    | managedPolicy arn =>
      refine Json.Union.reader_ofTree rfl (by simp [union])
        (by simp [Json.Tree.depthMembers, Json.Tree.depth]) (Json.Fields.reader_ofTree rfl rfl)

theorem Target.reader_toTree {t : Target} {room : Nat} (fits : t.toTree.depth ≤ room) :
    reader room (.ofTree t.toTree) = .ok t := by
  cases room with
  | zero => cases t <;> simp [toTree, Json.Tree.depth] at fits
  | succ room =>
    cases t with
    | group name =>
      refine Json.Union.reader_ofTree rfl (by simp [union])
        (by simp [Json.Tree.depthMembers, Json.Tree.depth]) (Json.Fields.reader_ofTree rfl rfl)
    | policy account arn change =>
      have inside : Json.Tree.depthMembers [("account_id", .string account),
          ("principal_arn", .string arn), ("change", change.toTree)] ≤ room := by
        simpa [toTree, Json.Tree.depth, Json.Tree.depthMembers] using fits
      have nested : (PolicyChange.union true).reader room (.ofTree change.toTree) = .ok change :=
        PolicyChange.reader_toTree
          (by simpa [Json.Tree.depth, Json.Tree.depthMembers] using inside)
      refine Json.Union.reader_ofTree rfl (by simp [union]) inside (Json.Fields.reader_ofTree rfl ?_)
      simp only [Json.Fields.and, Json.Fields.pure, Json.Fields.required, Json.Fields.one,
        Json.Fields.find?, Json.Outline.ofMembers, List.lookup_cons, Option.some_beq_some,
        String.reduceBEq, beq_self_eq_true, nested]
      rfl

theorem Status.reader_name (s : Status) (room : Nat) :
    Json.Reader.word words room (.ofTree (.string s.name)) = .ok s := by
  have known : words.lookup s.name = some s := ofName?_name s
  simp only [Json.Outline.ofTree, Json.Reader.word, known]

/-! ## Requests -/

theorem Timestamp.toTree_ne_null (t : Timestamp) : t.toTree ≠ .null := by
  intro same
  cases same

theorem Json.eq_null_of_isNull {j : Json} (h : j.isNull = true) : j = .null := by
  obtain ⟨t, _⟩ := j
  cases t with
  | null => rfl
  | _ => cases h

/-- Only null has the value null. -/
theorem Json.Outline.eq_null_of_value? {o : Outline} {room : Nat}
    (h : o.value? room = some Json.null) : o = .null := by
  cases o with
  | null => rfl
  | bool => cases h
  | number n =>
    obtain ⟨number, -, same⟩ := Option.map_eq_some_iff.1 h
    cases number <;> cases same
  | string s =>
    obtain ⟨text, -, same⟩ := Option.map_eq_some_iff.1 h
    cases same
  | array items closed =>
    cases room with
    | zero => cases h
    | succ room =>
      simp only [value?] at h
      split at h
      · obtain ⟨values, -, same⟩ := Option.map_eq_some_iff.1 h
        cases same
      · cases h
  | object members closed =>
    cases room with
    | zero => cases h
    | succ room =>
      simp only [value?] at h
      split at h
      · obtain ⟨values, -, same⟩ := Option.map_eq_some_iff.1 h
        cases same
      · cases h
  | broken => cases h

/-- What is read from a record is built from its fields, in one of the two forms. -/
theorem Json.Fields.exists_build {α : Type} {fields : Fields α} {room : Nat} {o : Outline} {a : α}
    (h : fields.reader room o = .ok a) :
    ∃ form inner get?, fields.build form inner get? = .ok a := by
  unfold reader at h
  split at h
  · cases h
  · cases h
  · split at h
    · next built => rw [← h]; exact ⟨_, _, _, built⟩
    · cases h
  · dsimp only at h
    split at h
    · next built => rw [← h]; exact ⟨_, _, _, built⟩
    · cases h
  · cases h

/-- A field that may be missing is never read as null. -/
theorem Json.Fields.ne_null_of_optional_value {name : String} {form : Form} {room : Nat}
    {get? : String → Option Outline} {found : Option Json}
    (h : (optional name .value).build form room get? = .ok found) : found ≠ some .null := by
  rintro rfl
  cases here : get? name with
  | none => cases form <;> simp [optional, one, here] at h
  | some o =>
    rw [build_optional here] at h
    by_cases null : o = .null
    · rw [null] at h
      cases h
    · rw [Reader.option_of_ne_null null, Reader.value] at h
      split at h
      · next j value =>
        cases h
        exact null (Outline.eq_null_of_value? value)
      · cases h

namespace Request

/-- The request as its text has it: a policy noted as null counts as none. -/
def asWritten (r : Request) : Request :=
  { r with snapshot := r.snapshot.filter (!·.isNull) }

variable {r : Request} {room : Nat}

theorem asWritten_eq_self_iff : r.asWritten = r ↔ r.snapshot ≠ some .null := by
  constructor
  · intro same noted
    have kept : r.asWritten.snapshot = r.snapshot := by rw [same]
    simp [asWritten, noted, Json.isNull, Json.null] at kept
  · intro shown
    have kept : r.snapshot.filter (!·.isNull) = r.snapshot := by
      cases noted : r.snapshot with
      | none => rfl
      | some j =>
        have other : j.isNull = false := by
          rw [Bool.eq_false_iff]
          intro isNull
          exact shown (by rw [noted, Json.eq_null_of_isNull isNull])
        simp [Option.filter, other]
    rw [asWritten, kept]

theorem NotesObject.asWritten_eq_self (h : r.NotesObject) : r.asWritten = r := by
  rw [asWritten_eq_self_iff]
  intro noted
  cases h _ noted

theorem snapshot_ofTree (fits : ((r.snapshot.map Json.tree).getD .null).depth ≤ room) :
    Json.Reader.option .value room (.ofTree ((r.snapshot.map Json.tree).getD .null)) =
      .ok r.asWritten.snapshot := by
  cases noted : r.snapshot with
  | none => simp [asWritten, noted, Json.Reader.option, Json.Outline.ofTree]
  | some j =>
    rw [noted] at fits
    by_cases isNull : j.isNull = true
    · rw [Json.eq_null_of_isNull isNull] at noted ⊢
      simp only [asWritten, noted]
      rfl
    · have other : j.tree ≠ .null := by
        intro same
        rw [Json.isNull, same] at isNull
        exact isNull rfl
      have read := Json.Reader.value_ofTree fits
      simp [asWritten, noted, isNull, Option.filter,
        Json.Reader.option_of_ne_null (Json.Outline.ofTree_ne_null other), read, Except.map]

/-- A request is read back as its text has it. -/
theorem reader_toTree (fits : r.toTree.depth ≤ room) :
    reader room (.ofTree r.toTree) = .ok r.asWritten := by
  cases room with
  | zero => simp [toTree, Json.Tree.depth] at fits
  | succ room =>
    simp only [toTree, Json.Tree.depth, Json.Tree.depthMembers] at fits
    have target : Target.reader room (.ofTree r.target.toTree) = .ok r.target :=
      Target.reader_toTree (by omega)
    have comments : Json.Reader.option .text room (.ofTree (.ofText? r.comments)) =
        .ok r.comments := by
      cases r.comments <;> rfl
    have expiresAt : Json.Reader.option Timestamp.reader room
        (.ofTree ((r.expiresAt.map Timestamp.toTree).getD .null)) = .ok r.expiresAt :=
      Json.Reader.option_ofTree _ fun t _ => ⟨t.toTree_ne_null, t.reader_toTree room⟩
    have snapshot : Json.Reader.option .value room
        (.ofTree ((r.snapshot.map Json.tree).getD .null)) = .ok r.asWritten.snapshot :=
      snapshot_ofTree (by omega)
    refine Json.Fields.reader_ofTree rfl ?_
    simp only [fields, Json.Fields.and, Json.Fields.pure, Json.Fields.required,
      Json.Fields.optional, Json.Fields.one, Json.Fields.find?, Json.Outline.ofMembers,
      List.lookup_cons, Option.some_beq_some, String.reduceBEq, beq_self_eq_true, target, comments,
      expiresAt, snapshot, r.requestTime.reader_toTree, r.lastUpdated.reader_toTree,
      r.status.reader_name]
    rfl

theorem snapshot_of_build {form : Json.Form} {get? : String → Option Json.Outline}
    (h : fields.build form room get? = .ok r) :
    (Json.Fields.optional "policy_snapshot" .value).build form room get? = .ok r.snapshot := by
  simp only [fields, Json.Fields.build_and] at h
  obtain ⟨_, _, ⟨_, _, ⟨_, _, ⟨_, _, ⟨_, _, ⟨_, _, ⟨_, _, ⟨_, _, ⟨_, _, ⟨_, _, ⟨make, _, first, -, rfl⟩,
    -, rfl⟩, -, rfl⟩, -, rfl⟩, -, rfl⟩, -, rfl⟩, -, rfl⟩, -, rfl⟩, -, rfl⟩, -, rfl⟩, snapshot, rfl⟩ := h
  cases first
  exact snapshot

/-- A request that is read never notes null. -/
theorem asWritten_of_reader {o : Json.Outline} (h : reader room o = .ok r) : r.asWritten = r := by
  obtain ⟨form, inner, get?, built⟩ := Json.Fields.exists_build h
  exact asWritten_eq_self_iff.2 (Json.Fields.ne_null_of_optional_value (snapshot_of_build built))

theorem readText_toTree (h : r.toTree.ReadsBack) :
    Json.readText reader r.toTree.text = .ok r.asWritten :=
  Json.readText_text h.exact_ (reader_toTree h.fits)

theorem asWritten_of_readText {text : String} (h : Json.readText reader text = .ok r) :
    r.asWritten = r := by
  cases read : reader Json.maxDepth (Json.outline text.toList).1 with
  | error fault =>
    simp only [Json.readText, read] at h
    cases h
  | ok found =>
    simp only [Json.readText, read] at h
    split at h
    · rw [← Except.ok.inj h]
      exact asWritten_of_reader read
    · cases h

end Request

/-! ## What is written is read back -/

/-- Roles are read back as they were written, and so are requests.  The one request that its text
does not tell notes null where a policy was: its text is that of a request that notes nothing.  No
stored request is like that, and none that was read. -/
theorem written_reads_back :
    (∀ d : RoleDocument, d.toTree.ReadsBack → RoleDocument.ofPolicyText d.policyText = .ok d) ∧
    (∀ r : Request, r.toTree.ReadsBack →
      Json.readText Request.reader r.toTree.text = .ok r.asWritten) ∧
    (∀ r : Request, r.asWritten = r ↔ r.snapshot ≠ some .null) ∧
    (∀ w : World, w.Reached → ∀ r ∈ w.requests.all, r.asWritten = r) ∧
    ∀ text r, Json.readText Request.reader text = .ok r → r.asWritten = r := by
  refine ⟨?_, ?_, ?_, ?_, ?_⟩
  · intro d h
    exact RoleDocument.ofPolicyText_policyText h.exact_ h.fits
  · intro r h
    exact r.readText_toTree h
  · intro r
    exact Request.asWritten_eq_self_iff
  · intro w reached r stored
    exact (reached.notesObjects r stored).asWritten_eq_self
  · intro text r h
    exact Request.asWritten_of_readText h

/-- A policy with the smallest and the largest integer, and with characters that are escaped. -/
def Json.oddPolicy : Json :=
  .object [("\"\\\n\x01", .array [.whole (.clamp (-9223372036854775808)), .null,
    .whole (.clamp 18446744073709551615)]), ("é", .object [])]

def RoleDocument.odd : RoleDocument :=
  ⟨"arn:aws:iam::123456789012:role/app", "123456789012", "app", "AROA1", .oddPolicy,
    .ofList [("kept", .oddPolicy)], [⟨"view", "arn:aws:iam::aws:policy/View"⟩], .empty, none, default⟩

def Request.odd : Request :=
  ⟨"r1", "alice", .policy "123456789012" "arn:aws:iam::123456789012:role/app"
    (.inlinePolicy "kept" .oddPolicy), "\ton call", .approved, "root", default, default,
    some "", none, some .oddPolicy⟩

def Request.notingNull : Request :=
  { Request.odd with snapshot := some .null }

/-- Not every request is read back as itself: whether null was noted or nothing at all, the text
has null. -/
theorem noted_null_is_lost :
    Request.notingNull.toTree.ReadsBack ∧
    Request.notingNull.toTree.text = { Request.notingNull with snapshot := none }.toTree.text ∧
    Json.readText Request.reader Request.notingNull.toTree.text =
      .ok { Request.notingNull with snapshot := none } ∧
    ¬ ∀ r : Request, r.toTree.ReadsBack →
      Json.readText Request.reader r.toTree.text = .ok r := by
  have fits : Request.notingNull.toTree.ReadsBack := ⟨by decide, by decide⟩
  have read : Json.readText Request.reader Request.notingNull.toTree.text =
      .ok { Request.notingNull with snapshot := none } := Request.readText_toTree fits
  refine ⟨fits, rfl, read, ?_⟩
  intro every
  have same := every .notingNull fits
  rw [read] at same
  have noted : none = some Json.null := congrArg Request.snapshot (Except.ok.inj same)
  cases noted

theorem odd_reads_back :
    RoleDocument.ofPolicyText RoleDocument.odd.policyText = .ok .odd ∧
    Json.readText Request.reader Request.odd.toTree.text = .ok .odd ∧
    Json.readText Request.reader Request.forOps.toTree.text = .ok .forOps ∧
    Request.forOps.asWritten = .forOps := by
  obtain ⟨role, request, same, stored, -⟩ := written_reads_back
  have forOps : Request.forOps.asWritten = .forOps :=
    stored .withRequest (.call (.start rfl) default _ ⟨"alice", [], rfl⟩) _
      World.forOps_mem_withRequest
  refine ⟨role .odd ⟨by decide, by decide⟩, ?_, ?_, forOps⟩
  · rw [request .odd ⟨by decide, by decide⟩, (same .odd).2 (by decide)]
  · rw [request .forOps ⟨by decide, by decide⟩, forOps]

end AccessBroker
