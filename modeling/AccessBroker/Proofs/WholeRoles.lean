import AccessBroker.Proofs.Readings

/-! # Roles are read whole or not at all

A role that is read lacks nothing: every listing was followed to its end, every
policy that was listed was read, and what the answers said is in the document.  If
one answer fails there is no document, and the failure says why.
-/

namespace AccessBroker

namespace Table

variable {α : Type} {entries : List (String × α)} {name : String} {value : α}

def LastOf (entries : List (String × α)) (name : String) (value : α) : Prop :=
  ∃ before after, entries = before ++ (name, value) :: after ∧ ∀ e ∈ after, e.1 ≠ name

theorem not_lastOf_nil : ¬ LastOf [] name value := by
  rintro ⟨before, after, whole, -⟩
  cases before <;> cases whole

theorem lastOf_cons {e : String × α} :
    LastOf (e :: entries) name value ↔
      LastOf entries name value ∨ e = (name, value) ∧ ∀ o ∈ entries, o.1 ≠ name := by
  constructor
  · rintro ⟨before, after, whole, last⟩
    cases before with
    | nil =>
      cases whole
      exact .inr ⟨rfl, last⟩
    | cons first before =>
      cases whole
      exact .inl ⟨before, after, rfl, last⟩
  · rintro (⟨before, after, rfl, last⟩ | ⟨rfl, last⟩)
    · exact ⟨e :: before, after, rfl, last⟩
    · exact ⟨[], entries, rfl, last⟩

theorem LastOf.mem (last : LastOf entries name value) : (name, value) ∈ entries := by
  obtain ⟨before, after, rfl, -⟩ := last
  exact List.mem_append_right before List.mem_cons_self

/-- A name has a last entry if it has one. -/
theorem exists_lastOf_iff : (∃ value, LastOf entries name value) ↔ name ∈ entries.map Prod.fst := by
  induction entries with
  | nil => simp [not_lastOf_nil]
  | cons e entries ih =>
    simp only [lastOf_cons, exists_or, ih, List.map_cons, List.mem_cons]
    by_cases later : name ∈ entries.map Prod.fst
    · simp [later]
    · have last : ∀ o ∈ entries, o.1 ≠ name := by
        rintro o here rfl
        exact later (List.mem_map_of_mem here)
      simp only [later, false_or, or_false, and_iff_left last]
      exact ⟨fun ⟨value, same⟩ => by rw [same], fun same => ⟨e.2, by rw [same]⟩⟩

/-- Of the values that are put under a name, the last one counts. -/
theorem get?_foldl_insert (t : Table α) :
    (entries.foldl (fun t m => t.insert m.1 m.2) t).get? name = some value ↔
      LastOf entries name value ∨ (∀ e ∈ entries, e.1 ≠ name) ∧ t.get? name = some value := by
  induction entries generalizing t with
  | nil => simp [not_lastOf_nil]
  | cons e entries ih =>
    obtain ⟨key, first⟩ := e
    rw [List.foldl_cons, ih, get?_insert, lastOf_cons, List.forall_mem_cons]
    grind

theorem get?_ofList : (ofList entries).get? name = some value ↔ LastOf entries name value := by
  have sorted : (ofList entries).toList =
      (entries.foldl (fun t m => t.insert m.1 m.2) empty).toList :=
    (toList_foldl_insert entries .empty).symm
  have nothing : (empty : Table α).get? name = none := rfl
  rw [get?, sorted, ← get?, get?_foldl_insert, nothing]
  simp

end Table

namespace RoleDocument

/-- Only what names the role is checked. -/
theorem ensureDescribes_congr {d other : RoleDocument} {key : RoleKey} (arn : d.arn = other.arn)
    (account : d.account = other.account) : d.ensureDescribes key = other.ensureDescribes key := by
  rw [ensureDescribes, ensureDescribes, arn, account]

theorem kind_of_ensureDescribes {d : RoleDocument} {key : RoleKey} {e : Error}
    (fails : d.ensureDescribes key = .error e) : e.kind = .internal := by
  unfold ensureDescribes at fails
  split at fails
  · cases fails
    rfl
  · split at fails <;> cases fails
    rfl

end RoleDocument

namespace Iam

theorem kind_of_decodeDocument {encoded : String} {e : Error}
    (fails : decodeDocument encoded = .error e) : e.kind = .internal := by
  unfold decodeDocument at fails
  split at fails
  · cases fails
    rfl
  · split at fails <;> cases fails
    rfl

/-- A role that is read without its policies and tags has none. -/
theorem bareDocument_cases (record : RoleRecord) :
    (∃ d, bareDocument record = .ok d ∧
      d = { d with inlinePolicies := .empty, managedPolicies := [], tags := .empty }) ∨
    ∃ e, bareDocument record = .error e ∧ e.kind = .internal := by
  unfold bareDocument
  cases record.trust with
  | none => exact .inl ⟨_, rfl, rfl⟩
  | some encoded =>
    dsimp only
    cases decoded : decodeDocument encoded with
    | ok j => exact .inl ⟨_, rfl, rfl⟩
    | error e => exact .inr ⟨e, rfl, kind_of_decodeDocument decoded⟩

theorem kind_of_bareDocument {record : RoleRecord} {e : Error}
    (fails : bareDocument record = .error e) : e.kind = .internal := by
  rcases bareDocument_cases record with ⟨d, reads, -⟩ | ⟨e', fails', internal⟩
  · cases reads.symm.trans fails
  · cases fails'.symm.trans fails
    exact internal

theorem eq_of_bareDocument {record : RoleRecord} {bare : RoleDocument}
    (reads : bareDocument record = .ok bare) :
    bare = { bare with inlinePolicies := .empty, managedPolicies := [], tags := .empty } := by
  rcases bareDocument_cases record with ⟨d, reads', none⟩ | ⟨e, fails, -⟩
  · cases reads'.symm.trans reads
    exact none
  · cases fails.symm.trans reads

/-! ## Parts of a role -/

def policyReading (p : String × String) : Reading :=
  .policy p.1 (.answered p.2)

structure Filled (documents : List (String × String)) (found t : Table Json) : Prop where
  decodes : ∀ p ∈ documents, ∃ j, decodeDocument p.2 = .ok j
  get?_eq_some_iff : ∀ name j, t.get? name = some j ↔
    (∃ encoded, Table.LastOf documents name encoded ∧ decodeDocument encoded = .ok j) ∨
      (∀ p ∈ documents, p.1 ≠ name) ∧ found.get? name = some j

theorem filled_nil (found : Table Json) : Filled [] found found :=
  ⟨nofun, fun name j => by simp [Table.not_lastOf_nil]⟩

theorem Filled.cons {p : String × String} {documents : List (String × String)}
    {found t : Table Json} {j : Json} (decoded : decodeDocument p.2 = .ok j)
    (filled : Filled documents (found.insert p.1 j) t) : Filled (p :: documents) found t where
  decodes := List.forall_mem_cons.2 ⟨⟨j, decoded⟩, filled.decodes⟩
  get?_eq_some_iff name v := by
    obtain ⟨own, encoded⟩ := p
    rw [filled.get?_eq_some_iff, Table.get?_insert]
    simp only [Table.lastOf_cons, List.forall_mem_cons]
    grind

theorem Filled.get?_eq_some_iff_lastOf {documents : List (String × String)} {t : Table Json}
    (filled : Filled documents .empty t) (name : String) (j : Json) :
    t.get? name = some j ↔
      ∃ encoded, Table.LastOf documents name encoded ∧ decodeDocument encoded = .ok j := by
  have nothing : (Table.empty : Table Json).get? name = none := rfl
  rw [filled.get?_eq_some_iff, nothing]
  simp

/-- The table has the names that documents were read for. -/
theorem Filled.exists_get?_iff {documents : List (String × String)} {t : Table Json}
    (filled : Filled documents .empty t) (name : String) :
    (∃ j, t.get? name = some j) ↔ name ∈ documents.map Prod.fst := by
  simp only [filled.get?_eq_some_iff_lastOf, ← Table.exists_lastOf_iff]
  constructor
  · rintro ⟨j, encoded, last, -⟩
    exact ⟨encoded, last⟩
  · rintro ⟨encoded, last⟩
    obtain ⟨j, decoded⟩ := filled.decodes _ last.mem
    exact ⟨j, encoded, last, decoded⟩

def Undecodable (readings : List Reading) (e : Error) : Prop :=
  ∃ p, policyReading p ∈ readings ∧ decodeDocument p.2 = .error e

theorem Undecodable.mono {readings others : List Reading} {e : Error}
    (undecodable : Undecodable readings e) (among : readings ⊆ others) : Undecodable others e := by
  obtain ⟨p, here, fails⟩ := undecodable
  exact ⟨p, among here, fails⟩

section

variable {signer : Option String} {role : String}

/-- One document after the other is read, decoded and put into the table. -/
theorem reads_readPolicies (names : List String) (found : Table Json) :
    Reads signer role (readPolicies signer role names found)
      (fun readings t => ∃ documents : List (String × String), documents.map Prod.fst = names ∧
        readings = documents.map policyReading ∧ Filled documents found t)
      Undecodable := by
  induction names generalizing found with
  | nil => exact .value ⟨[], rfl, rfl, filled_nil found⟩
  | cons name names ih =>
    have shape : readPolicies signer role (name :: names) found =
        ((Session.call .getRolePolicy signer [("RoleName", role), ("PolicyName", name)]
            (·.getRolePolicy) fun s left => { s with getRolePolicy := left }) >>= fun reply =>
          Session.lift (reply.result .getRolePolicy)) >>= fun encoded =>
        Session.lift (decodeDocument encoded) >>= fun j =>
        readPolicies signer role names (found.insert name j) := by
      rw [readPolicies, bind_assoc]
    have asks := Reads.ask signer role (.policy name) (fun _ => rfl) (fun _ => rfl)
    rw [shape]
    refine (asks.bind fun encoded => (Reads.lift signer role (decodeDocument encoded)).bind fun j =>
      ih _).mono ?_ ?_
    · rintro readings t ⟨encoded, _, _, rfl, ⟨j, _, _, ⟨rfl, decoded⟩,
        ⟨documents, rfl, rfl, filled⟩, rfl⟩, rfl⟩
      exact ⟨(name, encoded) :: documents, rfl, rfl, filled.cons decoded⟩
    · rintro readings e (never | ⟨encoded, _, _, rfl,
        ⟨rfl, fails⟩ | ⟨j, _, _, ⟨rfl, -⟩, later, rfl⟩, rfl⟩)
      · exact never.elim
      · exact ⟨(name, encoded), List.mem_cons_self, fails⟩
      · exact later.mono fun r here => List.mem_cons_of_mem _ here

/-- The listed policies are read: their names, and then a document for each of them. -/
theorem reads_inlinePolicies :
    Reads signer role (inlinePolicies signer role)
      (fun readings t => ∃ names pages documents, Follows .names none names pages ∧
        documents.map Prod.fst = pages.flatMap (·.items) ∧ Filled documents .empty t ∧
        readings = names ++ documents.map policyReading)
      Undecodable := by
  refine ((Reads.listAll .names signer role).bind fun names => reads_readPolicies names .empty).mono
    ?_ ?_
  · rintro readings t ⟨_, names, _, ⟨pages, follows, rfl⟩, ⟨documents, listed, rfl, filled⟩, rfl⟩
    exact ⟨names, pages, documents, follows, listed, filled, rfl⟩
  · rintro readings e (never | ⟨_, names, policies, -, undecodable, rfl⟩)
    · exact never.elim
    · exact undecodable.mono (List.subset_append_right names policies)

def AttachedPolicy.ofAttachment (a : Attachment) : AttachedPolicy :=
  ⟨some a.name, some a.arn⟩

theorem reads_managedPolicies :
    Reads signer role (managedPolicies signer role)
      (fun readings managed => ∃ pages, Follows .attachments none readings pages ∧
        managed.map AttachedPolicy.ofAttachment =
          (pages.flatMap (·.items)).filter fun a => a.name.isSome && a.arn.isSome)
      fun _ _ => False := by
  refine ((Reads.listAll .attachments signer role).map _).mono ?_ fun _ _ => id
  rintro readings managed ⟨_, ⟨pages, follows, rfl⟩, rfl⟩
  refine ⟨pages, follows, ?_⟩
  generalize pages.flatMap (·.items) = attached
  induction attached with
  | nil => rfl
  | cons a attached ih =>
    obtain ⟨name, arn⟩ := a
    cases name <;> cases arn <;> simp [AttachedPolicy.ofAttachment, ih]

theorem reads_tags :
    Reads signer role (tags signer role)
      (fun readings t => ∃ pages, Follows .tags none readings pages ∧
        ∀ name value, t.get? name = some value ↔
          Table.LastOf (pages.flatMap (·.items)) name value)
      fun _ _ => False := by
  refine ((Reads.listAll .tags signer role).map _).mono ?_ fun _ _ => id
  rintro readings t ⟨_, ⟨pages, follows, rfl⟩, rfl⟩
  exact ⟨pages, follows, fun name value => Table.get?_ofList⟩

end

/-- What the answers say of a role. -/
structure Parts where
  record : RoleRecord
  names : List (Page String)
  /-- The names of the listed policies with their encoded documents. -/
  documents : List (String × String)
  attached : List (Page AttachedPolicy)
  tags : List (Page (String × String))

namespace Parts

/-- The readings are those of the parts, and they are complete: all listings end, and every policy
that was listed was read. -/
def ToldBy (parts : Parts) (readings : List Reading) : Prop :=
  ∃ names attached tags, Follows .names none names parts.names ∧
    Follows .attachments none attached parts.attached ∧ Follows .tags none tags parts.tags ∧
    parts.documents.map Prod.fst = parts.names.flatMap (·.items) ∧
    readings = .role (.answered parts.record) ::
      (names ++ parts.documents.map policyReading ++ attached ++ tags)

/-- The document holds what the parts say. -/
structure Make (parts : Parts) (d : RoleDocument) : Prop where
  bare : bareDocument parts.record =
    .ok { d with inlinePolicies := .empty, managedPolicies := [], tags := .empty }
  names : ∀ name, (∃ j, d.inlinePolicies.get? name = some j) ↔
    name ∈ parts.names.flatMap (·.items)
  documents : ∀ name j, d.inlinePolicies.get? name = some j ↔
    ∃ encoded, Table.LastOf parts.documents name encoded ∧ decodeDocument encoded = .ok j
  attachments : d.managedPolicies.map AttachedPolicy.ofAttachment =
    (parts.attached.flatMap (·.items)).filter fun a => a.name.isSome && a.arn.isSome
  tags : ∀ name value, d.tags.get? name = some value ↔
    Table.LastOf (parts.tags.flatMap (·.items)) name value

end Parts

/-! ## Reading a role -/

def readRole (signer : Option String) (key : RoleKey) : Session RoleDocument := do
  let reply ← Session.call .getRole signer [("RoleName", key.roleName)]
    (·.getRole) fun s left => { s with getRole := left }
  let record ← Session.lift (reply.result .getRole)
  let d ← Session.lift (bareDocument record)
  Session.lift (d.ensureDescribes key)
  completeDocument signer key.roleName d

/-- A role of which a part does not exist is gone. -/
def orGone : Except Error RoleDocument → Except Error (Option RoleDocument)
  | .ok d => .ok (some d)
  | .error e => if e.kind = .notFound then .ok none else .error e

/-- A session does what another one does, and takes a role for gone of which a part does not
exist. -/
def Spares (x : Session (Option RoleDocument)) (y : Session RoleDocument) : Prop :=
  ∀ p, x.perform p = (orGone (y.perform p).1, (y.perform p).2)

namespace Spares

variable {α : Type}

theorem fail (e : Error) (f : α → Session RoleDocument) :
    Spares (if e.kind = .notFound then return none else throw e)
      (Session.lift (.error e) >>= f) := by
  intro p
  rw [Session.perform_bind, Session.perform_lift]
  dsimp only [orGone]
  split <;> rfl

theorem recover (y : Session RoleDocument) :
    Spares (tryCatch (some <$> y) fun e => if e.kind = .notFound then return none else throw e)
      y := by
  intro p
  rw [Session.perform_tryCatch, Session.perform_map]
  obtain ⟨result, q⟩ := y.perform p
  cases result with
  | ok d => rfl
  | error e =>
    dsimp only [orGone, Except.map]
    split <;> rfl

theorem lift {x : Except Error α} {f : α → Session (Option RoleDocument)}
    {g : α → Session RoleDocument} (internal : ∀ e, x = .error e → e.kind = .internal)
    (each : ∀ a, Spares (f a) (g a)) : Spares (Session.lift x >>= f) (Session.lift x >>= g) := by
  intro p
  rw [Session.perform_bind, Session.perform_bind, Session.perform_lift]
  cases x with
  | ok a => exact each a p
  | error e =>
    have kind : e.kind ≠ .notFound := by
      rw [internal e rfl]
      exact nofun
    simp only [orGone, if_neg kind]

end Spares

section

variable {signer assume : Option String} {key : RoleKey} {p q : Peer}

theorem reads_completeDocument (role : String) (bare : RoleDocument) :
    Reads signer role (completeDocument signer role bare)
      (fun readings d => ∀ record, bareDocument record = .ok bare →
        ∃ parts : Parts, parts.record = record ∧ parts.Make d ∧
          parts.ToldBy (.role (.answered record) :: readings))
      Undecodable := by
  refine (reads_inlinePolicies.bind fun inline => reads_managedPolicies.bind fun managed =>
    reads_tags.map _).mono ?_ ?_
  · rintro _ d ⟨inline, _, _, ⟨names, pages, documents, listed, named, filled, rfl⟩,
      ⟨managed, attached, _, ⟨attachedPages, attaches, only⟩,
        ⟨tags, ⟨tagPages, tagged, last⟩, rfl⟩, rfl⟩, rfl⟩ record reads
    refine ⟨⟨record, pages, documents, attachedPages, tagPages⟩, rfl,
      ⟨?_, fun name => ?_, ?_, only, last⟩,
      ⟨names, attached, _, listed, attaches, tagged, named, ?_⟩⟩
    · rw [reads]
      exact congrArg Except.ok (eq_of_bareDocument reads)
    · rw [← named]
      exact filled.exists_get?_iff name
    · exact filled.get?_eq_some_iff_lastOf
    · simp
  · rintro readings e (undecodable | ⟨_, _, _, -, never | ⟨_, _, _, -, never, -⟩, -⟩)
    · exact undecodable
    · exact never.elim
    · exact never.elim

theorem perform_fetchRole (opens : (signerForKey assume key).perform p = (.ok signer, q)) :
    (fetchRole assume key).perform p =
      (orGone ((readRole signer key).perform q).1, ((readRole signer key).perform q).2) := by
  rw [fetchRole, Session.perform_bind_of_ok opens, Session.perform_bind_of_ok
    (Session.perform_call ..), readRole, Session.perform_bind_of_ok (Session.perform_call ..)]
  generalize (nextReply q.script.getRole).1 = reply
  cases reply.result .getRole with
  | error e => exact Spares.fail e _ _
  | ok record =>
    refine Spares.lift (fun e => kind_of_bareDocument) (fun d => ?_) _
    refine Spares.lift (fun e => RoleDocument.kind_of_ensureDescribes) fun _ => ?_
    exact Spares.recover (completeDocument signer key.roleName d)

def Misdescribed (key : RoleKey) (readings : List Reading) (e : Error) : Prop :=
  ∃ record, .role (.answered record) ∈ readings ∧ (bareDocument record = .error e ∨
    ∃ d, bareDocument record = .ok d ∧ d.ensureDescribes key = .error e)

theorem kind_of_useless {readings : List Reading} {e : Error}
    (useless : Undecodable readings e ∨ Misdescribed key readings e) : e.kind = .internal := by
  rcases useless with ⟨p, -, fails⟩ | ⟨record, -, fails | ⟨d, -, differs⟩⟩
  · exact kind_of_decodeDocument fails
  · exact kind_of_bareDocument fails
  · exact RoleDocument.kind_of_ensureDescribes differs

/-- A role that has to be there is read with all its parts. -/
theorem reads_readRole (signer : Option String) (key : RoleKey) :
    Reads signer key.roleName (readRole signer key)
      (fun readings d =>
        d.ensureDescribes key = .ok () ∧ ∃ parts : Parts, parts.Make d ∧ parts.ToldBy readings)
      fun readings e => Undecodable readings e ∨ Misdescribed key readings e := by
  have shape : readRole signer key =
      (Session.call .getRole signer [("RoleName", key.roleName)]
          (·.getRole) (fun s left => { s with getRole := left }) >>= fun reply =>
        Session.lift (reply.result .getRole)) >>= fun record =>
      Session.lift (bareDocument record) >>= fun d =>
      Session.lift (d.ensureDescribes key) >>= fun _ =>
      completeDocument signer key.roleName d := by
    rw [readRole, bind_assoc]
  have asks := Reads.ask signer key.roleName .role (fun _ => rfl) (fun _ => rfl)
  have bares (record : RoleRecord) := Reads.lift signer key.roleName (bareDocument record)
  have checks (d : RoleDocument) := Reads.lift signer key.roleName (d.ensureDescribes key)
  rw [shape]
  refine (asks.bind fun record => (bares record).bind fun d => (checks d).bind fun _ =>
    reads_completeDocument key.roleName d).mono ?_ ?_
  · rintro _ d ⟨record, _, _, rfl, ⟨bare, _, _, ⟨rfl, reads⟩, ⟨_, _, readings, ⟨rfl, describes⟩,
      complete, rfl⟩, rfl⟩, rfl⟩
    obtain ⟨parts, rfl, make, told⟩ := complete record reads
    obtain rfl := Except.ok.inj (reads.symm.trans make.bare)
    refine ⟨?_, parts, make, told⟩
    rw [← describes]
    exact RoleDocument.ensureDescribes_congr rfl rfl
  · rintro _ e (never | ⟨record, _, _, rfl, ⟨rfl, fails⟩ | ⟨d, _, _, ⟨rfl, reads⟩,
      ⟨rfl, differs⟩ | ⟨_, _, readings, ⟨rfl, -⟩, undecodable, rfl⟩, rfl⟩, rfl⟩)
    · exact never.elim
    · exact .inr ⟨record, List.mem_cons_self, .inl fails⟩
    · exact .inr ⟨record, List.mem_cons_self, .inr ⟨d, reads, differs⟩⟩
    · exact .inl (undecodable.mono fun r here => List.mem_cons_of_mem _ here)

/-! ## Failures -/

/-- The service was asked too much for the moment, or no answer came through. -/
def Reading.Passes (r : Reading) : Prop :=
  r.outcome = .cutOff ∨ r.outcome = .timedOut ∨ ∃ code ∈ throttlingCodes, r.outcome = .refused code

theorem Reading.result_of_missing {r : Reading} (missing : r.outcome = .refused missingCode) :
    r.result = .error (.notFound (failureMessage r.action)) := by
  rw [result, missing]
  rfl

theorem Reading.result_of_passes {r : Reading} (passes : r.Passes) :
    r.result = .error (.transient (failureMessage r.action)) := by
  rw [result]
  rcases passes with cut | late | ⟨code, throttled, refused⟩
  · rw [cut]
    rfl
  · rw [late]
    rfl
  · rw [refused, Reply.result, refusalError, if_pos (List.contains_iff_mem.2 throttled)]

theorem Reading.result_of_other {r : Reading} (fails : ¬ r.Answered)
    (found : r.outcome ≠ .refused missingCode) (lasting : ¬ r.Passes) :
    r.result = .error (.internal (failureMessage r.action)) := by
  rw [result]
  cases outcome : r.outcome with
  | answered => exact absurd outcome fails
  | cutOff => exact absurd (.inl outcome) lasting
  | timedOut => exact absurd (.inr (.inl outcome)) lasting
  | unreadable => rfl
  | refused code =>
    have asked : ¬ throttlingCodes.contains code = true := fun throttled =>
      lasting (.inr (.inr ⟨code, List.contains_iff_mem.1 throttled, outcome⟩))
    have other : code ≠ missingCode := fun missing => found (missing ▸ outcome)
    rw [Reply.result, refusalError, if_neg asked, if_neg other]

/-- Whose credentials sign is known before a role is read. -/
theorem perform_signerForKey (assume : Option String) (key : RoleKey) (p : Peer) :
    ∃ signer opened, (signerForKey assume key).perform p = (.ok signer, opened) := by
  cases assume with
  | none => exact ⟨none, p, rfl⟩
  | some role =>
    have asks : (get : Session Peer).perform p = (.ok p, p) := rfl
    rw [signerForKey, signerFor, Session.perform_bind_of_ok asks]
    cases p.assumed.contains key.account with
    | true => exact ⟨some key.account, _, rfl⟩
    | false => exact ⟨some key.account, _, rfl⟩

/-- A role is read whole or not at all.  If there is a document it is of the role that was asked
for, and it holds what all the listings and policies answered; if all readings were answered there
is one, unless an answer is of no use; if a reading fails there is none, and the reason of the
failure decides whether the role is gone. -/
theorem fetchRole_whole_or_nothing (assume : Option String) (key : RoleKey) (p : Peer) :
    ∃ signer opened readings result after,
      (signerForKey assume key).perform p = (.ok signer, opened) ∧
      (fetchRole assume key).perform p = (result, after) ∧
      Heard signer key.roleName opened readings after ∧
      (∀ d, result = .ok (some d) → d.ensureDescribes key = .ok () ∧
        ∃ parts : Parts, parts.Make d ∧ parts.ToldBy readings) ∧
      ((∀ r ∈ readings, r.Answered) → (∃ d, result = .ok (some d)) ∨
        ∃ e, result = .error e ∧ (Undecodable readings e ∨ Misdescribed key readings e)) ∧
      ∀ r ∈ readings,
        (r.outcome = .refused missingCode → result = .ok none) ∧
        (r.Passes → result = .error (.transient (failureMessage r.action))) ∧
        (¬ r.Answered → r.outcome ≠ .refused missingCode → ¬ r.Passes →
          result = .error (.internal (failureMessage r.action))) := by
  obtain ⟨signer, opened, opens⟩ := perform_signerForKey assume key p
  -- What is asserted of `fetchRole` is true of `readRole`, but for a role that is gone.
  obtain ⟨readings, result, after, run, heard, came⟩ := reads_readRole signer key opened
  have fetched := perform_fetchRole opens
  rw [run] at fetched
  refine ⟨signer, opened, readings, orGone result, after, opens, fetched, heard, ?_, ?_, ?_⟩
  · intro d whole
    cases came with
    | made answered made =>
      cases whole
      exact made
    | failed | useless =>
      dsimp only [orGone] at whole
      split at whole <;> cases whole
  · intro answered
    cases came with
    | made _ made => exact .inl ⟨_, rfl⟩
    | failed _ fails =>
      have last := answered _ (List.mem_append_right _ List.mem_cons_self)
      exact absurd last (Reading.not_answered_of_error fails)
    | @useless _ e _ useless =>
      have here : e.kind ≠ .notFound := by
        rw [kind_of_useless useless]
        exact nofun
      exact .inr ⟨e, if_neg here, useless⟩
  · intro r here
    have told {e : Error} (fails : r.result = .error e) : orGone result = orGone (.error e) := by
      rw [came.eq_of_failed here fails]
    refine ⟨fun missing => ?_, fun passes => ?_, fun fails found lasting => ?_⟩
    · exact told (Reading.result_of_missing missing)
    · exact told (Reading.result_of_passes passes)
    · exact told (Reading.result_of_other fails found lasting)

end

def reportKey : RoleKey :=
  ⟨"123456789012", "arn:aws:iam::123456789012:role/report", by decide +kernel⟩

/-- The policies stand on two pages, and two tags have one key. -/
def reportPeer : Peer where
  script := {
    getRole := [.answered ⟨reportKey.arn, "report", "AROAREPORT", some "%7B%7D"⟩]
    listRolePolicies :=
      [.answered ⟨["read"], some "more", true⟩, .answered ⟨["write"], some "unused", false⟩]
    getRolePolicy := [.answered "%5B%5D", .answered "null"]
    listAttachedRolePolicies := [.answered
      ⟨[⟨some "View", some "arn:aws:iam::aws:policy/View"⟩, ⟨some "Nowhere", none⟩], none, true⟩]
    listRoleTags := [.answered ⟨[("team", "a"), ("team", "b")], none, false⟩]
    listRoles := []
    putRolePolicy := []
    attachRolePolicy := [] }
  journal := []
  assumed := []

def reportGonePeer : Peer :=
  { reportPeer with
    script := { reportPeer.script with listRolePolicies := [.refused missingCode] } }

/-- The first of two tags with one key is in no document. -/
theorem repeated_tag_is_lost :
    ∃ d, ((fetchRole none reportKey).perform reportPeer).1 = .ok (some d) ∧
      ∃ tag ∈ [("team", "a"), ("team", "b")], d.tags.get? tag.1 ≠ some tag.2 := by
  have told : (((fetchRole none reportKey).perform reportPeer).1.toOption.join.map fun d =>
      d.tags.get? "team") = some (some "b") := by
    decide +kernel
  generalize ((fetchRole none reportKey).perform reportPeer).1 = result at told
  rcases result with _ | _ | d
  · cases told
  · cases told
  · have held : d.tags.get? "team" = some "b" := Option.some.inj told
    refine ⟨d, rfl, ("team", "a"), List.mem_cons_self, ?_⟩
    dsimp only
    rw [held]
    decide

def reportReadings : List Reading :=
  [.role (.answered ⟨reportKey.arn, "report", "AROAREPORT", some "%7B%7D"⟩),
    .names none (.answered ⟨["read"], some "more", true⟩),
    .names (some "more") (.answered ⟨["write"], some "unused", false⟩),
    .policy "read" (.answered "%5B%5D"), .policy "write" (.answered "null"),
    .attachments none (.answered
      ⟨[⟨some "View", some "arn:aws:iam::aws:policy/View"⟩, ⟨some "Nowhere", none⟩], none, true⟩),
    .tags none (.answered ⟨[("team", "a"), ("team", "b")], none, false⟩)]

def reportGoneReadings : List Reading :=
  [.role (.answered ⟨reportKey.arn, "report", "AROAREPORT", some "%7B%7D"⟩),
    .names none (.refused missingCode)]

theorem report_is_read_whole :
    (∃ d, ((fetchRole none reportKey).perform reportPeer).1 = .ok (some d) ∧
      d.ensureDescribes reportKey = .ok () ∧
      ∃ parts : Parts, parts.Make d ∧ parts.ToldBy reportReadings) ∧
    ((fetchRole none reportKey).perform reportGonePeer).1 = .ok none := by
  have name : reportKey.roleName = "report" := by decide +kernel
  constructor
  · have found : ((fetchRole none reportKey).perform reportPeer).1.toOption.join.isSome = true := by
      decide +kernel
    have journal : ((fetchRole none reportKey).perform reportPeer).2.journal =
        (reportReadings.map (Reading.call none "report")).reverse ++ reportPeer.journal := by
      decide +kernel
    have asked : ∃ q, Heard none "report" reportPeer reportReadings q :=
      ⟨_, .next (.role rfl) <| .next (.names none rfl) <| .next (.names (some "more") rfl) <|
        .next (.policy "read" rfl) <| .next (.policy "write" rfl) <|
        .next (.attachments none rfl) <| .next (.tags none rfl) <| .done _⟩
    obtain ⟨q, asked⟩ := asked
    obtain ⟨signer, opened, readings, result, after, opens, run, heard, whole, -, -⟩ :=
      fetchRole_whole_or_nothing none reportKey reportPeer
    cases opens
    rw [run] at found journal ⊢
    rw [name] at heard
    obtain rfl := heard.unique asked (journal.trans asked.journal_eq.symm)
    rcases result with _ | _ | d
    · cases found
    · cases found
    · obtain ⟨describes, made⟩ := whole d rfl
      exact ⟨d, rfl, describes, made⟩
  · have journal : ((fetchRole none reportKey).perform reportGonePeer).2.journal =
        (reportGoneReadings.map (Reading.call none "report")).reverse ++
          reportGonePeer.journal := by
      decide +kernel
    have asked : ∃ q, Heard none "report" reportGonePeer reportGoneReadings q :=
      ⟨_, .next (.role rfl) <| .next (.names none rfl) <| .done _⟩
    obtain ⟨q, asked⟩ := asked
    obtain ⟨signer, opened, readings, result, after, opens, run, heard, -, -, failing⟩ :=
      fetchRole_whole_or_nothing none reportKey reportGonePeer
    cases opens
    rw [run] at journal ⊢
    rw [name] at heard
    obtain rfl := heard.unique asked (journal.trans asked.journal_eq.symm)
    have last : Reading.names none (.refused missingCode) ∈ reportGoneReadings :=
      List.mem_cons_of_mem _ List.mem_cons_self
    exact (failing _ last).1 rfl

end Iam

end AccessBroker
