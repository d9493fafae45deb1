import AccessBroker.Iam.Source

/-! # What is read of a role

A conversation about a role is a list of readings: the calls that were made, each
with its answer.  Conversations compose with their readings.  A reading that fails
is the last one, and it decides what the conversation comes to.
-/

namespace AccessBroker.Iam

/-! ## Conversations with a peer -/

namespace Session

variable {α β : Type} {p q : Peer}

theorem perform_lift (x : Except Error α) : (lift x).perform p = (x, p) := rfl

theorem perform_bind (x : Session α) (f : α → Session β) :
    (x >>= f).perform p =
      match x.perform p with
      | (.ok a, q) => (f a).perform q
      | (.error e, q) => (.error e, q) := by
  have runs : (x >>= f).perform p =
      match x.perform p with
      | (result, q) => ExceptT.bindCont f result q := rfl
  rw [runs]
  cases x.perform p with
  | mk result q => cases result <;> rfl

theorem perform_bind_of_ok {x : Session α} {a : α} (run : x.perform p = (.ok a, q))
    (f : α → Session β) : (x >>= f).perform p = (f a).perform q := by
  rw [perform_bind, run]

theorem perform_bind_of_error {x : Session α} {e : Error} (run : x.perform p = (.error e, q))
    (f : α → Session β) : (x >>= f).perform p = (.error e, q) := by
  rw [perform_bind, run]

theorem perform_map (f : α → β) (x : Session α) :
    (f <$> x).perform p = ((x.perform p).1.map f, (x.perform p).2) := by
  have runs : (f <$> x).perform p =
      match x.perform p with
      | (.ok a, q) => (.ok (f a), q)
      | (.error e, q) => (.error e, q) := by
    rw [← bind_pure_comp]
    exact perform_bind x fun a => pure (f a)
  rw [runs]
  obtain ⟨result, q⟩ := x.perform p
  cases result <;> rfl

theorem perform_tryCatch (x : Session α) (handle : Error → Session α) :
    (tryCatch x handle).perform p =
      match x.perform p with
      | (.ok a, q) => (.ok a, q)
      | (.error e, q) => (handle e).perform q := by
  cases run : x.perform p with
  | mk result q =>
    have run : x p = (result, q) := run
    simp only [perform, tryCatch, tryCatchThe, MonadExceptOf.tryCatch, ExceptT.run, StateT.run,
      ExceptT.tryCatch, ExceptT.mk, bind, StateT.bind, run]
    cases result <;> rfl

theorem perform_call (action : Action) (signer : Option String)
    (parameters : List (String × String)) (select : Script → List (Reply α))
    (store : Script → List (Reply α) → Script) :
    (call action signer parameters select store).perform p =
      (.ok (nextReply (select p.script)).1,
        ⟨store p.script (nextReply (select p.script)).2, ⟨action, signer, parameters⟩ :: p.journal,
          p.assumed⟩) := rfl

theorem perform_logs (markers : List (Option String)) (call : Option String → Call) :
    (forIn markers PUnit.unit fun marker _ => do
      log (call marker)
      pure (ForInStep.yield PUnit.unit) : Session PUnit).perform p =
      (.ok (), { p with journal := (markers.map call).reverse ++ p.journal }) := by
  induction markers generalizing p with
  | nil => rfl
  | cons marker markers ih =>
    have first : (log (call marker)).perform p =
      (.ok (), { p with journal := call marker :: p.journal }) := rfl
    simp only [List.forIn_cons, bind_assoc, pure_bind]
    rw [perform_bind_of_ok first]
    refine ih.trans ?_
    simp

theorem perform_listAll (action : Action) (signer : Option String)
    (parameters : List (String × String)) (select : Script → List (Reply (Page α)))
    (store : Script → List (Reply (Page α)) → Script) :
    (listAll action signer parameters select store).perform p =
      ((list action none (select p.script)).result,
        ⟨store p.script (list action none (select p.script)).left,
          ((list action none (select p.script)).markers.map fun marker =>
            (⟨action, signer, parameters ++ (marker.map fun m => ("Marker", m)).toList⟩ :
              Call)).reverse ++ p.journal,
          p.assumed⟩) := by
  have asks : (get : Session Peer).perform p = (.ok p, p) := rfl
  rw [listAll, perform_bind_of_ok asks]
  dsimp only
  rw [perform_bind_of_ok (perform_logs _ _)]
  rfl

end Session

/-! ## Readings -/

namespace Reply

variable {α : Type}

def outcome : Reply α → Reply Unit
  | answered _ => .answered ()
  | refused code => .refused code
  | unreadable => .unreadable
  | cutOff => .cutOff
  | timedOut => .timedOut

theorem result_eq_ok_iff {action : Action} {reply : Reply α} {a : α} :
    reply.result action = .ok a ↔ reply = .answered a := by
  cases reply <;> simp [result]

theorem result_outcome_eq_error_iff {action : Action} {reply : Reply α} {e : Error} :
    reply.outcome.result action = .error e ↔ reply.result action = .error e := by
  cases reply <;> simp [outcome, result]

end Reply

/-- A question about a role, with the reply to it. -/
inductive Reading where
  | role (reply : Reply RoleRecord)
  | names (marker : Option String) (reply : Reply (Page String))
  | policy (name : String) (reply : Reply String)
  | attachments (marker : Option String) (reply : Reply (Page AttachedPolicy))
  | tags (marker : Option String) (reply : Reply (Page (String × String)))

namespace Reading

def action : Reading → Action
  | role _ => .getRole
  | names .. => .listRolePolicies
  | policy .. => .getRolePolicy
  | attachments .. => .listAttachedRolePolicies
  | tags .. => .listRoleTags

def details : Reading → List (String × String)
  | role _ => []
  | policy name _ => [("PolicyName", name)]
  | names marker _ | attachments marker _ | tags marker _ =>
    (marker.map fun m => ("Marker", m)).toList

def call (signer : Option String) (name : String) (r : Reading) : Call :=
  ⟨r.action, signer, ("RoleName", name) :: r.details⟩

def outcome : Reading → Reply Unit
  | role reply => reply.outcome
  | names _ reply => reply.outcome
  | policy _ reply => reply.outcome
  | attachments _ reply => reply.outcome
  | tags _ reply => reply.outcome

def Answered (r : Reading) : Prop :=
  r.outcome = .answered ()

def result (r : Reading) : Except Error Unit :=
  r.outcome.result r.action

theorem not_answered_of_error {r : Reading} {e : Error} (fails : r.result = .error e) :
    ¬ r.Answered := by
  intro answered
  rw [result, answered] at fails
  cases fails

end Reading

/-- A script has the reply to a question next, and others are left. -/
inductive Gives : Script → Reading → Script → Prop where
  | role {s : Script} {reply : Reply RoleRecord} {left : List (Reply RoleRecord)}
      (next : nextReply s.getRole = (reply, left)) :
      Gives s (.role reply) { s with getRole := left }
  | names {s : Script} (marker : Option String) {reply : Reply (Page String)}
      {left : List (Reply (Page String))} (next : nextReply s.listRolePolicies = (reply, left)) :
      Gives s (.names marker reply) { s with listRolePolicies := left }
  | policy {s : Script} (name : String) {reply : Reply String} {left : List (Reply String)}
      (next : nextReply s.getRolePolicy = (reply, left)) :
      Gives s (.policy name reply) { s with getRolePolicy := left }
  | attachments {s : Script} (marker : Option String) {reply : Reply (Page AttachedPolicy)}
      {left : List (Reply (Page AttachedPolicy))}
      (next : nextReply s.listAttachedRolePolicies = (reply, left)) :
      Gives s (.attachments marker reply) { s with listAttachedRolePolicies := left }
  | tags {s : Script} (marker : Option String) {reply : Reply (Page (String × String))}
      {left : List (Reply (Page (String × String)))}
      (next : nextReply s.listRoleTags = (reply, left)) :
      Gives s (.tags marker reply) { s with listRoleTags := left }

/-- A peer is asked the questions of the readings about a role, one after the other, and replies as
they say. -/
inductive Heard (signer : Option String) (name : String) : Peer → List Reading → Peer → Prop where
  | done (p : Peer) : Heard signer name p [] p
  | next {p q : Peer} {r : Reading} {left : Script} {rest : List Reading}
      (gives : Gives p.script r left)
      (later : Heard signer name ⟨left, r.call signer name :: p.journal, p.assumed⟩ rest q) :
      Heard signer name p (r :: rest) q

/-- What readings come to.  If all are answered, they make a value, or something in them is of no
use; otherwise the last one has failed. -/
inductive Came {α : Type} (Made : List Reading → α → Prop) (Useless : List Reading → Error → Prop) :
    List Reading → Except Error α → Prop where
  | made {readings : List Reading} {a : α} (answered : ∀ r ∈ readings, r.Answered)
      (made : Made readings a) : Came Made Useless readings (.ok a)
  | failed {before : List Reading} {r : Reading} {e : Error}
      (answered : ∀ r ∈ before, r.Answered) (fails : r.result = .error e) :
      Came Made Useless (before ++ [r]) (.error e)
  | useless {readings : List Reading} {e : Error} (answered : ∀ r ∈ readings, r.Answered)
      (useless : Useless readings e) : Came Made Useless readings (.error e)

/-- However a peer replies, a session makes readings about a role and comes to what they make. -/
def Reads {α : Type} (signer : Option String) (name : String) (session : Session α)
    (Made : List Reading → α → Prop) (Useless : List Reading → Error → Prop) : Prop :=
  ∀ p, ∃ readings result q, session.perform p = (result, q) ∧ Heard signer name p readings q ∧
    Came Made Useless readings result

section

variable {α β : Type} {signer : Option String} {name : String} {p q : Peer} {r : Reading}
  {readings later : List Reading} {e : Error} {Made : List Reading → α → Prop}
  {Useless : List Reading → Error → Prop}

theorem Heard.append {o : Peer} (first : Heard signer name p readings q)
    (second : Heard signer name q later o) : Heard signer name p (readings ++ later) o := by
  induction first with
  | done => exact second
  | next gives _ ih => exact .next gives (ih second)

/-- The journal tells the questions of all readings, the latest one first. -/
theorem Heard.journal_eq (heard : Heard signer name p readings q) :
    q.journal = (readings.map (Reading.call signer name)).reverse ++ p.journal := by
  induction heard with
  | done => rfl
  | next _ _ ih => simp [ih]

/-- A question has one reply. -/
theorem Gives.unique {s left left' : Script} {r' : Reading} (gives : Gives s r left)
    (gives' : Gives s r' left') (same : r.call signer name = r'.call signer name) :
    r = r' ∧ left = left' := by
  have actions : r.action = r'.action := congrArg Call.action same
  have details : r.details = r'.details := (List.cons.inj (congrArg Call.parameters same)).2
  have markers {marker marker' : Option String}
      (same : (marker.map fun m => ("Marker", m)).toList =
        (marker'.map fun m => ("Marker", m)).toList) : marker = marker' := by
    cases marker <;> cases marker' <;> simp_all
  cases gives with
  | role next =>
    cases gives' with
    | role next' =>
      cases next.symm.trans next'
      exact ⟨rfl, rfl⟩
    | _ => cases actions
  | policy policy next =>
    cases gives' with
    | policy policy' next' =>
      cases next.symm.trans next'
      cases details
      exact ⟨rfl, rfl⟩
    | _ => cases actions
  | names marker next =>
    cases gives' with
    | names marker' next' =>
      cases next.symm.trans next'
      exact ⟨by rw [markers details], rfl⟩
    | _ => cases actions
  | attachments marker next =>
    cases gives' with
    | attachments marker' next' =>
      cases next.symm.trans next'
      exact ⟨by rw [markers details], rfl⟩
    | _ => cases actions
  | tags marker next =>
    cases gives' with
    | tags marker' next' =>
      cases next.symm.trans next'
      exact ⟨by rw [markers details], rfl⟩
    | _ => cases actions

/-- What was read shows in the journal. -/
theorem Heard.unique {readings' : List Reading} {q' : Peer}
    (heard : Heard signer name p readings q) (heard' : Heard signer name p readings' q')
    (told : q.journal = q'.journal) : readings = readings' := by
  have calls : readings.map (Reading.call signer name) =
      readings'.map (Reading.call signer name) := by
    rw [heard.journal_eq, heard'.journal_eq] at told
    exact List.reverse_inj.1 (List.append_cancel_right told)
  clear told
  induction heard generalizing readings' with
  | done =>
    cases heard' with
    | done => rfl
    | next => cases calls
  | next gives _ ih =>
    cases heard' with
    | done => cases calls
    | next gives' later' =>
      obtain ⟨first, rest⟩ := List.cons.inj calls
      obtain ⟨rfl, rfl⟩ := gives.unique gives' first
      rw [ih later' rest]

theorem Came.alone (fails : r.result = .error e) : Came Made Useless [r] (.error e) :=
  @Came.failed α Made Useless [] r e nofun fails

/-- If a reading was not answered, its error is what all came to. -/
theorem Came.eq_of_failed {result : Except Error α}
    (came : Came Made Useless readings result) (here : r ∈ readings) (fails : r.result = .error e) :
    result = .error e := by
  have open' := Reading.not_answered_of_error fails
  cases came with
  | made answered => exact absurd (answered r here) open'
  | useless answered => exact absurd (answered r here) open'
  | failed answered fails' =>
    rcases List.mem_append.1 here with before | last
    · exact absurd (answered r before) open'
    · rw [List.mem_singleton.1 last, fails'] at fails
      rw [Except.error.inj fails]

/-- What readings come to after others that were answered. -/
theorem Came.after {More : List Reading → β → Prop} {Harm : List Reading → Error → Prop}
    {result : Except Error α} {g : α → β} (answered : ∀ r ∈ readings, r.Answered)
    (came : Came Made Useless later result)
    (more : ∀ a, Made later a → More (readings ++ later) (g a))
    (harm : ∀ e, Useless later e → Harm (readings ++ later) e) :
    Came More Harm (readings ++ later) (result.map g) := by
  have all {rs : List Reading} (others : ∀ r ∈ rs, r.Answered) :
      ∀ r ∈ readings ++ rs, r.Answered :=
    List.forall_mem_append.2 ⟨answered, others⟩
  cases came with
  | made others made => exact .made (all others) (more _ made)
  | failed others fails =>
    rw [← List.append_assoc]
    exact .failed (all others) fails
  | useless others useless => exact .useless (all others) (harm _ useless)

namespace Reads

theorem value {a : α} (made : Made [] a) : Reads signer name (pure a) Made Useless :=
  fun p => ⟨[], .ok a, p, rfl, .done p, .made nofun made⟩

theorem lift (signer : Option String) (name : String) (x : Except Error α) :
    Reads signer name (Session.lift x) (fun readings a => readings = [] ∧ x = .ok a)
      fun readings e => readings = [] ∧ x = .error e := by
  intro p
  refine ⟨[], x, p, rfl, .done p, ?_⟩
  cases x with
  | ok a => exact .made nofun ⟨rfl, rfl⟩
  | error e => exact .useless nofun ⟨rfl, rfl⟩

theorem mono {session : Session α} {More : List Reading → α → Prop}
    {Harm : List Reading → Error → Prop} (reads : Reads signer name session Made Useless)
    (more : ∀ rs a, Made rs a → More rs a) (harm : ∀ rs e, Useless rs e → Harm rs e) :
    Reads signer name session More Harm := by
  intro p
  obtain ⟨readings, result, q, run, heard, came⟩ := reads p
  refine ⟨readings, result, q, run, heard, ?_⟩
  cases came with
  | made answered made => exact .made answered (more _ _ made)
  | failed answered fails => exact .failed answered fails
  | useless answered useless => exact .useless answered (harm _ _ useless)

/-- Sessions that follow one another read one after the other, unless the first one fails. -/
theorem bind {x : Session α} {f : α → Session β} {Next : α → List Reading → β → Prop}
    {Spoilt : α → List Reading → Error → Prop} (first : Reads signer name x Made Useless)
    (second : ∀ a, Reads signer name (f a) (Next a) (Spoilt a)) :
    Reads signer name (x >>= f)
      (fun readings b =>
        ∃ a before after, Made before a ∧ Next a after b ∧ readings = before ++ after)
      fun readings e => Useless readings e ∨
        ∃ a before after, Made before a ∧ Spoilt a after e ∧ readings = before ++ after := by
  intro p
  obtain ⟨before, result, q, run, heard, came⟩ := first p
  cases came with
  | @made _ a answered made =>
    obtain ⟨after, result', q', run', heard', came'⟩ := second a q
    refine ⟨before ++ after, result', q', ?_, heard.append heard', ?_⟩
    · rw [Session.perform_bind_of_ok run, run']
    · have same : result'.map id = result' := congrFun Except.map_id result'
      rw [← same]
      exact came'.after answered (fun b made' => ⟨a, before, after, made, made', rfl⟩)
        fun e spoilt => .inr ⟨a, before, after, made, spoilt, rfl⟩
  | failed answered fails =>
    exact ⟨_, _, q, Session.perform_bind_of_error run f, heard, .failed answered fails⟩
  | useless answered useless =>
    exact ⟨_, _, q, Session.perform_bind_of_error run f, heard, .useless answered (.inl useless)⟩

theorem map {x : Session α} (reads : Reads signer name x Made Useless) (g : α → β) :
    Reads signer name (x >>= fun a => pure (g a)) (fun readings b => ∃ a, Made readings a ∧ b = g a)
      Useless := by
  have returns (a : α) : Reads signer name (Pure.pure (g a))
      (fun readings b => readings = [] ∧ b = g a) fun _ _ => False := .value ⟨rfl, rfl⟩
  refine (reads.bind returns).mono ?_ ?_
  · rintro _ _ ⟨a, readings, _, made, ⟨rfl, rfl⟩, rfl⟩
    rw [List.append_nil]
    exact ⟨a, made, rfl⟩
  · rintro readings e (useless | ⟨_, _, _, _, never, _⟩)
    · exact useless
    · exact never.elim

/-- A question with its answer is one reading. -/
theorem ask (signer : Option String) (name : String) {action : Action}
    {details : List (String × String)} {select : Script → List (Reply α)}
    {store : Script → List (Reply α) → Script} {reading : Reply α → Reading}
    (gives : ∀ {s reply left}, nextReply (select s) = (reply, left) →
      Gives s (reading reply) (store s left))
    (call : ∀ reply, (reading reply).call signer name =
      ⟨action, signer, ("RoleName", name) :: details⟩)
    (outcome : ∀ reply, (reading reply).outcome = reply.outcome) :
    Reads signer name
      (Session.call action signer (("RoleName", name) :: details) select store >>= fun reply =>
        Session.lift (reply.result action))
      (fun readings a => readings = [reading (.answered a)]) fun _ _ => False := by
  intro p
  have run := Session.perform_call (p := p) action signer (("RoleName", name) :: details) select
    store
  have given : Gives p.script (reading (nextReply (select p.script)).1)
      (store p.script (nextReply (select p.script)).2) := gives rfl
  generalize nextReply (select p.script) = next at run given
  obtain ⟨reply, left⟩ := next
  refine ⟨[reading reply], reply.result action, _, Session.perform_bind_of_ok run _,
    .next given ?_, ?_⟩
  · rw [call]
    exact .done _
  · have told : (reading reply).action = action := congrArg Call.action (call reply)
    cases result : reply.result action with
    | ok a =>
      obtain rfl := Reply.result_eq_ok_iff.1 result
      exact .made (List.forall_mem_singleton.2 (outcome _)) rfl
    | error e =>
      have fails : (reading reply).result = .error e := by
        rw [Reading.result, outcome, told, Reply.result_outcome_eq_error_iff, result]
      exact .alone fails

end Reads

end

/-! ## Listings -/

/-- The pages of a listing from a marker on.  Each one but the last is truncated and has the marker
that the next one is asked for with. -/
inductive Follows {α : Type} (reading : Option String → Reply (Page α) → Reading) :
    Option String → List Reading → List (Page α) → Prop where
  | last {marker : Option String} {page : Page α}
      (ends : page.truncated = false ∨ page.marker = none) :
      Follows reading marker [reading marker (.answered page)] [page]
  | more {marker : Option String} {page : Page α} {next : String} {readings : List Reading}
      {pages : List (Page α)} (truncated : page.truncated = true) (marked : page.marker = some next)
      (rest : Follows reading (some next) readings pages) :
      Follows reading marker (reading marker (.answered page) :: readings) (page :: pages)

structure Listed (α : Type) where
  action : Action
  select : Script → List (Reply (Page α))
  store : Script → List (Reply (Page α)) → Script
  reading : Option String → Reply (Page α) → Reading
  select_store : ∀ s left, select (store s left) = left
  store_store : ∀ s left others, store (store s left) others = store s others
  gives : ∀ marker {s reply left}, nextReply (select s) = (reply, left) →
    Gives s (reading marker reply) (store s left)
  call_reading : ∀ signer name marker reply, (reading marker reply).call signer name =
    ⟨action, signer, [("RoleName", name)] ++ (marker.map fun m => ("Marker", m)).toList⟩
  outcome_reading : ∀ marker reply, (reading marker reply).outcome = reply.outcome

namespace Listed

def names : Listed String where
  action := .listRolePolicies
  select := (·.listRolePolicies)
  store s left := { s with listRolePolicies := left }
  reading := .names
  select_store _ _ := rfl
  store_store _ _ _ := rfl
  gives marker := .names marker
  call_reading _ _ _ _ := rfl
  outcome_reading _ _ := rfl

def attachments : Listed AttachedPolicy where
  action := .listAttachedRolePolicies
  select := (·.listAttachedRolePolicies)
  store s left := { s with listAttachedRolePolicies := left }
  reading := .attachments
  select_store _ _ := rfl
  store_store _ _ _ := rfl
  gives marker := .attachments marker
  call_reading _ _ _ _ := rfl
  outcome_reading _ _ := rfl

def tags : Listed (String × String) where
  action := .listRoleTags
  select := (·.listRoleTags)
  store s left := { s with listRoleTags := left }
  reading := .tags
  select_store _ _ := rfl
  store_store _ _ _ := rfl
  gives marker := .tags marker
  call_reading _ _ _ _ := rfl
  outcome_reading _ _ := rfl

variable {α : Type} {p : Peer}

theorem result_reading (kind : Listed α) (marker : Option String) {reply : Reply (Page α)}
    {e : Error} (fails : reply.result kind.action = .error e) :
    (kind.reading marker reply).result = .error e := by
  have told : (kind.reading marker reply).action = kind.action :=
    congrArg Call.action (kind.call_reading none "" marker reply)
  rw [Reading.result, kind.outcome_reading, told, Reply.result_outcome_eq_error_iff, fails]

theorem answered_reading (kind : Listed α) (marker : Option String) (page : Page α) :
    (kind.reading marker (.answered page)).Answered :=
  kind.outcome_reading marker _

theorem next?_eq_none_iff {page : Page α} :
    page.next? = none ↔ page.truncated = false ∨ page.marker = none := by
  rw [Page.next?]
  cases page.truncated <;> simp

theorem next?_eq_some_iff {page : Page α} {next : String} :
    page.next? = some next ↔ page.truncated = true ∧ page.marker = some next := by
  rw [Page.next?]
  cases page.truncated <;> simp

def call (kind : Listed α) (signer : Option String) (name : String) (marker : Option String) :
    Call :=
  ⟨kind.action, signer, [("RoleName", name)] ++ (marker.map fun m => ("Marker", m)).toList⟩

/-- A listing asks for page after page. -/
theorem heard_list (kind : Listed α) (signer : Option String) (name : String)
    (marker : Option String) (p : Peer) {answers : List (Reply (Page α))}
    (stand : kind.select p.script = answers) :
    let listing := list kind.action marker answers
    ∃ readings,
      Heard signer name p readings ⟨kind.store p.script listing.left,
        (listing.markers.map (kind.call signer name)).reverse ++ p.journal, p.assumed⟩ ∧
      Came (fun readings items =>
          ∃ pages, Follows kind.reading marker readings pages ∧ items = pages.flatMap (·.items))
        (fun _ _ => False) readings listing.result := by
  have asked {p : Peer} {marker : Option String} {reply : Reply (Page α)}
      {left : List (Reply (Page α))} (next : nextReply (kind.select p.script) = (reply, left)) :
      Heard signer name p [kind.reading marker reply] ⟨kind.store p.script left,
        kind.call signer name marker :: p.journal, p.assumed⟩ := by
    refine .next (kind.gives marker next) ?_
    rw [kind.call_reading]
    exact .done _
  -- The answers that are left tell how far the listing goes; each page leaves another peer.
  fun_induction list kind.action marker answers generalizing p with
  | case1 marker =>
    exact ⟨_, asked (by rw [stand]; rfl), .alone (kind.result_reading marker rfl)⟩
  | case2 marker reply left e fails =>
    exact ⟨_, asked (by rw [stand]; rfl), .alone (kind.result_reading marker fails)⟩
  | case3 marker reply left page told ended =>
    obtain rfl := Reply.result_eq_ok_iff.1 told
    refine ⟨_, asked (by rw [stand]; rfl),
      .made (List.forall_mem_singleton.2 (kind.answered_reading ..)) ⟨[page], ?_, ?_⟩⟩
    · exact .last (next?_eq_none_iff.1 ended)
    · simp
  | case4 marker reply left page told follower marked more ih =>
    obtain rfl := Reply.result_eq_ok_iff.1 told
    obtain ⟨truncated, has⟩ := next?_eq_some_iff.1 marked
    let next : Peer :=
      ⟨kind.store p.script left, kind.call signer name marker :: p.journal, p.assumed⟩
    have first : Heard signer name p [kind.reading marker (.answered page)] next :=
      asked (by rw [stand]; rfl)
    obtain ⟨readings, heard, came⟩ := ih next (kind.select_store p.script left)
    refine ⟨[kind.reading marker (.answered page)] ++ readings, ?_, ?_⟩
    · have both := first.append heard
      rw [kind.store_store] at both
      simpa using both
    · refine came.after (List.forall_mem_singleton.2 (kind.answered_reading ..)) ?_ fun _ => id
      rintro items ⟨pages, follows, rfl⟩
      exact ⟨page :: pages, .more truncated has follows, rfl⟩

end Listed

/-- A listing that comes to its end has followed all pages. -/
theorem Reads.listAll {α : Type} (kind : Listed α) (signer : Option String) (name : String) :
    Reads signer name
      (Session.listAll kind.action signer [("RoleName", name)] kind.select kind.store)
      (fun readings items =>
        ∃ pages, Follows kind.reading none readings pages ∧ items = pages.flatMap (·.items))
      fun _ _ => False := by
  intro p
  obtain ⟨readings, heard, came⟩ := kind.heard_list signer name none p rfl
  exact ⟨readings, _, _, Session.perform_listAll .., heard, came⟩

end AccessBroker.Iam
