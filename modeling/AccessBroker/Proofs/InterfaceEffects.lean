import AccessBroker.Proofs.Bystanders
import AccessBroker.Proofs.ConfigRaces
import AccessBroker.Proofs.GroupUpdates
import AccessBroker.Proofs.Queries

/-! # What a request to the interface may change

The path and the method of a request select one operation.  Those that are
selected by reading fill caches at most; each of the others has stores of its
own that it may change, and two of them ask for a capability first.
-/

namespace AccessBroker

open World (Alike SameButCaches)

namespace Service

variable {setup : Setup} {w : World}

/-- What is made of the result of a service does not change the world any further. -/
theorem left_return {α β : Type} (s : Service α) (f : α → β) :
    ((do return f (← s)).perform setup w).2 = (s.perform setup w).2 := by
  rw [perform_bind]
  cases s.perform setup w with
  | mk result left => cases result <;> rfl

/-! ## Writing the configuration -/

structure OverlooksConfig (p : World → Prop) : Prop where
  books : OverlooksBut tells p
  config : ∀ w t, p w → p { w with config := t }
  configCopy : ∀ w v, p w → p { w with configCopy := v }
  published : ∀ w s n, p w → p { w with published := s, publications := n }

namespace OverlooksConfig

variable {p : World → Prop}

theorem findMaster (h : OverlooksConfig p) (author : String) : Keeps setup p (findMaster author) :=
  .bind (.lift _) fun _ => .bind (.findConfig h.books _) fun _ => .pure _

theorem archiveConfig (h : OverlooksConfig p) (v : ConfigVersion) :
    Keeps setup p (archiveConfig v) :=
  .bind (.log h.books rfl) fun _ => .bind (.discard (.meet h.books _)) fun _ =>
    .bind .get fun _ => .bind (.lift _) fun _ => .modify fun w => h.config w _

theorem prepareWrite (h : OverlooksConfig p) (c : WriteCall) (author : NonBlank)
    (current : Option ConfigVersion) : Keeps setup p (prepareWrite c author current) := by
  refine .bind .get fun _ => .bind (.lift _) fun write => ?_
  cases write.archived with
  | none => exact .pure _
  | some v => exact .bind (h.archiveConfig v) fun _ => .pure _

theorem commitWrite (h : OverlooksConfig p) (expected : Option String) (write : ConfigWrite) :
    Keeps setup p (commitWrite expected write) := by
  have swapped : Keeps setup p (swapConfig expected write.version) := by
    refine .bind (.log h.books rfl) fun _ => .bind (.meet h.books _) fun effect => ?_
    split
    · exact .pure _
    · exact .modifyGet fun w => h.config w _
  refine .bind swapped fun done => ?_
  split
  · exact .bind (.adoptConfig h.books rfl h.configCopy h.published _) fun _ => .pure _
  · exact .throw _

/-- Every write leaves alone what none of its calls looks at. -/
theorem writeConfig (h : OverlooksConfig p) (document : ConfigDocument) (expected : Option String)
    (author : String) : Keeps setup p (writeConfig document expected author) := by
  have parts := writeConfig_eq ⟨document, expected, author⟩
  dsimp only at parts
  rw [parts]
  exact .bind (h.findMaster author) fun _ => .bind (h.prepareWrite _ _ _) fun _ => h.commitWrite _ _

end OverlooksConfig

/-- Nobody is told of attributes that are laid down. -/
theorem told_updateGroup (who : Identity) (group : String) (attributes : GroupAttributes)
    (calls : List Call) : Keeps setup (Told calls) (updateGroup who group attributes) := by
  have books : OverlooksBut tells (Told calls) := overlooks_made
  refine .refuse (.bind ?_ fun _ => .bind OverlooksReads.requireCapability fun _ =>
    .bind ?_ fun _ => .pure _)
  · exact .bind (.discard (.meet books _)) fun _ => .bind .get fun _ => .pure _
  · exact .bind (.log books rfl) fun _ => .bind (.discard (.meet books _)) fun _ =>
      .modify fun _ told => told

end Service

structure World.SameButConfig (before after : World) : Prop where
  requests : after.requests = before.requests
  directory : after.directory = before.directory
  cloud : after.cloud = before.cloud
  events : after.events = before.events

theorem Service.overlooksConfig_sameButConfig (w : World) : OverlooksConfig w.SameButConfig where
  books _ _ alike told h :=
    ⟨alike.requests.trans h.requests, alike.directory.trans h.directory, alike.cloud.trans h.cloud,
      (events_eq_of_told told).trans h.events⟩
  config _ _ h := { h with }
  configCopy _ _ h := { h with }
  published _ _ _ h := { h with }

/-- No call about requests changes the table of the configuration. -/
theorem RequestCall.config_after {setup : Setup} {w : World} (c : RequestCall) :
    (c.after setup w).config = w.config := by
  have books : Service.Overlooks fun left => left.config = w.config :=
    fun _ _ alike _ h => alike.config.trans h
  have tiers (key : RoleKey) :
      Service.OverlooksTiers (fun _ => false) key fun left => left.config = w.config :=
    ⟨books, ⟨rfl, rfl⟩, fun _ _ h => h, fun _ _ _ _ h => h⟩
  have aloof : Service.Aloof setup (fun _ => false) fun left => left.config = w.config := {
    books := books
    quiet := fun _ _ => rfl
    requests := fun _ _ h => h
    directory := fun _ _ h => h
    cloud := fun _ _ h => h
    eligible := fun _ _ h => h
    drawn := fun _ _ h => h
    reading := fun key force => .fetchRole (tiers key) rfl force }
  exact c.keeps_after aloof rfl rfl

namespace Interface

open Operation (parameter content)
open Service (Ends Keeps listsIn permits_editAttributes tidyAttributes)

/-! ## Which operation a request selects -/

def path : Endpoint → List String
  | .health => ["api", "health"]
  | .role => ["api", "roles"]
  | .eligibleRoles => ["api", "eligible-roles"]
  | .group name => ["api", "groups", name]
  | .requests => ["api", "requests"]
  | .pendingRequests => ["api", "requests", "pending"]
  | .request id => ["api", "requests", id]
  | .requestStatus id => ["api", "requests", id, "status"]
  | .requestChange id => ["api", "requests", id, "change"]
  | .config => ["api", "config"]
  | .configHistory => ["api", "config", "history"]
  | .archivedConfig id => ["api", "config", "history", id]

/-- Only its own path leads to an endpoint. -/
theorem eq_path_of_ofPath? {segments : List String} {endpoint : Endpoint}
    (h : Endpoint.ofPath? segments = some endpoint) : segments = path endpoint := by
  unfold Endpoint.ofPath? at h
  split at h
  all_goals try split at h
  all_goals cases h
  all_goals rfl

/-- What a path and a method select. -/
inductive Selected : List String → String → Operation → Prop where
  | read {segments : List String} {operation : Operation} (reads : operation.Reads) :
    Selected segments "GET" operation
  | writeGroup {encoded name : String} {attributes : GroupAttributes}
      (decoded : Text.percentDecoded? encoded = some name) :
    Selected ["api", "groups", encoded] "PUT" (.writeGroup name attributes)
  | submit {submission : Submission} : Selected ["api", "requests"] "POST" (.submit submission)
  | updateStatus {encoded id : String} {verdict : Verdict} :
    Selected ["api", "requests", encoded, "status"] "POST" (.updateStatus id verdict)
  | updateProposal {encoded id : String} {change : PolicyChange} :
    Selected ["api", "requests", encoded, "change"] "PUT" (.updateProposal id change)
  | writeConfig {proposal : ConfigProposal} :
    Selected ["api", "config"] "PUT" (.writeConfig proposal)

theorem percentDecoded?_of_parameter {encoded s : String} (h : parameter encoded = .ok s) :
    Text.percentDecoded? encoded = some s := by
  unfold parameter at h
  split at h
  · next found => cases h; exact found
  · cases h

theorem bind_eq_ok {ε α β : Type} {x : Except ε α} {f : α → Except ε β} {b : β} :
    (x >>= f) = .ok b ↔ ∃ a, x = .ok a ∧ f a = .ok b := by
  cases x <;> simp [bind, Except.bind]

theorem selected_of_ofRequest {endpoint : Endpoint} {r : Http.Request} {operation : Operation}
    (path : Endpoint.ofPath? r.target.segments = some endpoint)
    (h : Operation.ofRequest endpoint r = .ok operation) :
    Selected r.target.segments (Operation.method r) operation := by
  rw [eq_path_of_ofPath? path]
  unfold Operation.ofRequest at h
  split at h
  all_goals simp only [bind_eq_ok, pure, Except.pure, Except.ok.injEq] at h
  · next get =>
    obtain ⟨_, _, _, _, _, _, rfl⟩ := h
    exact get ▸ .read trivial
  · next get =>
    obtain ⟨_, _, rfl⟩ := h
    exact get ▸ .read trivial
  · next get =>
    obtain ⟨_, _, rfl⟩ := h
    exact get ▸ .read trivial
  · next put =>
    obtain ⟨name, decoded, attributes, _, rfl⟩ := h
    exact put ▸ .writeGroup (percentDecoded?_of_parameter decoded)
  · next get =>
    subst h
    exact get ▸ .read trivial
  · next post =>
    obtain ⟨submission, _, rfl⟩ := h
    exact post ▸ .submit
  · next get =>
    obtain ⟨_, _, rfl⟩ := h
    exact get ▸ .read trivial
  · next get =>
    obtain ⟨_, _, rfl⟩ := h
    exact get ▸ .read trivial
  · next post =>
    obtain ⟨id, _, verdict, _, rfl⟩ := h
    exact post ▸ .updateStatus
  · next put =>
    obtain ⟨id, _, change, _, rfl⟩ := h
    exact put ▸ .updateProposal
  · next get =>
    obtain ⟨_, _, rfl⟩ := h
    exact get ▸ .read trivial
  · next put =>
    obtain ⟨proposal, _, rfl⟩ := h
    exact put ▸ .writeConfig
  · next get =>
    obtain ⟨_, _, rfl⟩ := h
    exact get ▸ .read trivial
  · next get =>
    obtain ⟨_, _, rfl⟩ := h
    exact get ▸ .read trivial
  · cases h

theorem method_eq {r : Http.Request} {name : String} (selects : Operation.method r = name)
    (other : name ≠ "GET") : r.method = name := by
  unfold Operation.method at selects
  split at selects
  · exact absurd selects.symm other
  · exact selects

/-! ## What an operation may change -/

def Operation.Requesting : Operation → Prop
  | submit _ | updateStatus .. | updateProposal .. => True
  | readRole .. | listEligible _ | readGroup _ | writeGroup .. | listMine | listReviewable _
  | readRequest _ | readConfig _ | writeConfig _ | listArchive _ | readArchived _ => False

/-- What an operation of an identity may have changed. -/
inductive Operation.Effect (setup : Setup) (w : World) (who : Identity) :
    Operation → World → Prop where
  | cached {operation : Operation} {left : World} (same : w.SameButCaches left) :
    Effect setup w who operation left
  | group {name : String} {attributes : GroupAttributes} {left : World}
      (permitted : (listsIn setup w).permits who .editAttributes
        ((w.directory.attributes? (Text.trim name)).any (·.restricted)) = true)
      (alike : Alike { w with
        directory := w.directory.putAttributes (Text.trim name) (tidyAttributes attributes) } left)
      (quiet : left.events = w.events) : Effect setup w who (.writeGroup name attributes) left
  | config {proposal : ConfigProposal} {left : World}
      (permitted : (listsIn setup w).permits who .editConfig false = true)
      (same : w.SameButConfig left) : Effect setup w who (.writeConfig proposal) left
  | request {operation : Operation} {left : World} (requesting : operation.Requesting)
      (attributes : ∀ name, left.directory.attributes? name = w.directory.attributes? name)
      (config : left.config = w.config) : Effect setup w who operation left

variable {setup : Setup} {w : World}

theorem Operation.effect_of_call {who : Identity} {operation : Operation} {left : World}
    (requesting : operation.Requesting) (c : RequestCall) (noSweep : ∀ batch, c ≠ .expireDue batch)
    (same : left = c.after setup w) : Effect setup w who operation left := by
  subst same
  exact .request requesting (c.sameButOpen_after setup w noSweep).attributes c.config_after

theorem Operation.effect (setup : Setup) (w : World) (who : Identity) (operation : Operation) :
    Effect setup w who operation ((operation.perform who).perform setup w).2 := by
  have reading (reads : operation.Reads) :
      Effect setup w who operation ((operation.perform who).perform setup w).2 :=
    .cached (reads.keeps (Service.overlooksReads_sameButCaches w) who w (.refl w))
  cases operation with
  | writeGroup name attributes =>
    unfold perform
    rw [Service.left_return]
    have quiet : ((Service.updateGroup who name attributes).perform setup w).2.events = w.events :=
      Service.events_eq_of_told (Service.told_updateGroup who name attributes _ w rfl)
    exact Service.left_updateGroup
      (p := fun left => left.events = w.events → Effect setup w who (.writeGroup name attributes) left)
      (fun _ permitted alike quiet => .group permitted alike quiet)
      (fun _ alike quiet => .cached (.of_alike alike quiet)) quiet
  | submit submission =>
    unfold perform
    exact effect_of_call trivial (.submit who submission) nofun (Service.left_return ..)
  | updateStatus id verdict =>
    unfold perform
    exact effect_of_call trivial (.updateStatus who id verdict) nofun (Service.left_return ..)
  | updateProposal id change =>
    unfold perform
    exact effect_of_call trivial (.updateProposal who id change) nofun (Service.left_return ..)
  | writeConfig proposal =>
    have ends : Ends setup w ((writeConfig proposal).perform who)
        (fun _ left => Effect setup w who (writeConfig proposal) left)
        fun _ left => Effect setup w who (writeConfig proposal) left := by
      simp only [perform, Service.ends_bind, Service.ends_lift, Service.ends_pure]
      refine Service.ends_requireCapability (fun permitted => ?_) fun _ _ => .cached (.refl w)
      refine ⟨fun document _ => ?_, fun _ _ => .cached (.refl w)⟩
      have written : Keeps setup w.SameButConfig
          (Service.writeConfig document proposal.expected who.user) :=
        (Service.overlooksConfig_sameButConfig w).writeConfig document proposal.expected who.user
      exact written.ends ⟨rfl, rfl, rfl, rfl⟩ (fun _ _ same => .config permitted same)
        fun _ _ same => .config permitted same
    exact ends.left
  | readRole | listEligible | readGroup | listMine | listReviewable | readRequest | readConfig
  | listArchive | readArchived => exact reading trivial

/-! ## What a request may change -/

/-- An answer leaves the world as it was, or as the operation leaves it that the path and the method
select, for the identity that the header fields name. -/
theorem answer_left (setup : Setup) (w : World) (health : Health) (r : Http.Request) :
    ((answer health r).perform setup w).2 = w ∨
    ∃ who operation, Identity.ofHeaders r.headers = .ok who ∧
      Selected r.target.segments (Operation.method r) operation ∧
      ((answer health r).perform setup w).2 = ((operation.perform who).perform setup w).2 := by
  unfold answer
  rw [Service.left_return]
  unfold fullAnswer
  split
  · exact .inl rfl
  · exact .inl rfl
  · next endpoint path =>
    unfold answerCaller
    split
    · exact .inl rfl
    · next who named =>
      split
      · exact .inl rfl
      · next operation selected =>
        refine .inr ⟨who, operation, named, selected_of_ofRequest path selected, ?_⟩
        rw [Service.perform_tryCatch]
        cases (operation.perform who).perform setup w with
        | mk result left => cases result <;> rfl

/-- No header field names a user with a text that can be read and is not blank. -/
def Anonymous (r : Http.Request) : Prop :=
  ∀ field ∈ r.headers, field.name = userHeader →
    ∀ value, field.readable? = some value → Text.trim value = ""

theorem ofHeaders_of_anonymous {r : Http.Request} (anonymous : Anonymous r) :
    Identity.ofHeaders r.headers = .error (.unauthorized "authentication required") := by
  have nobody : callingUser? r.headers = none := by
    unfold callingUser?
    cases found : Http.header? r.headers userHeader with
    | none => rfl
    | some field =>
      have named : field.name = userHeader := by simpa using List.find?_some found
      cases text : field.readable? with
      | none => simp [text]
      | some value =>
        have blank := anonymous field (List.mem_of_find?_eq_some found) named value text
        simp [text, blank]
  rw [Identity.ofHeaders, nobody]

/-- A request for anything but the health of the interface is refused when no caller is named. -/
theorem answer_anonymous (health : Health) {r : Http.Request} {endpoint : Endpoint}
    (path : Endpoint.ofPath? r.target.segments = some endpoint) (guarded : endpoint ≠ .health)
    (anonymous : Anonymous r) :
    ∃ document, (answer health r).perform setup w = (.ok ⟨401, document⟩, w) := by
  have full : fullAnswer health r = answerCaller endpoint r := by
    unfold fullAnswer
    rw [path]
    cases endpoint <;> first | exact absurd rfl guarded | rfl
  have refused : answerCaller endpoint r =
      return failure (.unauthorized "authentication required") := by
    unfold answerCaller
    rw [ofHeaders_of_anonymous anonymous]
  unfold answer
  rw [full, refused, pure_bind]
  by_cases head : r.method = "HEAD"
  · rw [if_pos head]
    exact ⟨none, rfl⟩
  · rw [if_neg head]
    exact ⟨_, rfl⟩

def ActsOnRequests (r : Http.Request) : Prop :=
  r.method = "POST" ∧ r.target.segments = ["api", "requests"] ∨
  ∃ id, r.method = "POST" ∧ r.target.segments = ["api", "requests", id, "status"] ∨
    r.method = "PUT" ∧ r.target.segments = ["api", "requests", id, "change"]

def MayEditGroup (setup : Setup) (w : World) (r : Http.Request) (name : String) : Prop :=
  r.method = "PUT" ∧ ∃ encoded group, r.target.segments = ["api", "groups", encoded] ∧
    Text.percentDecoded? encoded = some group ∧ Text.normalize group = Text.normalize name ∧
    ∃ who, Identity.ofHeaders r.headers = .ok who ∧
      (listsIn setup w).permits who .editAttributes false = true

def MayEditConfig (setup : Setup) (w : World) (r : Http.Request) : Prop :=
  r.method = "PUT" ∧ r.target.segments = ["api", "config"] ∧
    ∃ who, Identity.ofHeaders r.headers = .ok who ∧
      (listsIn setup w).permits who .editConfig false = true

/-- What an answer to a request leaves as it was. -/
structure Confined (setup : Setup) (w : World) (r : Http.Request) (left : World) : Prop where
  reading : Operation.method r = "GET" → w.SameButCaches left
  config : left.config = w.config ∨ MayEditConfig setup w r
  attributes : ∀ name,
    left.directory.attributes? name = w.directory.attributes? name ∨ MayEditGroup setup w r name
  requests : left.requests = w.requests ∨ ActsOnRequests r
  members : (∀ name, left.directory.members name = w.directory.members name) ∨ ActsOnRequests r
  cloud : left.cloud = w.cloud ∨ ActsOnRequests r
  events : left.events = w.events ∨ ActsOnRequests r

theorem Confined.of_same {r : Http.Request} {left : World} (same : w.SameButCaches left) :
    Confined setup w r left := by
  have directory := same.directory
  exact ⟨fun _ => same, .inl same.config, fun name => .inl (by rw [directory]), .inl same.requests,
    .inl fun name => (by rw [directory]), .inl same.cloud, .inl same.events⟩

theorem Confined.group {r : Http.Request} {who : Identity} {name : String}
    {attributes : GroupAttributes} {left : World} (named : Identity.ofHeaders r.headers = .ok who)
    (selected : Selected r.target.segments (Operation.method r) (.writeGroup name attributes))
    (permitted : (listsIn setup w).permits who .editAttributes
      ((w.directory.attributes? (Text.trim name)).any (·.restricted)) = true)
    (alike : Alike { w with
      directory := w.directory.putAttributes (Text.trim name) (tidyAttributes attributes) } left)
    (quiet : left.events = w.events) : Confined setup w r left := by
  generalize segments : r.target.segments = path, method : Operation.method r = word at selected
  cases selected with
  | read reads => exact reads.elim
  | writeGroup decoded =>
    have put : r.method = "PUT" := method_eq method (by decide)
    refine ⟨fun get => ?_, .inl alike.config, fun other => ?_, .inl alike.requests,
      .inl fun other => ?_, .inl alike.cloud, .inl quiet⟩
    · rw [method] at get
      exact absurd get (by decide)
    · by_cases same : Text.normalize name = Text.normalize other
      · exact .inr ⟨put, _, name, segments, decoded, same, who, named,
          permits_editAttributes .. ▸ permitted⟩
      · left
        have apart : Text.normalize other ≠ Text.normalize (Text.trim name) := by
          rw [Text.normalize_trim]
          exact fun is => same is.symm
        rw [alike.directory, Directory.attributes?_putAttributes_of_ne apart]
    · rw [alike.directory]
      exact Directory.members_putAttributes w.directory _ _ other

theorem Confined.config_written {r : Http.Request} {who : Identity} {proposal : ConfigProposal}
    {left : World} (named : Identity.ofHeaders r.headers = .ok who)
    (selected : Selected r.target.segments (Operation.method r) (.writeConfig proposal))
    (permitted : (listsIn setup w).permits who .editConfig false = true)
    (same : w.SameButConfig left) : Confined setup w r left := by
  have directory := same.directory
  generalize segments : r.target.segments = path, method : Operation.method r = word at selected
  cases selected with
  | read reads => exact reads.elim
  | writeConfig =>
    have put : r.method = "PUT" := method_eq method (by decide)
    refine ⟨fun get => ?_, .inr ⟨put, segments, who, named, permitted⟩, fun name => .inl ?_,
      .inl same.requests, .inl fun name => ?_, .inl same.cloud, .inl same.events⟩
    · rw [method] at get
      exact absurd get (by decide)
    · rw [directory]
    · rw [directory]

theorem Selected.actsOnRequests {r : Http.Request} {operation : Operation}
    (selected : Selected r.target.segments (Operation.method r) operation)
    (requesting : operation.Requesting) : ActsOnRequests r ∧ Operation.method r ≠ "GET" := by
  generalize segments : r.target.segments = path, method : Operation.method r = word at selected
  cases selected with
  | read reads => cases operation <;> first | exact reads.elim | exact requesting.elim
  | writeGroup => exact requesting.elim
  | writeConfig => exact requesting.elim
  | submit => exact ⟨.inl ⟨method_eq method (by decide), segments⟩, by decide⟩
  | updateStatus =>
    exact ⟨.inr ⟨_, .inl ⟨method_eq method (by decide), segments⟩⟩, by decide⟩
  | updateProposal =>
    exact ⟨.inr ⟨_, .inr ⟨method_eq method (by decide), segments⟩⟩, by decide⟩

theorem Confined.of_effect {r : Http.Request} {who : Identity} {operation : Operation}
    {left : World} (named : Identity.ofHeaders r.headers = .ok who)
    (selected : Selected r.target.segments (Operation.method r) operation)
    (effect : operation.Effect setup w who left) : Confined setup w r left := by
  cases effect with
  | cached same => exact .of_same same
  | group permitted alike quiet => exact .group named selected permitted alike quiet
  | config permitted same => exact .config_written named selected permitted same
  | request requesting attributes config =>
    obtain ⟨acts, noGet⟩ := selected.actsOnRequests requesting
    exact ⟨fun get => absurd get noGet, .inl config, fun name => .inl (attributes name),
      .inr acts, .inr acts, .inr acts, .inr acts⟩

/-- A request that names no caller is refused by everything but the health of the interface, and
nothing changes.  Reading fills caches at most.  The configuration and the attributes of groups are
changed only by those who may edit them by the lists in force before, each only with its own request;
requests, members and roles are changed, and listeners told, only by handing in, deciding or editing
requests. -/
theorem answer_confined (setup : Setup) (w : World) (health : Health) (r : Http.Request) :
    (∀ endpoint, Endpoint.ofPath? r.target.segments = some endpoint → endpoint ≠ .health →
      Anonymous r → ∃ document, (answer health r).perform setup w = (.ok ⟨401, document⟩, w)) ∧
    Confined setup w r ((answer health r).perform setup w).2 := by
  refine ⟨fun endpoint path guarded anonymous =>
    answer_anonymous health path guarded anonymous, ?_⟩
  rcases answer_left setup w health r with same |
    ⟨who, operation, named, selected, same⟩
  · rw [same]
    exact .of_same (.refl w)
  · rw [same]
    exact .of_effect named selected (operation.effect setup w who)

def namelessWrite : Http.Request :=
  ⟨"PUT", ⟨["api", "config"], []⟩, [⟨userHeader, "  "⟩], ""⟩

theorem nameless_write_refused :
    Anonymous namelessWrite ∧
    ∃ document, (answer ⟨.ok, .disabled⟩ namelessWrite).perform default default =
      (.ok ⟨401, document⟩, default) := by
  have anonymous : Anonymous namelessWrite := by
    intro field member named value text
    rw [namelessWrite, List.mem_singleton] at member
    subst member
    have readable : Http.Header.readable? ⟨userHeader, "  "⟩ = some "  " := by decide
    obtain rfl : "  " = value := Option.some.inj (readable.symm.trans text)
    decide
  obtain ⟨refused, -⟩ := answer_confined default default ⟨.ok, .disabled⟩ namelessWrite
  exact ⟨anonymous, refused .config (by decide) (by decide) anonymous⟩

end Interface

end AccessBroker
