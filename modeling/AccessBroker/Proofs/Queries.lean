import AccessBroker.Interface.Answer
import AccessBroker.Proofs.ConfigHistory
import AccessBroker.Proofs.Events
import AccessBroker.Proofs.Roles
import AccessBroker.Proofs.Steps

/-! # What reading leaves alone

Requests, groups, roles and configurations are read from stores that stay as
they are, and nobody is told of it.  A reading may fill the caches of roles, and
it may bring the snapshot of the configuration up to date.
-/

namespace AccessBroker

open World (Alike)

/-- The worlds differ at most in the tiers of roles, in what is remembered of eligible roles, in
the snapshot of the configuration, and in the bookkeeping of calls other than those to listeners. -/
structure World.SameButCaches (before after : World) : Prop where
  requests : after.requests = before.requests
  directory : after.directory = before.directory
  cloud : after.cloud = before.cloud
  config : after.config = before.config
  configCopy : after.configCopy = before.configCopy
  clock : after.clock = before.clock
  drawn : after.drawn = before.drawn
  events : after.events = before.events

theorem World.SameButCaches.refl (w : World) : w.SameButCaches w :=
  ⟨rfl, rfl, rfl, rfl, rfl, rfl, rfl, rfl⟩

theorem World.SameButCaches.of_alike {w left : World} (alike : Alike w left)
    (quiet : left.events = w.events) : w.SameButCaches left :=
  ⟨alike.requests, alike.directory, alike.cloud, alike.config, alike.configCopy, alike.clock,
    alike.drawn, quiet⟩

namespace Service

structure OverlooksReads (p : World → Prop) : Prop where
  books : OverlooksBut tells p
  fast : ∀ w t, p w → p { w with fast := t }
  durable : ∀ w t, p w → p { w with durable := t }
  eligible : ∀ w c, p w → p { w with eligible := c }
  published : ∀ w s n, p w → p { w with published := s, publications := n }

theorem overlooksReads_sameButCaches (w : World) : OverlooksReads w.SameButCaches where
  books _ _ alike told h :=
    ⟨alike.requests.trans h.requests, alike.directory.trans h.directory, alike.cloud.trans h.cloud,
      alike.config.trans h.config, alike.configCopy.trans h.configCopy, alike.clock.trans h.clock,
      alike.drawn.trans h.drawn, (events_eq_of_told told).trans h.events⟩
  fast _ _ h := { h with }
  durable _ _ h := { h with }
  eligible _ _ h := { h with }
  published _ _ _ h := { h with }

namespace OverlooksReads

variable {setup : Setup} {p : World → Prop}

/-- A call that only looks something up. -/
theorem lookUp {α : Type} (h : OverlooksReads p) (kind : CallKind) (look : World → α) :
    Keeps setup p (do discard <| meet kind; return look (← get)) :=
  .bind (.discard (.meet h.books kind)) fun _ => .bind .get fun _ => .pure _

theorem requireCapability {who : Identity} {c : Capability} {restricted : Bool} :
    Keeps setup p (requireCapability who c restricted) :=
  .of_ends fun _ hw => ends_requireCapability (fun _ => hw) fun _ _ => hw

/-! ## Requests and groups -/

theorem requireRequest (h : OverlooksReads p) (id : String) :
    Keeps setup p (requireRequest id) := by
  refine .bind (h.lookUp .findRequest _) fun found => ?_
  cases found with
  | none => exact .throw _
  | some r => exact .pure _

theorem groupAttributes (h : OverlooksReads p) (group : String) :
    Keeps setup p (groupAttributes group) := by
  refine .bind (h.lookUp .groupAttributes _) fun found => ?_
  cases found with
  | none => exact .throw _
  | some a => exact .pure _

theorem approvalRoute (h : OverlooksReads p) (target : Target) :
    Keeps setup p (approvalRoute target) := by
  refine .bind (.bind .read fun _ => .bind .get fun _ => .pure _) fun lists => ?_
  cases target with
  | group name => exact .bind (h.groupAttributes name) fun _ => .pure _
  | policy account arn change => exact .pure _

theorem getRequest (h : OverlooksReads p) (who : Identity) (id : String) :
    Keeps setup p (getRequest who id) := by
  refine .bind (h.requireRequest id) fun r => ?_
  split
  · exact .pure _
  · refine .bind (h.approvalRoute _) fun route =>
      .bind (.bind .read fun _ => .bind .get fun _ => .pure _) fun lists => ?_
    split
    · exact .pure _
    · exact .throw _

theorem listMine (h : OverlooksReads p) (who : Identity) : Keeps setup p (listMine who) :=
  .bind (h.lookUp .listUser _) fun _ => .bind (h.lookUp .findRequests _) fun _ => .pure _

theorem reviewable (h : OverlooksReads p) (who : Identity) (rs : List Request) :
    Keeps setup p (reviewable who rs) := by
  induction rs with
  | nil => exact .pure _
  | cons r rest ih =>
    have route : Keeps setup p (tryCatch (do return some (← Service.approvalRoute r.target))
        fun e => if e.kind = .notFound then return none else throw e) := by
      refine .tryCatch (.bind (h.approvalRoute _) fun _ => .pure _) fun e => ?_
      split
      · exact .pure _
      · exact .throw _
    refine .bind route fun _ => .bind (.bind .read fun _ => .bind .get fun _ => .pure _) fun _ =>
      .bind ih fun others => ?_
    split <;> exact .pure _

theorem listReviewable (h : OverlooksReads p) (who : Identity) (limit : Nat) :
    Keeps setup p (listReviewable who limit) :=
  .refuse (.bind (h.lookUp .listPending _) fun rs => h.reviewable who rs)

/-! ## Roles -/

theorem fetchRole (h : OverlooksReads p) (key : RoleKey) (force : Bool) :
    Keeps setup p (fetchRole key force) :=
  .fetchRole {
    books := h.books
    quiet := ⟨rfl, rfl⟩
    fast := fun w _ => h.fast w _
    durable := fun w _ _ _ => h.durable w _ } rfl force

theorem eligibleRoles (h : OverlooksReads p) (who : Identity) (console : Bool) :
    Keeps setup p (eligibleRoles who console) := by
  refine .bind (.tryCatch (h.lookUp .getEligible _) fun _ => .pure _) fun known => ?_
  cases known with
  | some roles => exact .pure _
  | none =>
    refine .bind .get fun _ => .bind .settings fun _ => .bind (.quietly ?_) fun _ => .pure _
    exact .bind (.log h.books rfl) fun _ => .bind (.discard (.meet h.books _)) fun _ =>
      .modify fun w => h.eligible w _

/-! ## Configurations -/

theorem readConfig (h : OverlooksReads p) : Keeps setup p readConfig :=
  .readConfig h.books h.published

theorem archiveIds (h : OverlooksReads p) (limit : Nat) : Keeps setup p (archiveIds limit) :=
  .refuse (h.lookUp .listConfig _)

theorem readArchived (h : OverlooksReads p) (id : String) : Keeps setup p (readArchived id) := by
  refine .refuse (.bind (h.lookUp .findConfig _) fun found => ?_)
  cases found with
  | none => exact .throw _
  | some v => exact .pure _

end OverlooksReads

end Service

namespace Interface

open Service (OverlooksReads Keeps)

def Operation.Reads : Operation → Prop
  | readRole .. | listEligible _ | readGroup _ | listMine | listReviewable _ | readRequest _
  | readConfig _ | listArchive _ | readArchived _ => True
  | writeGroup .. | submit _ | updateStatus .. | updateProposal .. | writeConfig _ => False

/-- What reading leaves alone outlives every operation that only reads. -/
theorem Operation.Reads.keeps {setup : Setup} {p : World → Prop} {operation : Operation}
    (reads : operation.Reads) (h : OverlooksReads p) (who : Identity) :
    Keeps setup p (operation.perform who) := by
  cases operation with
  | readRole account arn force =>
    refine .bind (.bind (.lift _) fun key => .bind (h.fetchRole key force) fun found => ?_)
      fun _ => .pure _
    cases found with
    | none => exact .throw _
    | some role => exact .pure _
  | listEligible console => exact .bind (h.eligibleRoles who console) fun _ => .pure _
  | readGroup name => exact .bind (h.groupAttributes name) fun _ => .pure _
  | listMine => exact .bind (h.listMine who) fun _ => .pure _
  | listReviewable limit => exact .bind (h.listReviewable who limit) fun _ => .pure _
  | readRequest id => exact .bind (h.getRequest who id) fun _ => .pure _
  | readConfig force =>
    cases force with
    | true => exact .bind h.readConfig fun _ => .pure _
    | false => exact .bind .get fun _ => .pure _
  | listArchive limit =>
    exact .bind OverlooksReads.requireCapability fun _ => .bind (h.archiveIds limit) fun _ => .pure _
  | readArchived id =>
    exact .bind OverlooksReads.requireCapability fun _ => .bind (h.readArchived id) fun _ => .pure _
  | writeGroup | submit | updateStatus | updateProposal | writeConfig => exact reads.elim

end Interface

end AccessBroker
