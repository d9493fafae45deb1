import AccessBroker.Proofs.Events
import AccessBroker.Proofs.Runs

/-! # Calls that fail

Everything that can refuse a call comes before anything is changed, but for the
one thing that is not known before a submission is stored: whether there is the
role whose policies it is to change.
-/

namespace AccessBroker

open World (Alike)
open Service (Told Admitted nextRequest)

/-- Nothing is left of a call but the calls to other systems that it made, the time that they took
and the ids that it drew.  Nobody was told of anything. -/
structure World.Untouched (before after : World) : Prop where
  state : after = { before with
    journal := after.journal, plan := after.plan, waited := after.waited, drawn := after.drawn }
  events : after.events = before.events

theorem World.Untouched.of_alike {w left : World} {drawn : Nat}
    (alike : Alike { w with drawn := drawn } left)
    (told : Told (Service.made Service.tells w) left) : w.Untouched left where
  state := by rw [alike.same]
  events := Service.events_eq_of_told told

inductive FailedSubmission (setup : Setup) (w : World) (who : Identity) (s : Submission) :
    World → Prop where
  /-- It does not pass every check, and no trace of it is left. -/
  | refused {left : World} (checks : ∀ route, ¬ Admitted setup w who s route)
      (untouched : w.Untouched left) : FailedSubmission setup w who s left
  /-- It passes every check but cannot be put into effect at once, and waits as a pending
  request. -/
  | waiting {route : Route} {left : World} (admitted : Admitted setup w who s route)
      (policy : ∀ group, s.target ≠ .group group)
      (auto : AllowLists.autoApproves who route.approvers route.selfApprovalGroups
        route.openWhenUnowned = true)
      (untouched : World.Untouched { w with
        requests := (w.requests.put (nextRequest w who s)).append who.user
          (nextRequest w who s).id } left) : FailedSubmission setup w who s left

namespace Service

variable {setup : Setup} {w left : World} {who : Identity} {e : Error}

theorem untouched_updateStatus (answers : w.AllAnswer setup) {id : String} {v : Verdict}
    (run : (updateStatus who id v).perform setup w = (.error e, left)) : w.Untouched left := by
  have alike : Ends setup w (updateStatus who id v) (fun _ _ => True) fun _ left => Alike w left :=
    ends_updateStatus (fun _ _ _ _ _ _ _ _ _ _ => trivial)
      (fun e r mid left alike _ failed =>
        alike.trans (failed.alike (answers.rest alike.leftOver)))
      fun _ _ alike => alike
  have unheard := failsUnheard_updateStatus setup who id v w rfl
  exact .of_alike (alike.of_error run) (unheard.of_error run)

theorem untouched_updateProposal {id : String} {proposed : PolicyChange}
    (run : (updateProposal who id proposed).perform setup w = (.error e, left)) :
    w.Untouched left := by
  have alike : Ends setup w (updateProposal who id proposed) (fun _ _ => True)
      fun _ left => Alike w left :=
    ends_updateProposal (fun _ _ _ _ _ _ => trivial) fun _ _ alike => alike
  have unheard := failsUnheard_updateProposal setup who id proposed w rfl
  exact .of_alike (alike.of_error run) (unheard.of_error run)

/-- If members join and requests are saved, only a change of policies may fail to be put into
effect. -/
theorem ends_settle_calm {r : Request} {route : Route} (saves : w.Undisturbed .saveRequest)
    (joins : w.Undisturbed .addMember) (stored : w.requests.find? r.id = some r)
    (unrestricted : route.restricted = false)
    (known : ∀ group, r.target = .group group → w.directory.attributes? group ≠ none) :
    Ends setup w (settle who r route) (fun _ _ => True) fun _ left =>
      Failed setup w r left ∧ (∀ group, r.target ≠ .group group) ∧
        AllowLists.autoApproves who route.approvers route.selfApprovalGroups
          route.openWhenUnowned = true := by
  unfold settle
  split
  · next auto =>
    have told (answer : Request) (left : World) {bad : Error → World → Prop} :
        Ends setup left (do announce answer none; return answer) (fun _ _ => True) bad := by
      simp only [ends_bind, ends_pure]
      exact ends_announce fun _ _ => trivial
    rw [ends_bind]
    cases target : r.target with
    | group group =>
      -- The group is there and not restricted, so the requester joins it.
      refine ends_approve_group target (fun _ left _ _ _ _ => told _ left) (fun e left why _ => ?_)
        fun e left why _ => ?_
      · exact absurd saves (disturbed_of_stored stored why)
      · rcases why with disturbed | restricted | unknown
        · exact absurd joins disturbed
        · rw [unrestricted] at restricted
          cases restricted
        · exact absurd unknown (known group target)
    | policy account arn change =>
      exact (ends_approve_stored stored).mono (fun answer left _ => told answer left)
        fun e left failed => ⟨failed, by simp, auto⟩
  · simp only [ends_bind, ends_pure]
    exact ends_announce fun _ _ => trivial

/-- An admitted submission asks for a group that there is and that is not restricted. -/
theorem ends_settle_admitted {s : Submission} {route : Route} {noted : World}
    (just : JustStored setup w who s route noted) (saves : w.Undisturbed .saveRequest)
    (joins : w.Undisturbed .addMember) :
    Ends setup noted (settle who (nextRequest w who s) route) (fun _ _ => True) fun _ left =>
      Failed setup noted (nextRequest w who s) left ∧ (∀ group, s.target ≠ .group group) ∧
        AllowLists.autoApproves who route.approvers route.selfApprovalGroups
          route.openWhenUnowned = true := by
  refine ends_settle_calm (saves.rest just.alike.leftOver) (joins.rest just.alike.leftOver)
    just.stored (ensureRequestable_eq_ok just.admitted.requestable).2 fun group target unknown => ?_
  have target : s.target = .group group := target
  have routed := just.admitted.routed
  rw [just.alike.directory] at unknown
  simp [target, routeIn, unknown] at routed

theorem failedSubmission_of_error (answers : w.AllAnswer setup) {s : Submission}
    (run : (submit who s).perform setup w = (.error e, left)) :
    FailedSubmission setup w who s left := by
  have unheard : Told (made tells w) left :=
    (failsUnheard_submit setup who s w rfl).of_error run
  have ends : Ends setup w (submit who s) (fun _ _ => True) fun _ left =>
      Told (made tells w) left → FailedSubmission setup w who s left := by
    refine ends_submit (fun e drawn left checks alike told => ?_)
      fun route noted just => ?_
    · exact .refused (checks answers) (.of_alike alike told)
    · refine (ends_settle_admitted just (answers.undisturbed _) (answers.undisturbed _)).mono
        (fun _ _ h => h) ?_
      rintro e left ⟨failed, policy, auto⟩ told
      have alike := just.alike
      rw [just.appended (answers.undisturbed _)] at alike
      have alike' := failed.alike (answers.rest alike.leftOver)
      exact .waiting just.admitted policy auto (.of_alike (alike.trans alike') told)
  exact ends.of_error run unheard

/-- In a world where every call to another system is answered, a review or a change of a proposal
that fails leaves nothing behind, and neither does a submission, unless what failed is to change
policies at once: then the request waits to be approved as if it had not been tried. -/
theorem failures_leave_no_trace (answers : w.AllAnswer setup) :
    (∀ who id v e left, (updateStatus who id v).perform setup w = (.error e, left) →
      w.Untouched left) ∧
    (∀ who id proposed e left, (updateProposal who id proposed).perform setup w = (.error e, left) →
      w.Untouched left) ∧
    ∀ who s e left, (submit who s).perform setup w = (.error e, left) →
      FailedSubmission setup w who s left :=
  ⟨fun _ _ _ _ _ run => untouched_updateStatus answers run,
    fun _ _ _ _ _ run => untouched_updateProposal run,
    fun _ _ _ _ run => failedSubmission_of_error answers run⟩

def rootSetup : Setup :=
  { (default : Setup) with lists := { FixedLists.empty with admins := ["root"] } }

def forMissingRole : Submission where
  target := .policy "123456789012" "arn:aws:iam::123456789012:role/gone"
    (.managedPolicy "arn:aws:iam::aws:policy/ReadOnlyAccess")
  justification := "audit"
  expiresAt := none

/-- Nobody hears of the approval that `mallory` may not give; a change of a missing role waits. -/
theorem failures_of_two_calls :
    (∃ e left, (updateStatus (.of "mallory" []) (World.numberedId 1) ⟨.approved, none⟩).perform default
      .withRequest = (.error e, left) ∧ World.Untouched .withRequest left) ∧
    ∃ e left, (submit (.of "root" []) forMissingRole).perform rootSetup default = (.error e, left) ∧
      FailedSubmission rootSetup default (.of "root" []) forMissingRole left ∧
      left.requests.all.map (·.status) = [.pending] := by
  constructor
  · have answers : World.withRequest.AllAnswer default := World.allAnswer_of_unplanned rfl default
    have failed : ((updateStatus (.of "mallory" []) (World.numberedId 1) ⟨.approved, none⟩).perform default
        .withRequest).1.toOption.isNone = true := by decide +kernel
    rcases run : (updateStatus (.of "mallory" []) (World.numberedId 1) ⟨.approved, none⟩).perform default
      .withRequest with ⟨e | r, left⟩
    · exact ⟨e, left, rfl, (failures_leave_no_trace answers).1 _ _ _ e left run⟩
    · rw [run] at failed
      cases failed
  · have answers : (default : World).AllAnswer rootSetup :=
      World.allAnswer_of_unplanned rfl rootSetup
    have failed : ((submit (.of "root" []) forMissingRole).perform rootSetup
        default).1.toOption.isNone = true := by decide +kernel
    have stored : ((submit (.of "root" []) forMissingRole).perform rootSetup
        default).2.requests.all.map (·.status) = [.pending] := by decide +kernel
    rcases run : (submit (.of "root" []) forMissingRole).perform rootSetup default with ⟨e | r, left⟩
    · rw [run] at stored
      exact ⟨e, left, rfl, (failures_leave_no_trace answers).2.2 _ _ e left run, stored⟩
    · rw [run] at failed
      cases failed

end Service

end AccessBroker
