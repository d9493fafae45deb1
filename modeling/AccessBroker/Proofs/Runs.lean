import AccessBroker.Proofs.Expiry
import AccessBroker.Proofs.Review
import AccessBroker.Proofs.Submission

/-! # Runs of calls

Calls follow one another, each made by anyone with any input and under any
setup.  In between the world moves: time passes, groups are edited, ids are
drawn, disturbances are planned.  How it may move, and which worlds a call may
start in, is left to each theorem.
-/

namespace AccessBroker

/-- Nothing becomes of the stored requests in a call but what `Fate` lists. -/
theorem RequestCall.fate (setup : Setup) (w : World) (c : RequestCall) :
    History setup w c (c.after setup w) := by
  cases c with
  | submit who s => exact (Service.records_submit who s).left
  | updateStatus who id v => exact (Service.records_updateStatus who id v).left
  | updateProposal who id proposed => exact (Service.records_updateProposal who id proposed).left
  | expireDue batch => exact (Service.records_expireDue batch).left

/-- Whatever is stored after a call was stored before, was edited, or is what was submitted. -/
theorem RequestCall.stored_after {setup : Setup} {w : World} {c : RequestCall} {r' : Request}
    (stored : r' ∈ (c.after setup w).requests.all) :
    r' ∈ w.requests.all ∨ (∃ r ∈ w.requests.all, Edit setup w c r r') ∨
      ∃ who s, c = .submit who s ∧ Created setup w who s r' := by
  have fate := c.fate setup w r'.id
  rw [RequestStore.mem_all_iff.1 stored] at fate
  cases before : w.requests.find? r'.id with
  | none =>
    rw [before] at fate
    cases fate with
    | created submitted created => exact .inr (.inr ⟨_, _, submitted, created⟩)
  | some r =>
    rw [before] at fate
    have here := (RequestStore.find?_eq_some_iff.1 before).1
    cases fate with
    | kept => exact .inl here
    | edited edit => exact .inr (.inl ⟨r, here, edit⟩)

/-- The worlds that calls reach one after another. -/
inductive Run (moves : World → World → Prop) (fair : World → Prop) (start : World) :
    World → Prop where
  | start : Run moves fair start start
  | move {w moved : World} (run : Run moves fair start w) (goes : moves w moved) :
    Run moves fair start moved
  | call {w : World} (run : Run moves fair start w) (isFair : fair w) (setup : Setup)
    (c : RequestCall) : Run moves fair start (c.after setup w)

namespace World

def atTime (w : World) (clock : Instant) : World :=
  { w with clock }

theorem atTime_fast (w : World) (clock : Instant) : (w.atTime clock).fast = w.fast := rfl

theorem atTime_durable (w : World) (clock : Instant) : (w.atTime clock).durable = w.durable := rfl

theorem atTime_now (w : World) (clock : Instant) : (w.atTime clock).now = clock.timestamp := rfl

end World

def World.RequestsStay (before after : World) : Prop :=
  after.requests = before.requests

variable {moves : World → World → Prop} {fair : World → Prop} {start w : World}

/-- What every move and every fair call keeps holds at the end of every run. -/
theorem Run.keeps {p : World → Prop} (run : Run moves fair start w) (atStart : p start)
    (moved : ∀ w left, moves w left → p w → p left)
    (called : ∀ setup w (c : RequestCall), fair w → p w → p (c.after setup w)) : p w := by
  induction run with
  | start => exact atStart
  | move _ goes ih => exact moved _ _ goes ih
  | call _ isFair setup c ih => exact called setup _ c isFair ih

/-! ## A small world -/

/-- The group `ops` can be asked for, and `lead` decides. -/
def World.withOps : World :=
  { (default : World) with
    directory := Directory.empty.putAttributes "ops" ⟨["lead"], [], false, true⟩ }

def Submission.forOps : Submission := ⟨.group "ops", "on call", none⟩

def Request.forOps : Request :=
  Service.newRequest (World.numberedId 1) (.of "alice" []) .forOps World.withOps.now

def World.withRequest : World :=
  (RequestCall.submit (.of "alice" []) .forOps).after default .withOps

theorem World.forOps_mem_withRequest : Request.forOps ∈ World.withRequest.requests.all := by
  decide +kernel

theorem World.undisturbed_withRequest (kind : CallKind) : World.withRequest.Undisturbed kind :=
  undisturbed_of_unplanned rfl kind

theorem World.candid_withRequest : World.withRequest.Candid :=
  candid_of_unplanned rfl

end AccessBroker
