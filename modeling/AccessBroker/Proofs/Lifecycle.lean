import AccessBroker.Proofs.Runs

/-! # The life of a stored request

Every operation loads a whole request, edits it and saves it back.  What it
saves differs from what it loaded by one step of the request's life and little
else, so over a run a request stays, keeps its origin, and is left alone once it
has expired or its membership was removed.
-/

namespace AccessBroker

def Status.isFinal : Status → Bool
  | expired | removed => true
  | _ => false

theorem Status.not_canBecome_of_final {s next : Status} (h : s.isFinal = true) :
    s.canBecome next = false := by
  cases s <;> cases next <;> first | rfl | cases h

/-- What a run of calls leaves of a request. -/
structure Survives (r r' : Request) : Prop where
  id : r'.id = r.id
  requester : r'.requester = r.requester
  justification : r'.justification = r.justification
  requestTime : r'.requestTime = r.requestTime
  expiresAt : r'.expiresAt = r.expiresAt
  /-- Only the change that is proposed for a role may be another. -/
  target : r'.target = r.target ∨ ∃ account arn change proposed,
    r.target = .policy account arn change ∧ r'.target = .policy account arn proposed
  final : r.status.isFinal = true → r' = r

namespace Survives

theorem refl (r : Request) : Survives r r := ⟨rfl, rfl, rfl, rfl, rfl, .inl rfl, fun _ => rfl⟩

theorem trans {a b c : Request} (hab : Survives a b) (hbc : Survives b c) : Survives a c where
  id := hbc.id.trans hab.id
  requester := hbc.requester.trans hab.requester
  justification := hbc.justification.trans hab.justification
  requestTime := hbc.requestTime.trans hab.requestTime
  expiresAt := hbc.expiresAt.trans hab.expiresAt
  target := by
    rcases hab.target with same | ⟨account, arn, change, proposed, before, after⟩
    · rw [← same]
      exact hbc.target
    · rcases hbc.target with same | ⟨account', arn', change', proposed', before', after'⟩
      · exact .inr ⟨account, arn, change, proposed, before, same.trans after⟩
      · rw [after] at before'
        cases before'
        exact .inr ⟨account, arn, change, proposed', before, after'⟩
  final h := by
    obtain rfl := hab.final h
    exact hbc.final h

theorem worked_on {r : Request} (live : r.status.isFinal = false) (status : Status)
    (actor : String) (t : Timestamp) (comments : Option String) (snapshot : Option Json) :
    Survives r { r with
      status := status, updatedBy := actor, lastUpdated := t, comments := comments
      snapshot := snapshot } :=
  ⟨rfl, rfl, rfl, rfl, rfl, .inl rfl, fun final => absurd final (by simp [live])⟩

end Survives

structure Continues (c : RequestCall) (r r' : Request) : Prop extends Survives r r' where
  status : r'.status = r.status ∨ r.status.canBecome r'.status = true
  /-- Another change is proposed only for a request that waits and goes on waiting. -/
  retargeted : r'.target ≠ r.target → r.status = .pending ∧ r'.status = .pending ∧
    ∃ who proposed account arn change, c = .updateProposal who r.id proposed ∧
      r.target = .policy account arn change ∧ r'.target = .policy account arn proposed

variable {setup : Setup} {w : World} {c : RequestCall} {r r' : Request}

theorem Continues.refl (c : RequestCall) (r : Request) : Continues c r r where
  toSurvives := .refl r
  status := .inl rfl
  retargeted := absurd rfl

theorem MayMove.canBecome {who : Identity} {next : Status} (may : MayMove setup w who r next) :
    r.status.canBecome next = true := by
  obtain ⟨route, -, allowed⟩ := may
  cases former : r.status <;> cases next <;> simp only [former] at allowed <;> rfl

theorem MayMove.not_final {who : Identity} {next : Status} (may : MayMove setup w who r next) :
    r.status.isFinal = false := by
  cases final : r.status.isFinal with
  | false => rfl
  | true =>
    have stuck : r.status.canBecome next = false := Status.not_canBecome_of_final final
    rw [may.canBecome] at stuck
    cases stuck

theorem Edit.continues (edit : Edit setup w c r r') : Continues c r r' := by
  cases edit with
  | move may =>
    exact ⟨.worked_on may.not_final .., .inr may.canBecome, absurd rfl⟩
  | prepare _ may => exact ⟨.worked_on may.not_final .., .inl rfl, absurd rfl⟩
  | propose pending target =>
    refine ⟨⟨rfl, rfl, rfl, rfl, rfl, .inr ⟨_, _, _, _, target, rfl⟩, fun final => ?_⟩, .inl rfl,
      fun _ => ⟨pending, pending, _, _, _, _, _, rfl, target, rfl⟩⟩
    rw [pending] at final
    cases final
  | expire due =>
    have approved := (Request.isPastExpiry_iff.1 due).1
    exact ⟨.worked_on (by rw [approved]; rfl) .., .inr (by rw [approved]; rfl), absurd rfl⟩

/-- Every stored request is still stored after a call, and continues its life. -/
theorem RequestCall.continues (setup : Setup) (c : RequestCall) (stored : r ∈ w.requests.all) :
    ∃ r' ∈ (c.after setup w).requests.all, Continues c r r' := by
  have fate := c.fate setup w r.id
  rw [RequestStore.mem_all_iff.1 stored] at fate
  cases found : (c.after setup w).requests.find? r.id with
  | none =>
    rw [found] at fate
    cases fate
  | some r' =>
    refine ⟨r', (RequestStore.find?_eq_some_iff.1 found).1, ?_⟩
    rw [found] at fate
    cases fate with
    | kept => exact .refl c r
    | edited edit => exact edit.continues

/-- In every run every request that was ever stored stays stored, with its origin unchanged and
for good once it is final; and whatever call comes next moves it by one step at most. -/
theorem Run.lifecycle {start : World}
    (run : Run World.RequestsStay (fun _ => True) start w) :
    (∀ r ∈ start.requests.all, ∃ r' ∈ w.requests.all, Survives r r') ∧
    ∀ setup (c : RequestCall), ∀ r ∈ w.requests.all,
      ∃ r' ∈ (c.after setup w).requests.all, Continues c r r' := by
  refine ⟨fun r stored => ?_, fun setup c r stored => c.continues setup stored⟩
  refine run.keeps (p := fun w => ∃ r' ∈ w.requests.all, Survives r r') ⟨r, stored, .refl r⟩
    (fun w left same h => ?_) fun setup w c _ ⟨r', here, survives⟩ => ?_
  · rw [same]
    exact h
  · obtain ⟨next, left, continues⟩ := c.continues setup here
    exact ⟨next, left, survives.trans continues.toSurvives⟩

theorem Run.survives_rejection :
    ∃ r' ∈ (RequestCall.after default .withRequest (.updateStatus (.of "lead" [])
      (World.numberedId 1) ⟨.rejected, some "not this week"⟩)).requests.all,
      Survives .forOps r' :=
  (Run.lifecycle (.call .start trivial default (.updateStatus (.of "lead" [])
    (World.numberedId 1) ⟨.rejected, some "not this week"⟩))).1 .forOps World.forOps_mem_withRequest

end AccessBroker
