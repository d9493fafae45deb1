import AccessBroker.Error
import AccessBroker.Schedule.Wait
import AccessBroker.Settings

/-! # Repeated attempts

A call that fails in a passing way, or takes too long, is made again after a
pause.  The pauses double up to a bound, and none lasts longer than a wait may;
all times are milliseconds.
-/

namespace AccessBroker.Retry

variable {σ α : Type}

/-- One attempt: how long it takes, and what it does then when it is let finish. -/
structure Attempt (σ α : Type) where
  delay : Nat
  finish : σ → Except Error α × σ

/-- What came of all attempts: the result, when each one started, and when the last one ended. -/
structure Report (α : Type) where
  result : Except Error α
  starts : List Nat
  elapsed : Nat

/-- The error of an attempt that took too long. -/
def timedOut (policy : RetryPolicy) (operation : String) : Error :=
  .transient s!"{operation} timed out after {policy.callTimeout}ms"

/-- The error after `made` attempts, the last of which failed with `last`. -/
def exhausted (operation : String) (made : Nat) (last : Error) : Error :=
  .dependencyUnavailable s!"{operation} failed after {made} attempts: {last.display}"

/-- Lets an attempt run until it ends or its time is over. -/
def runOne (policy : RetryPolicy) (operation : String) (attempt : Attempt σ α) (s : σ) :
    Except Error α × σ :=
  if attempt.delay ≤ policy.callTimeout then attempt.finish s
  else (.error (timedOut policy operation), s)

/-- Attempts at time `now`, of which `left` more may follow this one, after `made` others. -/
def runFrom (policy : RetryPolicy) (operation : String) (begin : σ → Attempt σ α × σ) :
    (left made backoff now : Nat) → σ → Report α × σ
  | left, made, backoff, now, s =>
    let (attempt, s) := begin s
    let (outcome, s) := runOne policy operation attempt s
    let ended := now + min attempt.delay policy.callTimeout
    match outcome with
    | .ok a => (⟨.ok a, [now], ended⟩, s)
    | .error e =>
      if e.isTransient then
        match left with
        | 0 => (⟨.error (exhausted operation (made + 1) e), [now], ended⟩, s)
        | left + 1 =>
          let next := min (2 * backoff) policy.maxBackoff
          let resumed := ended + Wait.lasting backoff
          let (report, s) := runFrom policy operation begin left (made + 1) next resumed s
          ({ report with starts := now :: report.starts }, s)
      else (⟨.error e, [now], ended⟩, s)

/-- Makes attempts until one ends otherwise than in a passing failure, at most as many as the
policy allows and at least one. -/
def run (policy : RetryPolicy) (operation : String) (begin : σ → Attempt σ α × σ) (s : σ) :
    Report α × σ :=
  runFrom policy operation begin (policy.maxAttempts - 1) 0 policy.initialBackoff 0 s

/-! ## How attempts end -/

/-- An outcome leaves a state with `good` when it is a success and with `p` when it is a failure. -/
def Leaves (p : σ → Prop) (good : α → σ → Prop) (outcome : Except Error α) (s : σ) : Prop :=
  match outcome with
  | .ok a => good a s
  | .error _ => p s

section

variable {p : σ → Prop} {good : α → σ → Prop} (policy : RetryPolicy) (operation : String)

theorem leaves_const {outcome : Except Error α} {s : σ} :
    Leaves p (fun _ => p) outcome s ↔ p s := by
  cases outcome <;> rfl

theorem leaves_runOne {attempt : Attempt σ α} {s : σ} (hs : p s)
    (finish : Leaves p good (attempt.finish s).1 (attempt.finish s).2) :
    Leaves p good (runOne policy operation attempt s).1 (runOne policy operation attempt s).2 := by
  unfold runOne
  split
  · exact finish
  · exact hs

variable {begin : σ → Attempt σ α × σ}

theorem leaves_runFrom (started : ∀ s, p s → p (begin s).2)
    (finished : ∀ s t, p s → p t →
      Leaves p good ((begin s).1.finish t).1 ((begin s).1.finish t).2)
    (left made backoff now : Nat) {s : σ} (hs : p s) :
    Leaves p good (runFrom policy operation begin left made backoff now s).1.result
      (runFrom policy operation begin left made backoff now s).2 := by
  have once (s : σ) (hs : p s) := leaves_runOne policy operation (started s hs)
    (finished s _ hs (started s hs))
  induction left generalizing made backoff now s with
  | zero =>
    have ends := once s hs
    unfold runFrom
    dsimp only
    split
    · next ok => rwa [ok] at ends
    · next failed => rw [failed] at ends; split <;> exact ends
  | succ left ih =>
    have ends := once s hs
    unfold runFrom
    dsimp only
    split
    · next ok => rwa [ok] at ends
    · next failed =>
      rw [failed] at ends
      split
      · exact ih _ _ _ ends
      · exact ends

/-- What attempts keep as long as they fail, all of them keep until one succeeds. -/
theorem leaves_run (started : ∀ s, p s → p (begin s).2)
    (finished : ∀ s t, p s → p t →
      Leaves p good ((begin s).1.finish t).1 ((begin s).1.finish t).2) {s : σ} (hs : p s) :
    Leaves p good (run policy operation begin s).1.result (run policy operation begin s).2 :=
  leaves_runFrom policy operation started finished _ _ _ _ hs

/-- An attempt that succeeds in time is the last one. -/
theorem run_of_first {s t : σ} {a : α}
    (prompt : (begin s).1.delay ≤ policy.callTimeout)
    (succeeds : (begin s).1.finish (begin s).2 = (.ok a, t)) :
    (run policy operation begin s).1.result = .ok a ∧ (run policy operation begin s).2 = t := by
  have ran : runOne policy operation (begin s).1 (begin s).2 = (.ok a, t) := by
    rw [runOne, if_pos prompt, succeeds]
  unfold run runFrom
  simp only [ran, and_self]

end

end AccessBroker.Retry
