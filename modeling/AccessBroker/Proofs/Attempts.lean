import AccessBroker.Schedule.Retry
import Mathlib.Algebra.GroupWithZero.Nat

/-! # What comes of repeated attempts

When the calls follow a script, everything about a run can be told beforehand:
which attempt is the last one, when each of them starts, and what is answered.
The pauses double up to their bound, and none lasts longer than thirty years.
-/

namespace AccessBroker.Retry

variable {α : Type}

/-- One call of a script: how long it takes, and what it answers if it is let finish. -/
structure Call (α : Type) where
  delay : Nat
  answer : Except Error α

def Call.attempt (call : Call α) : Attempt Nat α :=
  ⟨call.delay, fun made => (call.answer, made)⟩

def playing (script : Nat → Call α) (made : Nat) : Attempt Nat α × Nat :=
  ((script made).attempt, made + 1)

/-- Another attempt is made after the outcome, if one is allowed. -/
def Passing (outcome : Except Error α) : Prop :=
  ∃ e, outcome = .error e ∧ e.isTransient = true

/-- The pause after an attempt; the first attempt is attempt 0. -/
def pause (policy : RetryPolicy) : Nat → Nat
  | 0 => policy.initialBackoff
  | n + 1 => min (2 * pause policy n) policy.maxBackoff

def span (policy : RetryPolicy) (script : Nat → Call α) (n : Nat) : Nat :=
  min (script n).delay policy.callTimeout

/-- When an attempt starts: the attempts before it are over, each with its pause, which lasts as
`lasting` says. -/
def startOf (lasting : Nat → Nat) (policy : RetryPolicy) (script : Nat → Call α) (n : Nat) : Nat :=
  ((List.range n).map fun i => span policy script i + lasting (pause policy i)).sum

def outcome (policy : RetryPolicy) (operation : String) (script : Nat → Call α) (n : Nat) :
    Except Error α :=
  if (script n).delay ≤ policy.callTimeout then (script n).answer
  else .error (timedOut policy operation)

variable {policy : RetryPolicy} {operation : String} {script : Nat → Call α}

theorem startOf_succ (lasting : Nat → Nat) (n : Nat) :
    startOf lasting policy script (n + 1) =
      startOf lasting policy script n + span policy script n + lasting (pause policy n) := by
  simp [startOf, List.range_succ, Nat.add_assoc]

/-- Pauses of up to thirty years last as long as they are to. -/
theorem startOf_lasting {n : Nat} (short : ∀ i < n, pause policy i ≤ Wait.longest) :
    startOf Wait.lasting policy script n = startOf id policy script n := by
  induction n with
  | zero => rfl
  | succ n ih =>
    rw [startOf_succ, startOf_succ, ih fun i before => short i (Nat.lt_succ_of_lt before),
      Wait.lasting_eq_self (short n (Nat.lt_succ_self n)), id]

theorem runOne_attempt (n made : Nat) :
    runOne policy operation (script n).attempt made =
      (outcome policy operation script n, made) := by
  unfold runOne outcome
  by_cases inTime : (script n).delay ≤ policy.callTimeout
  · rw [if_pos inTime]
    exact if_pos inTime
  · rw [if_neg inTime]
    exact if_neg inTime

/-! ## One attempt -/

section

variable {left n : Nat}

def playFrom (policy : RetryPolicy) (operation : String) (script : Nat → Call α) (left n : Nat) :
    Report α × Nat :=
  runFrom policy operation (playing script) left n (pause policy n)
    (startOf Wait.lasting policy script n) n

/-- An attempt that does not fail in a passing way is the last one. -/
theorem playFrom_of_not_passing (ends : ¬ Passing (outcome policy operation script n)) :
    playFrom policy operation script left n =
      (⟨outcome policy operation script n, [startOf Wait.lasting policy script n],
        startOf Wait.lasting policy script n + span policy script n⟩, n + 1) := by
  unfold playFrom runFrom
  simp only [playing, runOne_attempt]
  cases comes : outcome policy operation script n with
  | ok a => rfl
  | error e =>
    have lasting : ¬ e.isTransient = true := fun passing => ends ⟨e, comes, passing⟩
    simp only [if_neg lasting]
    rfl

/-- So is one that fails in a passing way when no other is allowed. -/
theorem playFrom_zero {e : Error} (fails : outcome policy operation script n = .error e)
    (passing : e.isTransient = true) :
    playFrom policy operation script 0 n =
      (⟨.error (exhausted operation (n + 1) e), [startOf Wait.lasting policy script n],
        startOf Wait.lasting policy script n + span policy script n⟩, n + 1) := by
  unfold playFrom runFrom
  simp only [playing, runOne_attempt, fails, if_pos passing]
  rfl

/-- Otherwise the next attempt follows after the pause. -/
theorem playFrom_succ (passing : Passing (outcome policy operation script n)) :
    playFrom policy operation script (left + 1) n =
      ({ (playFrom policy operation script left (n + 1)).1 with
          starts := startOf Wait.lasting policy script n ::
            (playFrom policy operation script left (n + 1)).1.starts },
        (playFrom policy operation script left (n + 1)).2) := by
  obtain ⟨e, fails, transient⟩ := passing
  have next : startOf Wait.lasting policy script (n + 1) =
      startOf Wait.lasting policy script n +
        min (script n).delay policy.callTimeout + Wait.lasting (pause policy n) :=
    startOf_succ Wait.lasting n
  rw [playFrom, runFrom]
  simp only [playing, runOne_attempt, fails, if_pos transient, playFrom, next]
  rfl

end

/-! ## A run -/

/-- What is answered after the attempt `last`: what it comes to, or that every attempt up to `bound`
failed in a passing way. -/
inductive Answered (policy : RetryPolicy) (operation : String) (script : Nat → Call α)
    (bound last : Nat) : Except Error α → Prop where
  | ended (ends : ¬ Passing (outcome policy operation script last)) :
      Answered policy operation script bound last (outcome policy operation script last)
  | spent {e : Error} (none : last = bound)
      (fails : outcome policy operation script last = .error e) (passing : e.isTransient = true) :
      Answered policy operation script bound last (.error (exhausted operation (last + 1) e))

section

variable {bound last : Nat} {result : Except Error α}

theorem Answered.eq_outcome (h : Answered policy operation script bound last result)
    (ends : ¬ Passing (outcome policy operation script last)) :
    result = outcome policy operation script last := by
  cases h with
  | ended => rfl
  | spent _ fails passing => exact absurd ⟨_, fails, passing⟩ ends

theorem Answered.of_passing (h : Answered policy operation script bound last result)
    (passing : Passing (outcome policy operation script last)) :
    last = bound ∧ ∃ e, outcome policy operation script last = .error e ∧
      result = .error (exhausted operation (last + 1) e) := by
  cases h with
  | ended ends => exact absurd passing ends
  | spent none fails _ => exact ⟨none, _, fails, rfl⟩

end

structure Goes (policy : RetryPolicy) (operation : String) (script : Nat → Call α)
    (bound first last : Nat) (played : Report α × Nat) : Prop where
  within : first ≤ last ∧ last ≤ bound
  passing : ∀ i, first ≤ i → i < last → Passing (outcome policy operation script i)
  answered : Answered policy operation script bound last played.1.result
  calls : played.2 = last + 1
  starts : played.1.starts =
    (List.range' first (last + 1 - first)).map (startOf Wait.lasting policy script)
  elapsed : played.1.elapsed =
    startOf Wait.lasting policy script last + span policy script last

/-- The attempts that are still allowed go on to the first that does not fail in a passing way, or
to the last of them. -/
theorem playFrom_goes (policy : RetryPolicy) (operation : String) (script : Nat → Call α)
    (left n : Nat) :
    ∃ last, Goes policy operation script (n + left) n last
      (playFrom policy operation script left n) := by
  induction left generalizing n with
  | zero =>
    refine ⟨n, ?_⟩
    by_cases passing : Passing (outcome policy operation script n)
    · obtain ⟨e, fails, transient⟩ := passing
      rw [playFrom_zero fails transient]
      exact ⟨by omega, by omega, .spent rfl fails transient, rfl, by simp, rfl⟩
    · rw [playFrom_of_not_passing passing]
      exact ⟨by omega, by omega, .ended passing, rfl, by simp, rfl⟩
  | succ left ih =>
    by_cases passing : Passing (outcome policy operation script n)
    · obtain ⟨last, goes⟩ := ih (n + 1)
      have bound : n + 1 + left = n + (left + 1) := by omega
      have within := goes.within
      have more : last + 1 - n = (last + 1 - (n + 1)) + 1 := by omega
      refine ⟨last, ⟨by omega, ?_, ?_, ?_, ?_, ?_⟩⟩
      · intro i from_ before
        by_cases here : i = n
        · rw [here]
          exact passing
        · exact goes.passing i (by omega) before
      · rw [playFrom_succ passing, ← bound]
        exact goes.answered
      · rw [playFrom_succ passing]
        exact goes.calls
      · rw [playFrom_succ passing, more, List.range'_succ, List.map_cons, ← goes.starts]
      · rw [playFrom_succ passing]
        exact goes.elapsed
    · refine ⟨n, ?_⟩
      rw [playFrom_of_not_passing passing]
      exact ⟨by omega, by omega, .ended passing, rfl, by simp, rfl⟩

/-- The whole run. -/
theorem run_goes (policy : RetryPolicy) (operation : String) (script : Nat → Call α) :
    ∃ last, Goes policy operation script (policy.maxAttempts - 1) 0 last
      (run policy operation (playing script) 0) := by
  have goes := playFrom_goes policy operation script (policy.maxAttempts - 1) 0
  rw [Nat.zero_add] at goes
  exact goes

/-- Attempts are made up to the first that does not fail in a passing way, whose outcome is the
answer, or as many as are allowed, and then the answer tells how many they were and how the last one
failed.  Every attempt starts when the attempts before it and the pauses between them are over, and
the answer comes when the last attempt is.  A pause lasts thirty years at most, so the times are as
they are to be as long as no pause is to be longer. -/
theorem attempts_of_script (policy : RetryPolicy) (operation : String) (script : Nat → Call α) :
    let allowed := max 1 policy.maxAttempts
    let comes := outcome policy operation script
    let starts := startOf Wait.lasting policy script
    let played := run policy operation (playing script) 0
    (∀ k < allowed, (∀ i < k, Passing (comes i)) → ¬ Passing (comes k) →
      played.2 = k + 1 ∧ played.1.result = comes k ∧
      played.1.starts = (List.range (k + 1)).map starts ∧
      played.1.elapsed = starts k + span policy script k) ∧
    ((∀ i < allowed, Passing (comes i)) →
      (∃ e, comes (allowed - 1) = .error e ∧ played.1.result = .error (.dependencyUnavailable
        s!"{operation} failed after {allowed} attempts: {e.display}")) ∧
      played.2 = allowed ∧ played.1.starts = (List.range allowed).map starts ∧
      played.1.elapsed = starts (allowed - 1) + span policy script (allowed - 1)) ∧
    ∀ n, (∀ i < n, pause policy i ≤ 946080000000) → starts n = startOf id policy script n := by
  intro allowed comes starts played
  obtain ⟨last, goes⟩ := run_goes policy operation script
  have within : last < allowed := by
    have := goes.within.2
    omega
  have spread : played.1.starts = (List.range (last + 1)).map starts := by
    rw [goes.starts, Nat.sub_zero, List.range_eq_range']
  refine ⟨?_, ?_, fun n short => startOf_lasting short⟩
  · intro k below before ends
    have here : last = k := by
      have notLater : ¬ k < last := fun later => ends (goes.passing k (Nat.zero_le k) later)
      have notEarlier : ¬ last < k := by
        intro earlier
        have := (goes.answered.of_passing (before last earlier)).1
        omega
      omega
    rw [← here] at ends ⊢
    exact ⟨goes.calls, goes.answered.eq_outcome ends, spread, goes.elapsed⟩
  · intro passing
    obtain ⟨none, e, fails, answer⟩ := goes.answered.of_passing (passing last within)
    have all : last + 1 = allowed := by omega
    have here : last = allowed - 1 := by omega
    rw [all] at spread answer
    rw [← here]
    exact ⟨⟨e, fails, answer⟩, goes.calls.trans all, spread, goes.elapsed⟩

def failing (_ : Nat) : Call Unit :=
  ⟨0, .error (.transient "t")⟩

def longPauses : RetryPolicy := ⟨3, 1000000000000, 10000000000000, 100⟩

/-- Pauses of more than thirty years are cut, so the attempts start sooner than they were to. -/
theorem long_pauses_are_cut :
    (run longPauses "op" (playing failing) 0).1.starts = [0, 946080000000, 1892160000000] ∧
    (List.range 3).map (startOf id longPauses failing) = [0, 1000000000000, 3000000000000] ∧
    (run longPauses "op" (playing failing) 0).1.starts ≠
      (List.range 3).map (startOf id longPauses failing) := by
  decide +kernel

/-- Fails twice, the second time by taking too long, and then succeeds. -/
def thirdTime (n : Nat) : Call Nat :=
  if n = 0 then ⟨7, .error (.transient "busy")⟩ else if n = 1 then ⟨500, .ok n⟩ else ⟨5, .ok n⟩

theorem third_time_succeeds :
    let policy : RetryPolicy := ⟨5, 10, 15, 100⟩
    let played := run policy "read" (playing thirdTime) 0
    played.2 = 3 ∧ played.1.result = .ok 2 ∧ played.1.starts = [0, 17, 132] ∧
      played.1.elapsed = 137 ∧
      (run ⟨0, 10, 15, 100⟩ "read" (playing thirdTime) 0).1.result =
        .error (.dependencyUnavailable
          "read failed after 1 attempts: transient dependency failure: busy") := by
  intro policy played
  have first : ∀ i < 2, Passing (outcome policy "read" thirdTime i)
    | 0, _ => ⟨.transient "busy", rfl, rfl⟩
    | 1, _ => ⟨timedOut policy "read", rfl, rfl⟩
  have third : ¬ Passing (outcome policy "read" thirdTime 2) := by
    intro ⟨e, fails, _⟩
    cases fails
  obtain ⟨calls, result, starts, elapsed⟩ :=
    (attempts_of_script policy "read" thirdTime).1 2 (by decide) first third
  have only : ∀ i < 1, Passing (outcome ⟨0, 10, 15, 100⟩ "read" thirdTime i)
    | 0, _ => ⟨.transient "busy", rfl, rfl⟩
  obtain ⟨⟨e, fails, answer⟩, -⟩ := (attempts_of_script ⟨0, 10, 15, 100⟩ "read" thirdTime).2.1 only
  refine ⟨calls, result, starts, elapsed, ?_⟩
  cases fails
  exact answer

end AccessBroker.Retry
