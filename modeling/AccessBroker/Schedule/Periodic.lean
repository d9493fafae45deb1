import AccessBroker.Error

/-! # Periodic tasks

A task is run at every tick of an interval until the program stops.  Runs never
overlap: a tick that comes while a run goes on is taken when the run ends.  A
tick that is taken late by more than a grace moves the schedule, and the next
one is due an interval later.  A run that fails is warned of, and the schedule
goes on.  All times are milliseconds.
-/

namespace AccessBroker.Periodic

variable {σ : Type}

/-- How late a tick may be taken without moving the schedule. -/
def grace : Nat := 5

/-- One run of the task: how long it takes, and what it comes to. -/
structure Run where
  duration : Nat
  result : Except Error Unit

/-- What came of a schedule: when runs started, how many of them ended, what was warned of, and when
the program stopped. -/
structure Report where
  starts : List Nat
  finished : Nat
  failures : List Error
  returned : Nat
deriving DecidableEq, Repr

/-- The report with a run before all others, which ended. -/
def Report.precede (report : Report) (start : Nat) (run : Run) : Report where
  starts := start :: report.starts
  finished := report.finished + 1
  failures :=
    match run.result with
    | .ok _ => report.failures
    | .error e => e :: report.failures
  returned := report.returned

/-- When the tick after one is due that was due at `due` and taken at `start`. -/
def nextTick (interval due start : Nat) : Nat :=
  if due + grace < start then start + interval else due + interval

theorem lt_nextTick {interval due start : Nat} (h : 0 < interval) (le : due ≤ start) :
    due < nextTick interval due start := by
  simp only [nextTick]
  split <;> omega

/-- The schedule from `now` on, with the next tick at `due`.  `task` tells what the next run is when
it has `budget` left before the stop, and what it leaves behind. -/
def runFrom (interval stop : Nat) (h : 0 < interval) (task : (budget : Nat) → σ → Run × σ)
    (now due : Nat) (s : σ) : Report × σ :=
  let start := max now due
  if start < stop then
    let (run, s) := task (stop - start) s
    if start + run.duration ≤ stop then
      let (report, s) :=
        runFrom interval stop h task (start + run.duration) (nextTick interval due start) s
      (report.precede start run, s)
    else (⟨[start], 0, [], stop⟩, s)
  else (⟨[], 0, [], max now stop⟩, s)
termination_by stop - due
decreasing_by
  have := lt_nextTick h (Nat.le_max_right now due)
  omega

/-- Runs a task every `interval` from time zero until `stop`. -/
def run (interval stop : Nat) (h : 0 < interval) (task : (budget : Nat) → σ → Run × σ) (s : σ) :
    Report × σ :=
  runFrom interval stop h task 0 0 s

end AccessBroker.Periodic
