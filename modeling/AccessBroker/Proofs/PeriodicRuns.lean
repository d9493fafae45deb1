import AccessBroker.Schedule.Periodic
import Mathlib.Order.Nat

/-! # When periodic runs start

Each run starts when its tick is due and the run before it is over.  Ticks keep
their distance unless one is taken late, and then the schedule moves with it.
What comes of a run has no part in this.
-/

namespace AccessBroker.Periodic

/-- The runs of a script one after the other; the state counts those that were begun. -/
def playing (script : Nat → Run) (_budget begun : Nat) : Run × Nat :=
  (script begun, begun + 1)

/-- When the program is ready for a run and when its tick is due, by the runs before it. -/
def ahead (interval : Nat) (script : Nat → Run) : Nat → Nat × Nat
  | 0 => (0, 0)
  | n + 1 =>
    let (ready, due) := ahead interval script n
    let start := max ready due
    (start + (script n).duration, nextTick interval due start)

def dueAt (interval : Nat) (script : Nat → Run) (n : Nat) : Nat :=
  (ahead interval script n).2

def startAt (interval : Nat) (script : Nat → Run) (n : Nat) : Nat :=
  max (ahead interval script n).1 (ahead interval script n).2

def endAt (interval : Nat) (script : Nat → Run) (n : Nat) : Nat :=
  startAt interval script n + (script n).duration

/-- The program stops neither on a tick nor at the end of a run. -/
structure StopsBetween (interval : Nat) (script : Nat → Run) (stop : Nat) : Prop where
  tick : ∀ n, dueAt interval script n ≠ stop
  ending : ∀ n, endAt interval script n ≠ stop

section

variable {interval stop : Nat} {script : Nat → Run} {n : Nat}

/-! ## The times of the runs -/

theorem dueAt_succ : dueAt interval script (n + 1) =
    nextTick interval (dueAt interval script n) (startAt interval script n) := rfl

theorem startAt_succ : startAt interval script (n + 1) =
    max (endAt interval script n) (dueAt interval script (n + 1)) := rfl

theorem dueAt_le_startAt (n : Nat) : dueAt interval script n ≤ startAt interval script n :=
  Nat.le_max_right ..

theorem endAt_le_startAt_succ (n : Nat) :
    endAt interval script n ≤ startAt interval script (n + 1) :=
  Nat.le_max_left ..

/-- However late a tick is taken, the next one is at most the grace earlier than an interval
later. -/
theorem startAt_add_le (n : Nat) :
    startAt interval script n + interval ≤ startAt interval script (n + 1) + grace := by
  have due : dueAt interval script (n + 1) ≤ startAt interval script (n + 1) :=
    dueAt_le_startAt (n + 1)
  rw [dueAt_succ, nextTick] at due
  split at due <;> omega

/-- Runs never overlap. -/
theorem endAt_le_startAt {m : Nat} (h : n < m) :
    endAt interval script n ≤ startAt interval script m := by
  induction m with
  | zero => omega
  | succ m ih =>
    have next : endAt interval script m ≤ startAt interval script (m + 1) :=
      endAt_le_startAt_succ m
    by_cases last : n = m
    · rw [last]
      exact next
    · have before := ih (by omega)
      have runs : startAt interval script m ≤ endAt interval script m := Nat.le_add_right ..
      omega

theorem startAt_le_endAt (n : Nat) : startAt interval script n ≤ endAt interval script n :=
  Nat.le_add_right ..

theorem startAt_mono {m : Nat} (h : n ≤ m) :
    startAt interval script n ≤ startAt interval script m := by
  by_cases same : n = m
  · rw [same]
  · have apart : endAt interval script n ≤ startAt interval script m := endAt_le_startAt (by omega)
    have runs : startAt interval script n ≤ endAt interval script n := startAt_le_endAt n
    omega

/-- After a run that starts at its tick the schedule stays where it is, until a run takes longer
than an interval. -/
theorem startAt_add_of_short {time count : Nat} (due : dueAt interval script n = time)
    (start : startAt interval script n = time)
    (short : ∀ i < count, (script (n + i)).duration ≤ interval) :
    dueAt interval script (n + count) = time + count * interval ∧
      startAt interval script (n + count) = time + count * interval := by
  induction count with
  | zero => simpa using ⟨due, start⟩
  | succ count ih =>
    obtain ⟨due, start⟩ := ih fun i hi => short i (by omega)
    have duration := short count (by omega)
    have next : dueAt interval script (n + count + 1) = time + (count + 1) * interval := by
      rw [dueAt_succ, nextTick, due, start, if_neg (by omega), Nat.succ_mul]
      omega
    refine ⟨next, ?_⟩
    rw [← Nat.add_assoc, startAt_succ, next, endAt, start, Nat.succ_mul]
    omega

/-- Without a run that takes longer than an interval, every run starts at its tick. -/
theorem startAt_of_short (short : ∀ i < n, (script i).duration ≤ interval) :
    startAt interval script n = n * interval := by
  have due : dueAt interval script 0 = 0 := rfl
  have start : startAt interval script 0 = 0 := rfl
  simpa using (startAt_add_of_short due start (by simpa using short)).2

/-- The times depend on how long the runs take, and on nothing else. -/
theorem ahead_congr {other : Nat → Run} (same : ∀ i, (other i).duration = (script i).duration)
    (n : Nat) : ahead interval other n = ahead interval script n := by
  induction n with
  | zero => rfl
  | succ n ih => simp only [ahead, ih, same]

/-! ## The loop -/

def failuresOf (script : Nat → Run) (first count : Nat) : List Error :=
  (List.range' first count).filterMap fun i =>
    match (script i).result with
    | .ok _ => none
    | .error e => some e

/-- What the loop reports from the run `first` on, of which it starts `count`. -/
structure Runs (interval stop : Nat) (script : Nat → Run) (first count : Nat) (report : Report) :
    Prop where
  starts : report.starts = (List.range' first count).map (startAt interval script)
  started : ∀ i, first ≤ i → (i < first + count ↔ startAt interval script i < stop)
  finished : ∀ i, first ≤ i → (i < first + report.finished ↔ endAt interval script i < stop)
  failures : report.failures = failuresOf script first report.finished
  returned : report.returned = stop

variable {first count : Nat} {report : Report}

def playFrom (interval stop : Nat) (h : 0 < interval) (script : Nat → Run) (first : Nat) :
    Report × Nat :=
  runFrom interval stop h (playing script) (ahead interval script first).1
    (ahead interval script first).2 first

/-- What one turn of the loop does. -/
theorem playFrom_eq (h : 0 < interval) (first : Nat) :
    playFrom interval stop h script first =
      if startAt interval script first < stop then
        if endAt interval script first ≤ stop then
          (((playFrom interval stop h script (first + 1)).1.precede (startAt interval script first)
            (script first)), (playFrom interval stop h script (first + 1)).2)
        else (⟨[startAt interval script first], 0, [], stop⟩, first + 1)
      else (⟨[], 0, [], max (ahead interval script first).1 stop⟩, first) := by
  rw [playFrom, runFrom]
  rfl

/-- A run that comes after the stop is not started, and none after it. -/
theorem runs_of_late (late : stop ≤ startAt interval script first) :
    Runs interval stop script first 0 ⟨[], 0, [], stop⟩ where
  starts := rfl
  started i later := by
    have start : startAt interval script first ≤ startAt interval script i := startAt_mono later
    omega
  finished i later := by
    have start : startAt interval script first ≤ startAt interval script i := startAt_mono later
    have runs : startAt interval script i ≤ endAt interval script i := startAt_le_endAt i
    show i < first + 0 ↔ _
    omega
  failures := rfl
  returned := rfl

/-- A run that goes on at the stop is the last one, and does not end. -/
theorem runs_of_cut (early : startAt interval script first < stop)
    (late : stop ≤ endAt interval script first) :
    Runs interval stop script first 1 ⟨[startAt interval script first], 0, [], stop⟩ where
  starts := rfl
  started i later := by
    by_cases here : i = first
    · rw [here]
      omega
    · have apart : endAt interval script first ≤ startAt interval script i :=
        endAt_le_startAt (by omega)
      omega
  finished i later := by
    have start : startAt interval script first ≤ startAt interval script i := startAt_mono later
    have runs : startAt interval script i ≤ endAt interval script i := startAt_le_endAt i
    show i < first + 0 ↔ _
    by_cases here : i = first
    · rw [here]
      omega
    · have apart : endAt interval script first ≤ startAt interval script i :=
        endAt_le_startAt (by omega)
      omega
  failures := rfl
  returned := rfl

/-- A run that ends before the stop is followed by what comes next. -/
theorem Runs.precede (next : Runs interval stop script (first + 1) count report)
    (early : endAt interval script first < stop) :
    Runs interval stop script first (count + 1)
      (report.precede (startAt interval script first) (script first)) where
  starts := by
    rw [List.range'_succ, List.map_cons, ← next.starts]
    rfl
  started i later := by
    by_cases here : i = first
    · have runs : startAt interval script first ≤ endAt interval script first :=
        startAt_le_endAt first
      rw [here]
      omega
    · have others := next.started i (by omega)
      omega
  finished i later := by
    show i < first + (report.finished + 1) ↔ _
    by_cases here : i = first
    · rw [here]
      omega
    · have others := next.finished i (by omega)
      omega
  failures := by
    show (match (script first).result with
      | .ok _ => report.failures
      | .error e => e :: report.failures) = failuresOf script first (report.finished + 1)
    rw [next.failures, failuresOf, failuresOf, List.range'_succ, List.filterMap_cons]
    cases (script first).result <;> rfl
  returned := next.returned

/-- The loop starts and ends the runs that fit in before the stop. -/
theorem playFrom_runs (h : 0 < interval) (between : StopsBetween interval script stop) (first : Nat)
    (ready : (ahead interval script first).1 ≤ stop) :
    ∃ count, Runs interval stop script first count
      (playFrom interval stop h script first).1 := by
  have tick : dueAt interval script first < dueAt interval script (first + 1) :=
    lt_nextTick h (dueAt_le_startAt first)
  rw [playFrom_eq]
  by_cases early : startAt interval script first < stop
  · rw [if_pos early]
    by_cases ends : endAt interval script first ≤ stop
    · rw [if_pos ends]
      obtain ⟨count, runs⟩ := playFrom_runs h between (first + 1) ends
      exact ⟨count + 1, runs.precede (Nat.lt_of_le_of_ne ends (between.ending first))⟩
    · rw [if_neg ends]
      exact ⟨1, runs_of_cut early (by omega)⟩
  · rw [if_neg early, Nat.max_eq_right ready]
    exact ⟨0, runs_of_late (by omega)⟩
termination_by stop - dueAt interval script first
decreasing_by
  have due : dueAt interval script first ≤ startAt interval script first := dueAt_le_startAt first
  omega

theorem run_runs (h : 0 < interval) (between : StopsBetween interval script stop) :
    ∃ count, Runs interval stop script 0 count (run interval stop h (playing script) 0).1 :=
  playFrom_runs h between 0 (Nat.zero_le stop)

theorem Runs.lt_count_iff (runs : Runs interval stop script 0 count report) (i : Nat) :
    i < count ↔ startAt interval script i < stop := by
  simpa using runs.started i (Nat.zero_le i)

theorem Runs.lt_finished_iff (runs : Runs interval stop script 0 count report) (i : Nat) :
    i < report.finished ↔ endAt interval script i < stop := by
  simpa using runs.finished i (Nat.zero_le i)

/-- Scripts whose runs take equally long have the same times. -/
theorem Runs.eq_of_durations {other : Nat → Run} {count' : Nat} {report' : Report}
    (runs : Runs interval stop script 0 count report)
    (runs' : Runs interval stop other 0 count' report')
    (same : ∀ i, (other i).duration = (script i).duration) :
    report'.starts = report.starts ∧ report'.finished = report.finished ∧
      report'.returned = report.returned := by
  have start : startAt interval other = startAt interval script := by
    funext i
    rw [startAt, startAt, ahead_congr same]
  have ending (i : Nat) : endAt interval other i = endAt interval script i := by
    rw [endAt, endAt, start, same]
  have counts : count' = count := by
    apply eq_of_forall_lt_iff
    intro i
    rw [runs.lt_count_iff, runs'.lt_count_iff, start]
  have finished : report'.finished = report.finished := by
    apply eq_of_forall_lt_iff
    intro i
    rw [runs.lt_finished_iff, runs'.lt_finished_iff, ending]
  refine ⟨?_, finished, ?_⟩
  · rw [runs.starts, runs'.starts, counts, start]
  · rw [runs.returned, runs'.returned]

theorem StopsBetween.congr {other : Nat → Run} (between : StopsBetween interval script stop)
    (same : ∀ i, (other i).duration = (script i).duration) : StopsBetween interval other stop where
  tick n := by
    rw [dueAt, ahead_congr same]
    exact between.tick n
  ending n := by
    rw [endAt, startAt, ahead_congr same, same]
    exact between.ending n

/-- The first run starts at once, and every other when the run before it is over and its tick is
due: at least an interval after the start before it, but for the grace, and exactly at its tick
while no run takes longer than an interval.  Runs start until the stop, those that end before it are
finished, and what comes of them makes no difference to any time. -/
theorem runs_of_script (interval stop : Nat) (h : 0 < interval) (script : Nat → Run)
    (between : StopsBetween interval script stop) :
    let report := (run interval stop h (playing script) 0).1
    let due := dueAt interval script
    let start := startAt interval script
    let ending := endAt interval script
    (report.starts.head? = some 0 ∧ due 0 = 0 ∧ start 0 = 0) ∧
    (∀ i, due (i + 1) = (if due i + 5 < start i then start i + interval else due i + interval) ∧
      start (i + 1) = max (ending i) (due (i + 1)) ∧ ending i ≤ start (i + 1) ∧
      start i + interval ≤ start (i + 1) + 5) ∧
    (∀ n, (∀ i < n, (script i).duration ≤ interval) → start n = n * interval) ∧
    (∃ count, report.starts = (List.range count).map start ∧ ∀ i, i < count ↔ start i < stop) ∧
    (∀ i, i < report.finished ↔ ending i < stop) ∧ report.returned = stop ∧
    report.failures = failuresOf script 0 report.finished ∧
    ∀ other : Nat → Run, (∀ i, (other i).duration = (script i).duration) →
      let changed := (run interval stop h (playing other) 0).1
      changed.starts = report.starts ∧ changed.finished = report.finished ∧
        changed.returned = report.returned := by
  intro report due start ending
  obtain ⟨count, runs⟩ := run_runs h between
  have starts : report.starts = (List.range count).map start := by
    rw [runs.starts, List.range_eq_range']
  refine ⟨⟨?_, rfl, rfl⟩, ?_, ?_, ⟨count, starts, runs.lt_count_iff⟩, runs.lt_finished_iff,
    runs.returned, runs.failures, ?_⟩
  · have later : 0 < stop := Nat.pos_of_ne_zero fun now => between.tick 0 now.symm
    have begun : 0 < count := (runs.lt_count_iff 0).2 later
    obtain ⟨more, rfl⟩ := Nat.exists_eq_succ_of_ne_zero (Nat.ne_of_gt begun)
    rw [starts, List.range_succ_eq_map]
    rfl
  · intro i
    exact ⟨rfl, startAt_succ, endAt_le_startAt_succ i, startAt_add_le i⟩
  · intro n short
    exact startAt_of_short short
  · intro other same changed
    obtain ⟨count', runs'⟩ := run_runs h (between.congr same)
    exact runs.eq_of_durations runs' same

end

/-- All runs fail.  The first takes longer than an interval of ten seconds, the others take no
time. -/
def failing (n : Nat) : Run :=
  ⟨if n = 0 then 12000 else 0, .error (.internal "boom")⟩

/-- The second run is taken late, and the ticks after it keep their distance from there. -/
theorem failing_startAt (n : Nat) :
    dueAt 10000 failing (2 + n) = 22000 + n * 10000 ∧
      startAt 10000 failing (2 + n) = 22000 + n * 10000 :=
  startAt_add_of_short rfl rfl fun i _ => by simp [failing]

theorem failing_endAt (n : Nat) : endAt 10000 failing (2 + n) = 22000 + n * 10000 := by
  rw [endAt, (failing_startAt n).2]
  simp [failing]

theorem failing_stopsBetween : StopsBetween 10000 failing 35000 where
  tick
    | 0 => by decide
    | 1 => by decide
    | n + 2 => by
      rw [Nat.add_comm n, (failing_startAt n).1]
      omega
  ending
    | 0 => by decide
    | 1 => by decide
    | n + 2 => by
      rw [Nat.add_comm n, failing_endAt]
      omega

theorem failing_runs_go_on :
    let report := (run 10000 35000 (by decide) (playing failing) 0).1
    report.starts = [0, 12000, 22000, 32000] ∧ report.finished = 4 ∧ report.returned = 35000 ∧
      report.failures = List.replicate 4 (.internal "boom") := by
  intro report
  obtain ⟨-, -, -, ⟨count, starts, started⟩, finished, returned, failures, -⟩ :=
    runs_of_script 10000 35000 (by decide) failing failing_stopsBetween
  have four : count = 4 := by
    have fourth := started (2 + 1)
    have fifth := started (2 + 2)
    rw [(failing_startAt 1).2] at fourth
    rw [(failing_startAt 2).2] at fifth
    omega
  have ended : (run 10000 35000 (by decide) (playing failing) 0).1.finished = 4 := by
    have fourth := finished (2 + 1)
    have fifth := finished (2 + 2)
    rw [failing_endAt] at fourth fifth
    omega
  refine ⟨?_, ended, returned, ?_⟩
  · rw [starts, four]
    rfl
  · rw [failures, ended]
    rfl

end AccessBroker.Periodic
