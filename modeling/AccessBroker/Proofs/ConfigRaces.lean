import AccessBroker.Proofs.ConfigWrites

/-! # Writers at the same time

A write calls the table three times: it finds the master, archives it, and
swaps in the new version.  Any number of writers come in between one another at
these calls, so what a writer has found may be out of date when it archives and
again when it swaps.  What carries the proof is that a writer who has come to
the swap has left a row of the archive with the checksum that it expects.
-/

namespace AccessBroker

structure WriteCall where
  document : ConfigDocument
  expected : Option String
  author : String

namespace Service

/-! ## The parts of a write -/

/-- The first call of a write: it finds the master. -/
def findMaster (author : String) : Service (NonBlank × Option ConfigVersion) := do
  let author ← lift (NonBlank.of author)
  let current ← findConfig? masterId
  return (author, current)

/-- The second call of a write: it archives the master that was found. -/
def prepareWrite (c : WriteCall) (author : NonBlank) (current : Option ConfigVersion) :
    Service ConfigWrite := do
  let write ← lift (planWrite current c.document c.expected author.text (← get).clock)
  match write.archived with
  | some v => archiveConfig v
  | none => pure ()
  return write

/-- The last call of a write: it swaps in the version, which is then adopted. -/
def commitWrite (expected : Option String) (write : ConfigWrite) : Service ConfigSnapshot := do
  if ← swapConfig expected write.version then
    adoptConfig write.version
    return .of write.version
  else
    throw (.conflict
      s!"dynamic configuration '{masterId}' was modified concurrently")

theorem writeConfig_eq (c : WriteCall) :
    writeConfig c.document c.expected c.author = (do
      let found ← findMaster c.author
      let write ← prepareWrite c found.1 found.2
      commitWrite c.expected write) := by
  simp only [writeConfig, findMaster, prepareWrite, commitWrite, bind_assoc, pure_bind]
  refine bind_congr fun author => bind_congr fun current => bind_congr fun w =>
    bind_congr fun write => ?_
  cases write.archived with
  | none => simp only [pure_bind]
  | some v => simp only [bind_assoc, pure_bind]

end Service

/-! ## One writer -/

inductive WriteStage where
  | asked
  /-- It has found the master. -/
  | found (author : NonBlank) (current : Option ConfigVersion)
  /-- It has archived what it found. -/
  | prepared (write : Service.ConfigWrite)
  | ended (result : Except Error ConfigSnapshot)

namespace WriteStage

open Service

def isPrepared : WriteStage → Bool
  | .prepared _ => true
  | _ => false

theorem eq_prepared_of_isPrepared {stage : WriteStage} (h : stage.isPrepared = true) :
    ∃ write, stage = .prepared write := by
  cases stage with
  | prepared write => exact ⟨write, rfl⟩
  | _ => cases h

def following {α : Type} (next : α → WriteStage) : Except Error α × World → WriteStage × World
  | (.ok a, left) => (next a, left)
  | (.error e, left) => (ended (.error e), left)

def advance (c : WriteCall) (setup : Setup) (w : World) : WriteStage → WriteStage × World
  | asked => following (fun f => found f.1 f.2) ((findMaster c.author).perform setup w)
  | found author current => following prepared ((prepareWrite c author current).perform setup w)
  | prepared write =>
    following (fun s => ended (.ok s)) ((commitWrite c.expected write).perform setup w)
  | ended result => (ended result, w)

/-- The version that the next call of a write makes the master: that of a swap which succeeds. -/
def swapped (c : WriteCall) (setup : Setup) (w : World) : WriteStage → Option ConfigVersion
  | prepared write =>
    match (swapConfig c.expected write.version).perform setup w with
    | (.ok true, _) => some write.version
    | _ => none
  | _ => none

/-- A writer whom nobody disturbs does with three calls what the whole write does. -/
theorem advance_alone (c : WriteCall) (setup : Setup) (w : World) :
    let first := asked.advance c setup w
    let second := first.1.advance c setup first.2
    let last := second.1.advance c setup second.2
    last = following (fun s => ended (.ok s))
      ((writeConfig c.document c.expected c.author).perform setup w) := by
  simp only [writeConfig_eq, perform_bind, advance]
  rcases (findMaster c.author).perform setup w with ⟨_ | found, w⟩
  · rfl
  · simp only [following]
    rcases (prepareWrite c found.1 found.2).perform setup w with ⟨_ | write, w⟩ <;> rfl

/-- What the next call of a write makes of the writer and of the table, and which version it swaps
in. -/
inductive Step (c : WriteCall) (t : ConfigTable) :
    WriteStage → WriteStage → ConfigTable → Option ConfigVersion → Prop where
  | found (author : NonBlank) : Step c t asked (found author t.master?) t none
  /-- There is nothing to archive for the first version. -/
  | planned {author : NonBlank} (write : ConfigWrite) (expected : c.expected = none)
      (document : write.version.document = c.document) :
      Step c t (found author none) (prepared write) t none
  | archived {author : NonBlank} {old : ConfigVersion} (write : ConfigWrite) (id : String)
      (expected : c.expected = some old.checksum)
      (document : write.version.document = c.document) (ne : id ≠ masterId)
      (free : t.find? id = none) :
      Step c t (found author (some old)) (prepared write)
        ⟨t.rows.insert id { old with id := id }⟩ none
  | swapped {write : ConfigWrite} (current : t.master?.map (·.checksum) = c.expected) :
      Step c t (prepared write) (ended (.ok (.of write.version)))
        ⟨t.rows.insert masterId write.version⟩ (some write.version)
  | failed {stage : WriteStage} (e : Error) (going : ∀ result, stage ≠ ended result) :
      Step c t stage (ended (.error e)) t none
  | settled (result : Except Error ConfigSnapshot) : Step c t (ended result) (ended result) t none

end WriteStage

namespace Service

variable {setup : Setup} {w : World} {c : WriteCall}

theorem ends_findMaster (author : String) :
    Ends setup w (findMaster author)
      (fun found left => found.2 = w.config.master? ∧ left.config = w.config)
      fun _ left => left.config = w.config := by
  simp only [findMaster, ends_bind, ends_lift, ends_pure]
  refine ⟨fun _ _ => ?_, fun _ _ => trivial⟩
  exact ends_findConfig (fun left alike => ⟨rfl, alike.config⟩) fun _ left _ alike => alike.config

theorem ends_prepareWrite (author : NonBlank) (current : Option ConfigVersion) :
    Ends setup w (prepareWrite c author current)
      (fun write left => WriteStage.Step c w.config (.found author current) (.prepared write)
        left.config none)
      fun _ left => left.config = w.config := by
  simp only [prepareWrite, ends_bind, ends_get, ends_lift]
  refine ⟨fun write planned => ?_, fun _ _ => trivial⟩
  obtain ⟨expected, -, archived, version⟩ := planWrite_eq_ok planned
  have document : write.version.document = c.document := by rw [version]; rfl
  rw [archived]
  cases current with
  | none => exact .planned write expected.symm document
  | some old =>
    rw [Option.map_some, ends_bind]
    refine ends_archiveConfig (fun left free alike => ?_) fun _ left _ alike => alike.config
    rw [ends_pure, alike.config]
    exact .archived write _ expected.symm document (Text.intText_ne_masterId _) free

theorem adoptConfig_spares_table (v : ConfigVersion) :
    Ends setup w (adoptConfig v) (fun _ left => left.config = w.config) fun _ _ => False := by
  simp only [adoptConfig, copyConfig, publish, ends_bind, ends_quietly, ends_modify,
    (publishIn_config _ _).1]
  exact ends_putConfigCopy (fun left alike => alike.config) fun _ left _ alike => alike.config

end Service

namespace WriteStage

open Service

section

variable {setup : Setup} {w : World}

theorem following_of_ends {α : Type} {s : Service α} {next : α → WriteStage}
    {q : WriteStage → World → Prop}
    (h : Ends setup w s (fun a => q (next a)) fun e => q (ended (.error e))) :
    q (following next (s.perform setup w)).1 (following next (s.perform setup w)).2 := by
  unfold Ends at h
  split at h <;> simp_all [following]

/-- Nothing comes of the next call of a write but what `Step` lists. -/
theorem step_advance (c : WriteCall) (setup : Setup) (w : World) (stage : WriteStage) :
    Step c w.config stage (stage.advance c setup w).1 (stage.advance c setup w).2.config
      (stage.swapped c setup w) := by
  cases stage with
  | asked =>
    refine following_of_ends (q := fun stage left => Step c w.config asked stage left.config none)
      ((ends_findMaster c.author).mono (fun found left h => ?_) fun e left same => ?_)
    · rw [h.1, h.2]
      exact .found found.1
    · rw [same]
      exact .failed e (by simp)
  | found author current =>
    refine following_of_ends
      (q := fun stage left => Step c w.config (found author current) stage left.config none)
      ((ends_prepareWrite author current).mono (fun write left step => step) fun e left same => ?_)
    rw [same]
    exact .failed e (by simp)
  | ended result => exact .settled result
  | prepared write =>
    have swaps : Ends setup w (swapConfig c.expected write.version)
        (fun swapped left => if swapped then
            w.config.master?.map (·.checksum) = c.expected ∧
              left.config = ⟨w.config.rows.insert masterId write.version⟩
          else left.config = w.config)
        fun _ left => left.config = w.config := by
      refine ends_swapConfig (fun left alike => ?_) (fun left _ alike => alike.config)
        fun _ left _ alike => alike.config
      rw [alike.config]
      unfold ConfigTable.swapMaster
      split
      · next current => exact ⟨current, rfl⟩
      · rfl
    simp only [advance, swapped, commitWrite, perform_bind]
    rcases run : (swapConfig c.expected write.version).perform setup w with ⟨_ | _ | _, left⟩
    · have same : left.config = w.config := swaps.of_error run
      simp only [following, same]
      exact .failed _ (by simp)
    · have same : left.config = w.config := swaps.of_ok run
      simp only [Bool.false_eq_true, if_false, perform_throw, following, same]
      exact .failed _ (by simp)
    · obtain ⟨current, table⟩ := swaps.of_ok run
      have adopts : Ends setup left (adoptConfig write.version)
          (fun _ after => after.config = left.config) fun _ _ => False :=
        adoptConfig_spares_table write.version
      obtain ⟨_, after, adopted, same⟩ := adopts.ok
      simp only [if_true, perform_bind, adopted, perform_pure, following, same, table]
      exact .swapped current

end

/-! ## What a step keeps -/

variable {c : WriteCall} {t after : ConfigTable} {stage next : WriteStage}
  {v : Option ConfigVersion}

theorem Step.kept (step : Step c t stage next after v) {id : String} {row : ConfigVersion}
    (archived : id ≠ masterId) (here : t.find? id = some row) : after.find? id = some row := by
  cases step with
  | archived write new expected document ne free =>
    rw [ConfigTable.find?_insert, if_neg, here]
    rintro rfl
    rw [free] at here
    cases here
  | swapped => rw [ConfigTable.find?_insert, if_neg archived, here]
  | _ => exact here

theorem Step.master (step : Step c t stage next after v) : after.master? = v.or t.master? := by
  cases step with
  | archived write new expected document ne free =>
    exact (ConfigTable.find?_insert ..).trans (if_neg ne.symm)
  | swapped => exact (ConfigTable.find?_insert ..).trans (if_pos rfl)
  | _ => rfl

end WriteStage

def ConfigTable.Archives (t : ConfigTable) (checksum : String) : Prop :=
  ∃ id row, id ≠ masterId ∧ t.find? id = some row ∧ row.checksum = checksum

namespace WriteStage

variable {c : WriteCall} {t after : ConfigTable} {stage next : WriteStage}
  {v : Option ConfigVersion}

theorem Step.archives (step : Step c t stage next after v) {checksum : String}
    (here : t.Archives checksum) : after.Archives checksum := by
  obtain ⟨id, row, archived, found, same⟩ := here
  exact ⟨id, row, archived, step.kept archived found, same⟩

/-- A writer comes to the swap with what it expects in the archive. -/
theorem Step.archives_of_prepared (step : Step c t stage next after v)
    {write : Service.ConfigWrite} (prepared : next = .prepared write) {checksum : String}
    (expected : c.expected = some checksum) : after.Archives checksum := by
  cases step with
  | planned write none => cases none.symm.trans expected
  | @archived author old write id same document ne free =>
    obtain rfl := Option.some.inj (same.symm.trans expected)
    exact ⟨id, _, ne, (ConfigTable.find?_insert ..).trans (if_pos rfl), rfl⟩
  | _ => cases prepared

theorem Step.current (step : Step c t stage next after v) {version : ConfigVersion}
    (swapped : v = some version) :
    (∃ write, stage = .prepared write ∧ write.version = version) ∧
      t.master?.map (·.checksum) = c.expected := by
  cases step with
  | swapped current =>
    obtain rfl := Option.some.inj swapped
    exact ⟨⟨_, rfl, rfl⟩, current⟩
  | _ => cases swapped

theorem Step.succeeded_iff (step : Step c t stage next after v) {s : ConfigSnapshot} :
    next = .ended (.ok s) ↔
      stage = .ended (.ok s) ∨ ∃ version, v = some version ∧ s = .of version := by
  cases step with
  | swapped => simp [eq_comm]
  | failed e going => simp [going]
  | settled => simp
  | _ => simp

theorem Step.document (step : Step c t stage next after v)
    {write : Service.ConfigWrite} (prepared : next = .prepared write) :
    write.version.document = c.document := by
  cases step with
  | planned _ _ document | archived _ _ _ document =>
    cases prepared
    exact document
  | _ => cases prepared

end WriteStage

/-! ## Many writers -/

structure Race (ι : Type) where
  world : World
  stages : ι → WriteStage

structure Commit (ι : Type) where
  writer : ι
  version : ConfigVersion

namespace Race

variable {ι : Type} {calls : ι → WriteCall} {start r : Race ι} {commits : List (Commit ι)}

section

variable [DecidableEq ι]

def step (r : Race ι) (calls : ι → WriteCall) (i : ι) (setup : Setup) : Race ι where
  world := ((r.stages i).advance (calls i) setup r.world).2
  stages j := if j = i then ((r.stages i).advance (calls i) setup r.world).1 else r.stages j

def committed (r : Race ι) (calls : ι → WriteCall) (i : ι) (setup : Setup) : List (Commit ι) :=
  ((r.stages i).swapped (calls i) setup r.world).toList.map fun v => ⟨i, v⟩

/-- The races that the calls of the writers lead to in any order, with the versions committed on the
way.  In between anything may change but the table. -/
inductive Run (calls : ι → WriteCall) (start : Race ι) : Race ι → List (Commit ι) → Prop where
  | start : Run calls start start []
  | move {r : Race ι} {commits : List (Commit ι)} (run : Run calls start r commits) (moved : World)
      (table : moved.config = r.world.config) : Run calls start { r with world := moved } commits
  | step {r : Race ι} {commits : List (Commit ι)} (run : Run calls start r commits) (i : ι)
      (setup : Setup) :
      Run calls start (r.step calls i setup) (commits ++ r.committed calls i setup)

end

/-! ## The chain of commits -/

def latest (first : Option ConfigVersion) (commits : List (Commit ι)) : Option ConfigVersion :=
  (commits.getLast?.map (·.version)).or first

/-- Every writer who committed had named the checksum of the version before. -/
def Chained (calls : ι → WriteCall) (first : Option ConfigVersion) (commits : List (Commit ι)) :
    Prop :=
  ∀ before c after, commits = before ++ c :: after →
    (calls c.writer).expected = (latest first before).map (·.checksum)

theorem Chained.concat {first : Option ConfigVersion} {c : Commit ι}
    (h : Chained calls first commits)
    (next : (calls c.writer).expected = (latest first commits).map (·.checksum)) :
    Chained calls first (commits ++ [c]) := by
  intro before d after split
  rcases List.eq_nil_or_concat after with rfl | ⟨init, last, rfl⟩
  · obtain ⟨rfl, rfl⟩ := List.append_singleton_inj.1 split
    exact next
  · rw [List.concat_eq_append, ← List.cons_append, ← List.append_assoc,
      List.append_singleton_inj] at split
    exact h before d init split.1

/-! ## What holds throughout -/

/-- What holds of the writers and of the table after some commits. -/
structure Sound (calls : ι → WriteCall) (first : Option ConfigVersion) (r : Race ι)
    (commits : List (Commit ι)) : Prop where
  chained : Chained calls first commits
  master : r.world.config.master? = latest first commits
  archives : ∀ i write checksum, r.stages i = .prepared write →
    (calls i).expected = some checksum → r.world.config.Archives checksum
  prepared : ∀ i write, r.stages i = .prepared write →
    write.version.document = (calls i).document
  documents : ∀ c ∈ commits, c.version.document = (calls c.writer).document
  succeeded : ∀ i s, r.stages i = .ended (.ok s) ↔ ∃ c ∈ commits, c.writer = i ∧ s = .of c.version

namespace Sound

variable {first : Option ConfigVersion}

theorem of_fresh (fresh : ∀ i, start.stages i = .asked) :
    Sound calls start.world.config.master? start [] where
  chained before c after split := by cases before <;> cases split
  master := rfl
  archives i write checksum prepared := by
    rw [fresh i] at prepared
    cases prepared
  prepared i write prepared := by
    rw [fresh i] at prepared
    cases prepared
  documents c hc := by cases hc
  succeeded i s := by
    rw [fresh i]
    exact ⟨nofun, fun ⟨c, hc, _⟩ => nomatch hc⟩

theorem move (h : Sound calls first r commits) {moved : World}
    (table : moved.config = r.world.config) :
    Sound calls first { r with world := moved } commits where
  chained := h.chained
  master := by rw [table]; exact h.master
  archives i write checksum prepared expected := by
    rw [table]
    exact h.archives i write checksum prepared expected
  prepared := h.prepared
  documents := h.documents
  succeeded := h.succeeded

theorem step [DecidableEq ι] (h : Sound calls first r commits) (i : ι) (setup : Setup) :
    Sound calls first (r.step calls i setup) (commits ++ r.committed calls i setup) := by
  have step := WriteStage.step_advance (calls i) setup r.world (r.stages i)
  simp only [Race.step, committed]
  generalize (r.stages i).swapped (calls i) setup r.world = v at step ⊢
  generalize (r.stages i).advance (calls i) setup r.world = next at step ⊢
  refine ⟨?_, ?_, ?_, ?_, ?_, ?_⟩
  · cases v with
    | none => simpa using h.chained
    | some version => exact h.chained.concat (by rw [← h.master, (step.current rfl).2])
  · rw [step.master, h.master]
    cases v with
    | none => simp
    | some version => simp [latest]
  -- Another writer stays where it was, and what it has archived stays in the archive.
  · intro j write checksum prepared expected
    replace prepared : (if j = i then next.1 else r.stages j) = .prepared write := prepared
    split at prepared
    · next same =>
      subst same
      exact step.archives_of_prepared prepared expected
    · exact step.archives (h.archives j write checksum prepared expected)
  · intro j write prepared
    replace prepared : (if j = i then next.1 else r.stages j) = .prepared write := prepared
    split at prepared
    · next same =>
      subst same
      exact step.document prepared
    · exact h.prepared j write prepared
  · intro c hc
    rcases List.mem_append.1 hc with hc | hc
    · exact h.documents c hc
    · obtain ⟨version, hv, rfl⟩ := List.mem_map.1 hc
      obtain ⟨⟨write, prepared, rfl⟩, -⟩ := step.current (Option.mem_toList.1 hv)
      exact h.prepared i write prepared
  · intro j s
    simp only [List.mem_append, or_and_right, exists_or, ← h.succeeded j s]
    split
    · next same =>
      subst same
      rw [step.succeeded_iff]
      cases v <;> simp
    · next other =>
      cases v <;> simp [Ne.symm other]

end Sound

variable [DecidableEq ι]

theorem Run.sound (run : Run calls start r commits) (fresh : ∀ i, start.stages i = .asked) :
    Sound calls start.world.config.master? r commits := by
  induction run with
  | start => exact .of_fresh fresh
  | move _ moved table ih => exact ih.move table
  | step _ i setup ih => exact ih.step i setup

theorem Run.kept (run : Run calls start r commits) {id : String} {row : ConfigVersion}
    (archived : id ≠ masterId) (here : start.world.config.find? id = some row) :
    r.world.config.find? id = some row := by
  induction run with
  | start => exact here
  | move _ moved table ih => rw [table, ih]
  | step _ i setup ih => exact (WriteStage.step_advance ..).kept archived ih

/-- However the writers come in between one another, every commit was made by a writer who had named
the checksum of the version before it, the last one is the master, and the writes that succeed are
those that commit.  A swap that succeeds finds the checksum that its writer expects, and what it
replaces is in the archive by then, where no row is ever changed or removed. -/
theorem Run.serialized (run : Run calls start r commits) (fresh : ∀ i, start.stages i = .asked) :
    Chained calls start.world.config.master? commits ∧
    r.world.config.master? = latest start.world.config.master? commits ∧
    (∀ c ∈ commits, c.version.document = (calls c.writer).document) ∧
    (∀ i s, r.stages i = .ended (.ok s) ↔ ∃ c ∈ commits, c.writer = i ∧ s = .of c.version) ∧
    (∀ i write setup left, r.stages i = .prepared write →
      (Service.swapConfig (calls i).expected write.version).perform setup r.world =
        (.ok true, left) →
      r.world.config.master?.map (·.checksum) = (calls i).expected ∧
      ∀ old, r.world.config.master? = some old → r.world.config.Archives old.checksum) ∧
    ∀ later more, Run calls r later more → ∀ id row, id ≠ masterId →
      r.world.config.find? id = some row → later.world.config.find? id = some row := by
  have sound := run.sound fresh
  refine ⟨sound.chained, sound.master, sound.documents, sound.succeeded, ?_,
    fun later more on id row archived here => on.kept archived here⟩
  intro i write setup left prepared swaps
  have step := WriteStage.step_advance (calls i) setup r.world (r.stages i)
  have swapped : (r.stages i).swapped (calls i) setup r.world = some write.version := by
    simp only [prepared, WriteStage.swapped, swaps]
  obtain ⟨-, current⟩ := step.current swapped
  refine ⟨current, fun old here => sound.archives i write _ prepared ?_⟩
  rw [← current, here, Option.map_some]

/-! ## Two writers -/

def withAdmins (admins : List Json) : ConfigDocument := ⟨.object [("admins", .array admins)], rfl⟩

/-- Both name the checksum of the first version. -/
def editors : Bool → WriteCall
  | true => ⟨withAdmins [], some "first", "alice"⟩
  | false => ⟨withAdmins [.string "bob"], some "first", "bob"⟩

def unraced : Race Bool where
  world := { (default : World) with
    config := ⟨Table.empty.insert masterId ⟨masterId, .empty, "first", "root", default⟩⟩ }
  stages _ := .asked

def halfway : Race Bool :=
  (unraced.step editors true default).step editors true default

def prepared : Race Bool :=
  let moved := { halfway.world with clock := ⟨1, by decide, by decide⟩ }
  ({ halfway with world := moved }.step editors false default).step editors false default

def raced : Race Bool :=
  prepared.step editors true default

theorem Run.second_swap_lost :
    ∃ write, raced.stages false = .prepared write ∧ ∀ setup left,
      (Service.swapConfig (some "first") write.version).perform setup raced.world ≠
        (.ok true, left) := by
  have master : raced.world.config.master? =
      some (.written (withAdmins []) "alice" default) := by decide +kernel
  have waits : (raced.stages false).isPrepared = true := by decide +kernel
  have begun : Run editors unraced halfway _ :=
    .step (.step .start true default) true default
  have both : Run editors unraced prepared _ :=
    .step (.step (begun.move { halfway.world with clock := ⟨1, by decide, by decide⟩ } rfl)
      false default) false default
  have run : Run editors unraced raced _ := both.step true default
  obtain ⟨write, waiting⟩ := WriteStage.eq_prepared_of_isPrepared waits
  refine ⟨write, waiting, fun setup left swaps => ?_⟩
  obtain ⟨-, -, -, -, swapped, -⟩ := run.serialized fun _ => rfl
  obtain ⟨current, -⟩ := swapped false write setup left waiting swaps
  rw [master, Option.map_some] at current
  exact absurd (Option.some.inj current) (by decide +kernel)

end Race

end AccessBroker
