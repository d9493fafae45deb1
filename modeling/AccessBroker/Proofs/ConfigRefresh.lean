import AccessBroker.Proofs.ConfigHistory

/-! # Refreshing the configuration

A service that refreshes compares the master with its snapshot alone.  What it
has written, taken over or loaded is in its fast tier too, but what it has read
is not.  So a refresh that finds nothing new leaves in the fast tier what was
there before the reading.
-/

namespace AccessBroker

open World (Alike)

/-- What a service does with the configuration: a call, or a look at the fast tier at its start. -/
inductive ConfigUse where
  | call (c : ConfigCall)
  | load

def ConfigUse.after (setup : Setup) (w : World) : ConfigUse → World
  | call c => c.after setup w
  | load => (Service.loadCopy.perform setup w).2

/-- The copy in the fast tier and the snapshot have the same checksum, or are both none. -/
def World.Level (w : World) : Prop :=
  w.configCopy.map (·.checksum) = w.published.checksum

structure World.SameLevel (w left : World) : Prop where
  copy : left.configCopy = w.configCopy
  checksum : left.published.checksum = w.published.checksum

theorem World.Level.of_copied {left : World} {v : ConfigVersion} (copy : left.configCopy = some v)
    (published : left.published.checksum = some v.checksum) : left.Level := by
  unfold World.Level
  rw [copy, published]
  rfl

theorem World.SameLevel.of_alike {w left : World} (alike : Alike w left) : w.SameLevel left :=
  ⟨alike.configCopy, by rw [alike.published]⟩

theorem World.SameLevel.of_stays {w left : World} (stays : Service.ConfigStays w left) :
    w.SameLevel left :=
  ⟨stays.copy, by rw [stays.published]⟩

namespace Service

variable {setup : Setup} {w : World} {v : ConfigVersion}

/-! ## What each call does to the copy and to the snapshot -/

/-- The snapshot is of the master, and nothing else has changed. -/
structure ToldMaster (w left : World) : Prop where
  table : left.config = w.config
  copy : left.configCopy = w.configCopy
  published : left.published.checksum = w.config.master?.map (·.checksum)

theorem toldMaster_publishIn {left : World} {snapshot : ConfigSnapshot} (alike : Alike w left)
    (same : snapshot.checksum = w.config.master?.map (·.checksum)) :
    ToldMaster w (publishIn snapshot left) := by
  obtain ⟨config, copy⟩ := publishIn_config snapshot left
  constructor
  · rw [config, alike.config]
  · rw [copy, alike.configCopy]
  · rw [publishIn_checksum, same]

/-- A reading moves the snapshot to the master and leaves the copy. -/
theorem ends_readConfig {good : ConfigSnapshot → World → Prop} {bad : Error → World → Prop}
    (answers : w.ConfigAnswers) (told : ∀ snapshot left, ToldMaster w left → good snapshot left) :
    Ends setup w readConfig good bad := by
  simp only [readConfig, publish, ends_bind, ends_modify, ends_pure]
  refine ends_findConfig (fun left alike => ?_) fun e left fails _ => ?_
  · cases here : w.config.find? masterId with
    | none =>
      have absent : w.config.master? = none := here
      exact told _ _ (toldMaster_publishIn alike (by rw [absent]; rfl))
    | some v =>
      have master : w.config.master? = some v := here
      exact told _ _ (toldMaster_publishIn alike (by rw [master]; rfl))
  · exact (answers.findConfig.not_fail fails).elim

/-- A refresh compares the master with the snapshot: if they differ, it copies and publishes the
master, and otherwise it does nothing. -/
theorem ends_refreshConfig {good : Bool → World → Prop} {bad : Error → World → Prop}
    (answers : w.ConfigAnswers)
    (unknown : ∀ left, w.config.master? = none → Alike w left → good false left)
    (known : ∀ v left, w.config.master? = some v → w.published.checksum = some v.checksum →
      Alike w left → good false left)
    (news : ∀ v left, w.config.master? = some v → w.published.checksum ≠ some v.checksum →
      left.config = w.config → left.configCopy = some v →
      left.published.checksum = some v.checksum → good true left) :
    Ends setup w refreshConfig good bad := by
  simp only [refreshConfig, ends_bind]
  refine ends_findConfig (fun left alike => ?_) fun e left fails _ => ?_
  · cases here : w.config.find? masterId with
    | none => exact unknown left here alike
    | some v =>
      simp only [refreshFrom, ends_bind, ends_get]
      rw [alike.published]
      by_cases same : w.published.checksum = some v.checksum
      · rw [if_pos same]
        exact known v left here same alike
      · rw [if_neg same, ends_bind]
        refine ends_adoptConfig (answers.rest alike.leftOver) fun after config copy published => ?_
        exact news v after here same (config.trans alike.config) copy published
  · exact (answers.findConfig.not_fail fails).elim

structure Refreshed (w : World) (v : ConfigVersion) (changed : Bool) (left : World) : Prop where
  table : left.config = w.config
  published : left.published.checksum = some v.checksum
  changed_iff : changed = true ↔ w.published.checksum ≠ some v.checksum
  copied : changed = true → left.configCopy = some v
  passed : changed = false → left.configCopy = w.configCopy

theorem perform_refreshConfig (setup : Setup) (answers : w.ConfigAnswers)
    (master : w.config.master? = some v) :
    ∃ changed left, refreshConfig.perform setup w = (.ok changed, left) ∧
      Refreshed w v changed left := by
  have ends : Ends setup w refreshConfig (Refreshed w v) fun _ _ => False := by
    refine ends_refreshConfig answers ?_ ?_ ?_
    · intro left absent _
      exact absurd (absent.symm.trans master) nofun
    · intro v' left here same alike
      obtain rfl : v' = v := Option.some.inj (here.symm.trans master)
      have published : left.published.checksum = some v'.checksum := by rw [alike.published, same]
      exact ⟨alike.config, published, by simp [same], nofun, fun _ => alike.configCopy⟩
    · intro v' left here differ config copy published
      obtain rfl : v' = v := Option.some.inj (here.symm.trans master)
      exact ⟨config, published, by simp [differ], fun _ => copy, nofun⟩
  exact ends.ok

/-- A look at the fast tier publishes the copy that is there, or does nothing. -/
theorem ends_loadCopy {good : Bool → World → Prop} {bad : Error → World → Prop}
    (nothing : ∀ left, Alike w left → good false left)
    (loaded : ∀ v left, left.config = w.config → w.configCopy = some v →
      left.configCopy = some v → left.published.checksum = some v.checksum → good true left) :
    Ends setup w loadCopy good bad := by
  simp only [loadCopy, publish, ends_bind, ends_tryCatch]
  refine ends_getConfigCopy (fun left alike => ?_) fun _ left _ alike => nothing left alike
  cases here : w.configCopy with
  | none => exact nothing left alike
  | some v =>
    obtain ⟨config, copy⟩ := publishIn_config (.of v) left
    refine loaded v _ ?_ here ?_ (publishIn_checksum _ _)
    · rw [config, alike.config]
    · rw [copy, alike.configCopy, here]

end Service

/-- Only a reading moves the snapshot without the copy. -/
theorem ConfigUse.moves (setup : Setup) {w : World} (answers : w.ConfigAnswers) (u : ConfigUse) :
    (u.after setup w).Level ∨ w.SameLevel (u.after setup w) ∨
    u = .call .read ∧ (u.after setup w).configCopy = w.configCopy ∧
      (u.after setup w).published.checksum ≠ w.published.checksum := by
  cases u with
  | load =>
    have ends : Service.Ends setup w Service.loadCopy
        (fun _ left => left.Level ∨ w.SameLevel left) fun _ left => left.Level ∨ w.SameLevel left :=
      Service.ends_loadCopy (fun left alike => .inr (.of_alike alike))
        fun v left _ _ copy published => .inl (.of_copied copy published)
    exact ends.left.imp_right .inl
  | call c =>
    cases c with
    | read =>
      have ends : Service.Ends setup w Service.readConfig
          (fun _ => Service.ToldMaster w) fun _ => Service.ToldMaster w :=
        Service.ends_readConfig answers fun _ _ told => told
      have copy := ends.left.copy
      by_cases same : (ConfigCall.read.after setup w).published.checksum = w.published.checksum
      · exact .inr (.inl ⟨copy, same⟩)
      · exact .inr (.inr ⟨rfl, copy, same⟩)
    | write document expected author =>
      have ends : Service.Ends setup w (Service.writeConfig document expected author)
          (fun _ left => left.Level ∨ w.SameLevel left) fun _ left => left.Level ∨ w.SameLevel left :=
        (Service.ends_writeConfig answers).mono
          (fun _ _ ⟨_, _, done⟩ => .inl (.of_copied done.copy done.published))
          fun _ _ ⟨_, stays⟩ => .inr (.of_stays stays)
      exact ends.left.imp_right .inl
    | refresh =>
      have ends : Service.Ends setup w Service.refreshConfig
          (fun _ left => left.Level ∨ w.SameLevel left) fun _ left => left.Level ∨ w.SameLevel left :=
        Service.ends_refreshConfig answers (fun left _ alike => .inr (.of_alike alike))
          (fun _ left _ _ alike => .inr (.of_alike alike))
          fun _ left _ _ _ copy published => .inl (.of_copied copy published)
      exact ends.left.imp_right .inl

/-! ## Runs of many services -/

namespace Fleet

variable {ι τ : Type} [DecidableEq ι] [DecidableEq τ] {tier : ι → τ} {start f : Fleet ι τ} {i : ι}

def afterUse (f : Fleet ι τ) (tier : ι → τ) (i : ι) (setup : Setup) (around : World)
    (u : ConfigUse) : Fleet ι τ :=
  f.leftBy tier i (u.after setup (f.seenBy tier i around))

/-- The fleets that are reached when services use the configuration one after another, each at any
time, with tables and tiers that answer. -/
inductive Course (tier : ι → τ) (start : Fleet ι τ) : Fleet ι τ → Prop where
  | start : Course tier start start
  | use {f : Fleet ι τ} (course : Course tier start f) (i : ι) (setup : Setup) (around : World)
      (answers : around.ConfigAnswers) (u : ConfigUse) :
      Course tier start (f.afterUse tier i setup around u)

def Level (f : Fleet ι τ) (tier : ι → τ) (i : ι) : Prop :=
  (f.copies (tier i)).map (·.checksum) = (f.published i).checksum

structure SameLevel (f g : Fleet ι τ) (tier : ι → τ) (i : ι) : Prop where
  copy : g.copies (tier i) = f.copies (tier i)
  checksum : (g.published i).checksum = (f.published i).checksum

/-- On the way the service has read another version than it had.  It still has the checksum that it
read, and in its fast tier what was there before. -/
def ReadSince (tier : ι → τ) (start f : Fleet ι τ) (i : ι) : Prop :=
  ∃ (before : Fleet ι τ) (setup : Setup) (around : World), Course tier start before ∧
    around.ConfigAnswers ∧
    let told := before.afterUse tier i setup around (.call .read)
    (told.published i).checksum ≠ (before.published i).checksum ∧
    told.copies (tier i) = before.copies (tier i) ∧
    Course tier told f ∧ told.SameLevel f tier i

theorem copies_afterUse (setup : Setup) (around : World) (u : ConfigUse) :
    (f.afterUse tier i setup around u).copies (tier i) =
      (u.after setup (f.seenBy tier i around)).configCopy :=
  if_pos rfl

theorem published_afterUse (setup : Setup) (around : World) (u : ConfigUse) :
    (f.afterUse tier i setup around u).published i =
      (u.after setup (f.seenBy tier i around)).published :=
  if_pos rfl

theorem level_afterUse {setup : Setup} {around : World} {u : ConfigUse}
    (level : (u.after setup (f.seenBy tier i around)).Level) :
    (f.afterUse tier i setup around u).Level tier i := by
  unfold Level
  rw [copies_afterUse, published_afterUse]
  exact level

theorem sameLevel_afterUse {setup : Setup} {around : World} {u : ConfigUse}
    (same : (f.seenBy tier i around).SameLevel (u.after setup (f.seenBy tier i around))) :
    f.SameLevel (f.afterUse tier i setup around u) tier i := by
  constructor
  · rw [copies_afterUse]
    exact same.copy
  · rw [published_afterUse]
    exact same.checksum

/-- A service that shares no fast tier is not touched by the others. -/
theorem sameLevel_of_other {setup : Setup} {around : World} {u : ConfigUse} {j : ι}
    (own : ∀ k, tier k = tier i → k = i) (other : j ≠ i) :
    f.SameLevel (f.afterUse tier j setup around u) tier i := by
  have apart : tier i ≠ tier j := fun same => other (own j same.symm)
  constructor
  · simp only [afterUse, leftBy, if_neg apart]
  · simp only [afterUse, leftBy, if_neg other.symm]

omit [DecidableEq ι] [DecidableEq τ] in
theorem Level.of_same {g : Fleet ι τ} (level : f.Level tier i) (same : f.SameLevel g tier i) :
    g.Level tier i := by
  unfold Level at level ⊢
  rw [same.copy, same.checksum, level]

theorem ReadSince.use (since : ReadSince tier start f i) (j : ι) (setup : Setup) {around : World}
    (answers : around.ConfigAnswers) (u : ConfigUse)
    (same : f.SameLevel (f.afterUse tier j setup around u) tier i) :
    ReadSince tier start (f.afterUse tier j setup around u) i := by
  obtain ⟨before, setup', around', course, calm, moved, copy, rest, kept⟩ := since
  refine ⟨before, setup', around', course, calm, moved, copy, rest.use j setup around answers u, ?_⟩
  exact ⟨same.copy.trans kept.copy, same.checksum.trans kept.checksum⟩

/-- A service with a fast tier of its own has its snapshot there too, unless it has read it. -/
theorem Course.level (course : Course tier start f) (own : ∀ k, tier k = tier i → k = i)
    (level : start.Level tier i) : f.Level tier i ∨ ReadSince tier start f i := by
  induction course with
  | start => exact .inl level
  | @use g course j setup around answers u ih =>
    have carried (same : g.SameLevel (g.afterUse tier j setup around u) tier i) :=
      ih.imp (fun level => level.of_same same) fun since => since.use j setup answers u same
    by_cases mine : j = i
    · subst mine
      have seen : (g.seenBy tier j around).ConfigAnswers := answers_seenBy answers j
      rcases u.moves setup seen with level | same | ⟨rfl, copy, moved⟩
      · exact .inl (level_afterUse level)
      · exact carried (sameLevel_afterUse same)
      · refine .inr ⟨g, setup, around, course, answers, ?_, ?_, .start, rfl, rfl⟩
        · rw [published_afterUse]
          exact moved
        · rw [copies_afterUse]
          exact copy
    · exact carried (sameLevel_of_other own mine)

omit [DecidableEq ι] [DecidableEq τ] in
theorem perform_refresh (tier : ι → τ) (i : ι) {v : ConfigVersion}
    (master : f.table.master? = some v) (setup : Setup) {around : World}
    (answers : around.ConfigAnswers) :
    ∃ changed left,
      Service.refreshConfig.perform setup (f.seenBy tier i around) = (.ok changed, left) ∧
      Service.Refreshed (f.seenBy tier i around) v changed left :=
  Service.perform_refreshConfig setup (answers_seenBy answers i) master

/-- A refresh brings the snapshot up to date.  It brings the fast tier up to date too when it finds
a new master.  When it finds none it leaves the fast tier, which then is up to date unless the
service has come to know of the master by reading it. -/
theorem Course.refreshed (course : Course tier start f) (own : ∀ k, tier k = tier i → k = i)
    (level : start.Level tier i) {v : ConfigVersion} (master : f.table.master? = some v)
    (setup : Setup) {around : World} (answers : around.ConfigAnswers) :
    ∃ changed left,
      Service.refreshConfig.perform setup (f.seenBy tier i around) = (.ok changed, left) ∧
      left.config = f.table ∧ left.published.checksum = some v.checksum ∧
      (changed = true ↔ (f.published i).checksum ≠ some v.checksum) ∧
      (changed = true → left.configCopy = some v) ∧
      (changed = false → left.configCopy = f.copies (tier i)) ∧
      (left.configCopy.map (·.checksum) = some v.checksum ∨
        changed = false ∧ ReadSince tier start f i) := by
  obtain ⟨changed, left, run, done⟩ := perform_refresh tier i master setup answers
  have news : changed = true ↔ (f.published i).checksum ≠ some v.checksum := done.changed_iff
  have passed : changed = false → left.configCopy = f.copies (tier i) := done.passed
  refine ⟨changed, left, run, done.table, done.published, news, done.copied, passed, ?_⟩
  cases changed with
  | true =>
    left
    rw [done.copied rfl]
    rfl
  | false =>
    have known : (f.published i).checksum = some v.checksum := by simpa using news
    rcases course.level own level with level | since
    · left
      unfold Level at level
      rw [passed rfl, level, known]
    · exact .inr ⟨rfl, since⟩

theorem answers_default : (default : World).ConfigAnswers := by
  constructor <;> exact World.undisturbed_of_unplanned rfl _

theorem course_firstWritten : Course id unwritten firstWritten :=
  .use .start true default default answers_default (.call (.write .empty none "root"))

theorem firstWritten_master :
    firstWritten.table.master? = some (.written .empty "root" default) := by
  have run : Run id unwritten firstWritten [.written .empty "root" default] :=
    .call .start true default default answers_default (.write .empty none "root")
  exact (run.holds rfl).last

/-- The other service, which has not heard of the first configuration, gets its own copy of it. -/
theorem Course.late_service_refreshed :
    ∃ left, Service.refreshConfig.perform default (firstWritten.seenBy id false default) =
        (.ok true, left) ∧
      left.configCopy = some (.written .empty "root" default) := by
  obtain ⟨changed, left, run, -, -, news, copied, -⟩ := course_firstWritten.refreshed (i := false)
    (fun _ same => same) rfl firstWritten_master default answers_default
  have changed : changed = true := news.2 nofun
  subst changed
  exact ⟨left, run, copied rfl⟩

/-- A reading takes the snapshot to the master and leaves the table and the fast tier. -/
theorem afterUse_read (f : Fleet ι τ) (tier : ι → τ) (i : ι) (setup : Setup) {around : World}
    (answers : around.ConfigAnswers) :
    let told := f.afterUse tier i setup around (.call .read)
    told.table = f.table ∧ told.copies (tier i) = f.copies (tier i) ∧
      (told.published i).checksum = f.table.master?.map (·.checksum) := by
  intro told
  have reads : Service.Ends setup (f.seenBy tier i around) Service.readConfig
      (fun _ => Service.ToldMaster (f.seenBy tier i around))
      fun _ => Service.ToldMaster (f.seenBy tier i around) :=
    Service.ends_readConfig (answers_seenBy answers i) fun _ _ h => h
  obtain ⟨table, copy, published⟩ := reads.left
  refine ⟨table, ?_, ?_⟩
  · rw [copies_afterUse]
    exact copy
  · rw [published_afterUse]
    exact published

/-- A service that has read the master is not told of it by the next refresh, which leaves its fast
tier behind. -/
theorem read_hides_master (tier : ι → τ) (i : ι) {v : ConfigVersion}
    (master : f.table.master? = some v) (setup : Setup) {around : World}
    (answers : around.ConfigAnswers) (setup' : Setup) {around' : World}
    (answers' : around'.ConfigAnswers) :
    ∃ left, Service.refreshConfig.perform setup'
        ((f.afterUse tier i setup around (.call .read)).seenBy tier i around') = (.ok false, left) ∧
      left.config = f.table ∧ left.published.checksum = some v.checksum ∧
      left.configCopy = f.copies (tier i) := by
  obtain ⟨table, copies, published⟩ := afterUse_read f tier i setup answers
  have master' : (f.afterUse tier i setup around (.call .read)).table.master? = some v := by
    rw [table]
    exact master
  obtain ⟨changed, left, run, done⟩ := perform_refresh tier i master' setup' answers'
  have unchanged : changed = false := by
    have known : ¬ (f.table.master?.map (·.checksum)) ≠ some v.checksum := by simp [master]
    have news := done.changed_iff
    simp only [seenBy, published, known, iff_false, Bool.not_eq_true] at news
    exact news
  subst unchanged
  exact ⟨left, run, done.table.trans table, done.published, (done.passed rfl).trans copies⟩

/-- A service reads the first configuration, which another one has written, and refreshes: its fast
tier stays empty. -/
theorem Course.reader_without_copy :
    let told := firstWritten.afterUse id false default default (.call .read)
    Course id unwritten told ∧ told.table.master? = some (.written .empty "root" default) ∧
    ∃ left, Service.refreshConfig.perform default (told.seenBy id false default) =
        (.ok false, left) ∧
      left.published.checksum = some (ConfigVersion.written .empty "root" default).checksum ∧
      left.configCopy = none := by
  intro told
  have course : Course id unwritten told :=
    course_firstWritten.use false default default answers_default (.call .read)
  obtain ⟨left, run, table, published, copy⟩ := read_hides_master id false firstWritten_master
    default answers_default default answers_default
  have master : told.table.master? = some (.written .empty "root" default) := by
    rw [(afterUse_read firstWritten id false default answers_default).1]
    exact firstWritten_master
  exact ⟨course, master, left, run, published, copy⟩

end Fleet

end AccessBroker
